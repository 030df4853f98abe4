import JsWriter.Builder.Block
import JsWriter.Builder.Log
import JsWriter.Builder.Scope
import JsWriter.Builder.TextBuffer
import JsWriter.Command.Filter
import JsWriter.Command.Run
import JsWriter.Json.Basic
import JsWriter.Json.Numeral
import JsWriter.Json.Reader
import JsWriter.Json.Skip
import JsWriter.Json.Text
import JsWriter.Json.Value
import JsWriter.Main
import JsWriter.Number.Binary64
import JsWriter.Number.Decimal
import JsWriter.Pattern.Atom
import JsWriter.Pattern.Bracket
import JsWriter.Pattern.WellFormed
import JsWriter.Proofs.Builder.Balance
import JsWriter.Proofs.Builder.Chain
import JsWriter.Proofs.Builder.Edits
import JsWriter.Proofs.Builder.Nesting
import JsWriter.Proofs.Builder.Runs
import JsWriter.Proofs.Builder.Stack
import JsWriter.Proofs.Command.Course
import JsWriter.Proofs.Command.Logging
import JsWriter.Proofs.Json.Places
import JsWriter.Proofs.Json.Reads
import JsWriter.Proofs.Json.Skipped
import JsWriter.Proofs.Json.Sound
import JsWriter.Proofs.Json.Spelling
import JsWriter.Proofs.Replay.Balance
import JsWriter.Proofs.Replay.Depth
import JsWriter.Proofs.Replay.Outcome
import JsWriter.Proofs.Replay.Reference
import JsWriter.Proofs.Replay.Refinement
import JsWriter.Proofs.Results
import JsWriter.Proofs.Script.Accepts
import JsWriter.Proofs.Script.Faults
import JsWriter.Proofs.Script.Forms
import JsWriter.Proofs.Script.Grammar
import JsWriter.Proofs.Script.Nesting
import JsWriter.Proofs.Script.Readable
import JsWriter.Proofs.Script.Reads
import JsWriter.Proofs.Script.Refusal
import JsWriter.Proofs.Script.Refuses
import JsWriter.Proofs.Stream.Agreement
import JsWriter.Proofs.Stream.Branches
import JsWriter.Proofs.Stream.Decoding
import JsWriter.Proofs.Stream.Statements
import JsWriter.Proofs.Text.Brackets
import JsWriter.Script.Decode
import JsWriter.Script.Mismatch
import JsWriter.Script.Replay
import JsWriter.Script.Statement
import JsWriter.Script.Stream
import JsWriter.Text.CharClass
import JsWriter.Text.Quoted
