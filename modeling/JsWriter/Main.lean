import JsWriter.Command.Run

/-!
# The program

Reads the script, from a file or from standard input, and prints what `Command.answer` says.
-/
namespace JsWriter

/-- The system's words for an error, with its number. -/
def Command.wording : IO.Error → String
  | .userError words => words
  | .unexpectedEof => "unexpected end of file"
  | .interrupted _ code words | .noFileOrDirectory _ code words => numbered words code
  | .alreadyExists _ code words | .inappropriateType _ code words | .invalidArgument _ code words
  | .noSuchThing _ code words | .permissionDenied _ code words
  | .resourceExhausted _ code words => numbered words code
  | .hardwareFault code words | .illegalOperation code words | .otherError code words
  | .protocolError code words | .resourceBusy code words | .resourceVanished code words
  | .timeExpired code words | .unsatisfiedConstraints code words
  | .unsupportedOperation code words => numbered words code
where
  numbered (words : String) (code : UInt32) : String := words ++ " (os error " ++ toString code ++ ")"

/-- What is read from a source. -/
def Command.Source.fetch (source : Command.Source) : IO Reading := do
  try
    match source with
    | .stdin =>
      let stream ← IO.getStdin
      return .ok (← stream.readBinToEnd)
    | .file path =>
      let file ← IO.FS.Handle.mk path .read
      return .ok (← file.readBinToEnd)
  catch error =>
    return .error (wording error)

/-- The outcome of a run with some arguments. -/
def Command.perform (args : List String) : IO Command.Outcome := do
  match Command.plan args with
  | .help => return Command.help
  | .render source =>
    let setting ← IO.getEnv "JSB_LOG"
    return Command.answer (.ofSetting setting) source (← source.fetch)

end JsWriter

open JsWriter

/-- Renders the script that the arguments name. -/
def main (args : List String) : IO UInt32 := do
  let outcome ← Command.perform args
  let stderr ← IO.getStderr
  stderr.putStr outcome.stderr
  let stdout ← IO.getStdout
  stdout.putStr outcome.stdout
  return outcome.code
