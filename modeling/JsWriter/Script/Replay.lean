import JsWriter.Builder.Block
import JsWriter.Script.Stream

/-!
# Replaying a build script

Replaying a script writes its statements to a scope, one after another (`apply_all`). Blocks of
conditionals and functions are written to scopes of their own first. A conditional without branches has
no meaning and stops the replay; what was reported before it stays reported.

`render` turns the text of a build script into code, `build` the text of a list of statements into a
scope. Whatever can be wrong with the text comes before anything is replayed.
-/
namespace JsWriter

/-- Why a script can't be replayed. -/
inductive ReplayError where
  /-- A conditional has no branches. -/
  | emptyConditional
  /-- A scope can't be closed. -/
  | scope (error : CloseError)
  deriving DecidableEq, Repr

def ReplayError.message : ReplayError → String
  | emptyConditional => "'if' statement needs at least one branch"
  | scope error => error.message

/-- A step that may fail and reports events either way. -/
abbrev Replay := ExceptT ReplayError Log

namespace Replay

/-- A step that can't fail. -/
def ofLog {α : Type} (log : Log α) : Replay α := ExceptT.lift log

def events {α : Type} (replay : Replay α) : List Event := replay.run.events

def result {α : Type} (replay : Replay α) : Except ReplayError α := replay.run.value

end Replay

def Scope.closeStep (scope : Scope) : Replay Scope :=
  match scope.close with
  | .ok log => Replay.ofLog log
  | .error error => throw (.scope error)

mutual
/-- Writes a statement to a scope (`apply`). -/
def Statement.replay (scope : Scope) : Statement → Replay Scope
  | .var name none => pure (scope.declareVar name)
  | .var name (some value) => pure (scope.declareVarWith name value)
  | .assign name value => pure ((scope.assign value).to name)
  | .raw text => pure (scope.append text)
  | .line text => pure (scope.appendLine text)
  | .scope args body => do
    let inner ← Replay.ofLog (scope.openScope args)
    let inner ← Statement.replayAll inner body
    inner.closeStep
  | .cond [] _ => throw .emptyConditional
  | .cond (⟨condition, body⟩ :: rest) otherwise => do
    let block ← Statement.replayAll .empty body
    let chain ← Branch.replayAll (scope.ifBlock condition block) rest
    match otherwise with
    | none => Replay.ofLog chain.endIf
    | some body => do
      let block ← Statement.replayAll .empty body
      let chain ← Replay.ofLog (chain.elseBlock block)
      Replay.ofLog chain.endIf
  | .function header body => do
    let block ← Statement.replayAll .empty body
    Replay.ofLog (scope.declareFunction header block)

/-- Writes statements to a scope, each to what the one before gave (`apply_all`). -/
def Statement.replayAll (scope : Scope) : List Statement → Replay Scope
  | [] => pure scope
  | statement :: statements => do
    let scope ← Statement.replay scope statement
    Statement.replayAll scope statements

/-- Continues a chain with further branches: the loop over them in `apply`. -/
def Branch.replayAll (chain : IfChain) : List Branch → Replay IfChain
  | [] => pure chain
  | ⟨condition, body⟩ :: branches => do
    let block ← Statement.replayAll .empty body
    let chain ← Replay.ofLog (chain.elseIf condition block)
    Branch.replayAll chain branches
end

/-- Replays statements in a scope of their own (`build`). -/
def Statement.build (statements : List Statement) : Replay Scope :=
  Statement.replayAll .empty statements

/-! ## From text to code -/

/-- Why a text gives no code. -/
inductive ScriptError where
  | unreadable (error : ReadError)
  | replay (error : ReplayError)
  deriving DecidableEq, Repr

def ScriptError.message (text : String) : ScriptError → String
  | unreadable error => "invalid build script: " ++ error.message text.toList
  | replay error => error.message

/-- Replays a script that was read. -/
def Script.render (script : Script) : Log (Except ReplayError String) := do
  Log.emit (.rendering script.body.length)
  let result ← (Statement.build script.body).run
  pure (result.map Scope.finalize)

/-- The code that a build script asks for (`render`). -/
def render (text : String) : Log (Except ScriptError String) :=
  match Script.read text with
  | .error error => pure (.error (.unreadable error))
  | .ok script => do
    let result ← script.render
    pure (result.mapError .replay)

/-- The scope that a list of statements asks for, which was read from a text. -/
def build (text : String) : Log (Except ScriptError Scope) :=
  match Statement.readList text with
  | .error error => pure (.error (.unreadable error))
  | .ok statements => do
    let result ← (Statement.build statements).run
    pure (result.mapError .replay)

end JsWriter
