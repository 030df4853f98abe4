import JsWriter.Builder.Log
import JsWriter.Builder.TextBuffer

/-!
# Scopes

A scope is code under construction. The outermost scope is a root; opening a scope inside another
gives a nested one that owns what it is inside of, and closing it hands that back with the inner code
appended: a function that is called at once, so that its variables are its own. Writing goes to the
innermost scope only: whichever way it is done, it appends a text to the innermost code
(`modify_eq_append`, and an equation for each way of writing).

Names: `openScope` is `open_scope`, `open_scope_with` and the `open` behind them; `close` is
`close_scope`, `appendBlock` is `splice_block`, `ofText` is `jsb_with` and the `from` of a text, and
`empty` is `new` and `jsb`. `frames` is a scope as the stack of its texts, innermost first.
-/
namespace JsWriter

/-- Code under construction: a root, or a scope nested in another one with the parameters of its
function, if any. -/
inductive Scope where
  | root (body : TextBuffer)
  | nested (parent : Scope) (args : Option String) (body : TextBuffer)
  deriving DecidableEq, Repr

/-- Why a scope can't be closed. -/
inductive CloseError where
  /-- A root is in no other scope. -/
  | root
  deriving DecidableEq, Repr

def CloseError.message : CloseError → String
  | root => "can't close the top-level scope"

/-- The parameters and the text of one scope of a stack. -/
structure Frame where
  args : Option String
  text : String
  deriving DecidableEq, Repr

/-- The text of a function with the parameters `args` that is called at once. -/
def Scope.call (args : Option String) (body : String) : String :=
  "(function(" ++ args.getD "" ++ ") \x7b\n" ++ body ++ "\x7d)(" ++ args.getD "" ++ ")\n"

namespace Scope

def empty : Scope := root .empty

instance : Inhabited Scope := ⟨empty⟩

/-- A root that holds a text. -/
def ofText (text : String) : Scope := root (TextBuffer.empty.append text)

/-! ## Views -/

def isRoot : Scope → Bool
  | root _ => true
  | nested .. => false

/-- How many scopes the scope is inside of: the walk up the parents that `depth` makes. -/
def depth : Scope → Nat
  | root _ => 0
  | nested parent _ _ => parent.depth + 1

def args : Scope → Option String
  | root _ => none
  | nested _ args _ => args

/-- The code of the innermost scope. -/
def buffer : Scope → TextBuffer
  | root body => body
  | nested _ _ body => body

/-- The code of the innermost scope, as a text. -/
def body (scope : Scope) : String := scope.buffer.text

def parent? : Scope → Option Scope
  | root _ => none
  | nested parent _ _ => some parent

/-- The texts of the scope and of those around it, innermost first. -/
def frames : Scope → List Frame
  | root body => [⟨none, body.text⟩]
  | nested parent args body => ⟨args, body.text⟩ :: parent.frames

/-- The rendering (`finalize`): the text of a root, and the call of a nested scope's function, put around
a copy of its code at both ends. -/
def finalize : Scope → String
  | root body => body.text
  | nested _ args body =>
    (((((body.prepend ("(function(" ++ args.getD "" ++ ") \x7b\n")).append "\x7d)(").append
      (args.getD "")).append ")").newline).text

/-! ## Writing -/

def modify (f : TextBuffer → TextBuffer) : Scope → Scope
  | root body => root (f body)
  | nested parent args body => nested parent args (f body)

def append (scope : Scope) (text : String) : Scope :=
  scope.modify (·.append text)

def appendLine (scope : Scope) (text : String) : Scope :=
  scope.modify fun buffer => (buffer.append text).newline

def declareVar (scope : Scope) (name : String) : Scope :=
  scope.modify fun buffer => (((buffer.append "var ").append name).append ";").newline

def declareVarWith (scope : Scope) (name value : String) : Scope :=
  scope.modify fun buffer =>
    (((((buffer.append "var ").append name).append " = ").append value).append ";").newline

/-- Appends a block in braces behind an opener (`splice_block`). The line feed behind the block is written
whatever the block ends in. -/
def appendBlock (scope : Scope) (opener : String) (block : Scope) : Scope :=
  scope.modify fun buffer =>
    (((((((buffer.append opener).append " \x7b").newline).append block.finalize).newline).append
      "\x7d").newline)

/-! ## Opening and closing -/

/-- Opens a scope inside this one (`open`). The new scope's depth is reported, before it is there. -/
def openScope (scope : Scope) (args : Option String) : Log Scope := do
  Log.emit (.opening (scope.depth + 1) args)
  pure (nested scope args .empty)

/-- Closes the scope (`close_scope`): the one around it, with the rendering appended. A root is refused
before anything is reported. -/
def close (scope : Scope) : Except CloseError (Log Scope) :=
  match scope with
  | root _ => .error .root
  | nested parent args _ => .ok do
    let rendering := scope.finalize
    Log.emit (.closing scope.depth args rendering.utf8ByteSize)
    pure (parent.append rendering)

/-! ## What the operations do to the views -/

@[simp] theorem isRoot_modify (f : TextBuffer → TextBuffer) (scope : Scope) :
    (scope.modify f).isRoot = scope.isRoot := by
  cases scope <;> rfl

@[simp] theorem depth_modify (f : TextBuffer → TextBuffer) (scope : Scope) :
    (scope.modify f).depth = scope.depth := by
  cases scope <;> rfl

@[simp] theorem args_modify (f : TextBuffer → TextBuffer) (scope : Scope) :
    (scope.modify f).args = scope.args := by
  cases scope <;> rfl

@[simp] theorem parent?_modify (f : TextBuffer → TextBuffer) (scope : Scope) :
    (scope.modify f).parent? = scope.parent? := by
  cases scope <;> rfl

@[simp] theorem buffer_modify (f : TextBuffer → TextBuffer) (scope : Scope) :
    (scope.modify f).buffer = f scope.buffer := by
  cases scope <;> rfl

/-- A nested scope is rendered as the call of its function. -/
theorem finalize_nested (parent : Scope) (args : Option String) (body : TextBuffer) :
    (nested parent args body).finalize = call args body.text := by
  simp [finalize, call, String.append_assoc]

/-! ## Every way of writing appends a text -/

theorem modify_eq_append {f : TextBuffer → TextBuffer} {text : String}
    (h : ∀ buffer, (f buffer).text = buffer.text ++ text) (scope : Scope) :
    scope.modify f = scope.append text := by
  have hf : f = (·.append text) := funext fun buffer => TextBuffer.ext (h buffer)
  rw [hf]; rfl

theorem append_append (scope : Scope) (a b : String) :
    (scope.append a).append b = scope.append (a ++ b) := by
  cases scope <;> simp [append, modify, TextBuffer.append, String.append_assoc]

@[simp] theorem append_empty (scope : Scope) : scope.append "" = scope := by
  cases scope <;> simp [append, modify, TextBuffer.append]

theorem appendLine_eq (scope : Scope) (text : String) :
    scope.appendLine text = scope.append (text ++ "\n") :=
  modify_eq_append (fun buffer => by simp [String.append_assoc]) scope

theorem declareVar_eq (scope : Scope) (name : String) :
    scope.declareVar name = scope.append ("var " ++ name ++ ";\n") :=
  modify_eq_append (fun buffer => by simp [String.append_assoc]) scope

theorem declareVarWith_eq (scope : Scope) (name value : String) :
    scope.declareVarWith name value = scope.append ("var " ++ name ++ " = " ++ value ++ ";\n") :=
  modify_eq_append (fun buffer => by simp [String.append_assoc]) scope

theorem appendBlock_eq (scope : Scope) (opener : String) (block : Scope) :
    scope.appendBlock opener block =
      scope.append (opener ++ " \x7b\n" ++ block.finalize ++ "\n\x7d\n") :=
  modify_eq_append (fun buffer => by simp [String.append_assoc]) scope

end Scope

/-- A value that waits for the variable it is assigned to. -/
structure Assignment where
  scope : Scope
  value : String
  deriving DecidableEq, Repr

namespace Scope

/-- Begins an assignment (`assign`). Nothing is written before its target is named. -/
def assign (scope : Scope) (value : String) : Assignment := ⟨scope, value⟩

end Scope

/-- Names the target of an assignment (`to`), and writes it. -/
def Assignment.to (assignment : Assignment) (name : String) : Scope :=
  (((assignment.scope.append name).append " = ").append assignment.value).appendLine ";"

theorem Assignment.to_eq (assignment : Assignment) (name : String) :
    assignment.to name = assignment.scope.append (name ++ " = " ++ assignment.value ++ ";\n") := by
  simp only [Assignment.to, Scope.appendLine_eq, Scope.append_append, String.append_assoc]
  rfl

end JsWriter
