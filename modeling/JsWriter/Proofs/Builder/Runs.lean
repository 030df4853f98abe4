import JsWriter.Proofs.Builder.Chain
import JsWriter.Proofs.Builder.Stack
import JsWriter.Proofs.Results

/-!
# Runs of the builder

A `Call` is a call on a scope that gives a scope back. A conditional, which is a chain of calls, counts
as one, from its first clause to its end. `Scope.run` makes calls one after another; a root that is to
be closed ends the run, and what was reported before stays reported. `Stack.run` does the same to a
stack of frames: opening pushes a frame, closing pops one, and every other call writes its text,
`Call.text`, to the top one.

* `Scope.perform_write`: what a call that neither opens nor closes does to a scope.
* `Scope.map_stack_perform`: one call does to a scope what it does to its stack.
* `Scope.map_stack_run`: so do all calls of a run.
* `run_refines_stack`: runs from a root, their failures, and the frames that they leave behind.
-/
namespace JsWriter

/-- A call on a scope. -/
inductive Call where
  | declareVar (name : String)
  | declareVarWith (name value : String)
  /-- An assignment and its target. -/
  | assign (value name : String)
  | append (text : String)
  | appendLine (text : String)
  | openScope (args : Option String)
  | close
  /-- A conditional: its first clause, the further ones, and the block for when none holds. -/
  | chain (condition : String) (block : Scope) (more : List (String × Scope))
      (otherwise : Option Scope)
  | ifThen (condition : String) (block : Scope)
  | declareFunction (header : String) (body : Scope)
  /-- A declaration that was made before. -/
  | writeFunction (decl : FunctionDecl)
  deriving DecidableEq, Repr

/-! ## On scopes -/

namespace Scope

def perform (scope : Scope) : Call → Except CloseError (Log Scope)
  | .declareVar name => .ok (pure (scope.declareVar name))
  | .declareVarWith name value => .ok (pure (scope.declareVarWith name value))
  | .assign value name => .ok (pure ((scope.assign value).to name))
  | .append text => .ok (pure (scope.append text))
  | .appendLine text => .ok (pure (scope.appendLine text))
  | .openScope args => .ok (scope.openScope args)
  | .close => scope.close
  | .chain condition block more otherwise => .ok do
    let chain ← (scope.ifBlock condition block).elseIfs more
    chain.finish otherwise
  | .ifThen condition block => .ok (scope.ifThen condition block)
  | .declareFunction header body => .ok (scope.declareFunction header body)
  | .writeFunction decl => .ok (decl.writeTo scope)

/-- Makes calls, each on the scope that the one before gave. -/
def run (scope : Scope) : (calls : List Call) → Log (Except CloseError Scope)
  | [] => pure (.ok scope)
  | call :: calls =>
    match scope.perform call with
    | .error error => pure (.error error)
    | .ok step => do
      let scope ← step
      scope.run calls

end Scope

/-! ## On stacks -/

namespace Call

/-- What a call writes to the top frame. -/
def text : Call → String
  | declareVar name => "var " ++ name ++ ";\n"
  | declareVarWith name value => "var " ++ name ++ " = " ++ value ++ ";\n"
  | assign value name => name ++ " = " ++ value ++ ";\n"
  | append text => text
  | appendLine text => text ++ "\n"
  | openScope _ => ""
  | close => ""
  | chain condition block more otherwise =>
    Clause.textAll (Clause.inOrder condition block more) ++ ElseChain.text otherwise
  | ifThen condition block => Clause.text ⟨.initial, condition, block⟩
  | declareFunction header body => FunctionDecl.text ⟨header, body⟩
  | writeFunction decl => decl.text

/-- The call writes: it neither opens nor closes a scope. -/
def Writes : Call → Prop
  | openScope _ => False
  | close => False
  | _ => True

theorem opens_or_closes_or_writes (call : Call) :
    (∃ args, call = openScope args) ∨ call = close ∨ call.Writes := by
  cases call with
  | openScope args => exact .inl ⟨args, rfl⟩
  | close => exact .inr (.inl rfl)
  | _ => exact .inr (.inr trivial)

end Call

namespace Stack

def step (stack : Stack) : Call → Except CloseError Stack
  | .openScope args => .ok (stack.push args)
  | .close => stack.pop
  | call => .ok (stack.write call.text)

def run (stack : Stack) : (calls : List Call) → Except CloseError Stack
  | [] => .ok stack
  | call :: calls => (stack.step call).bind fun stack => stack.run calls

theorem step_of_writes {call : Call} (h : call.Writes) (stack : Stack) :
    stack.step call = .ok (stack.write call.text) := by
  cases call <;> first | rfl | exact h.elim

end Stack

/-! ## Calls and runs -/

namespace Scope

/-- **A call that writes.** It appends its text to the scope and changes nothing else. -/
theorem perform_write {call : Call} (h : call.Writes) (scope : Scope) :
    (scope.perform call).map (·.value) = .ok (scope.append call.text) := by
  cases call with
  | declareVar name => exact congrArg _ (scope.declareVar_eq name)
  | declareVarWith name value => exact congrArg _ (scope.declareVarWith_eq name value)
  | assign value name => exact congrArg _ (scope.assign value |>.to_eq name)
  | append text => rfl
  | appendLine text => exact congrArg _ (scope.appendLine_eq text)
  | openScope args => exact h.elim
  | close => exact h.elim
  | chain condition block more otherwise =>
    have ended := IfChain.ifBlock_finish scope condition block more otherwise
    exact congrArg (fun log => Except.ok log.value) ended
  | ifThen condition block =>
    exact congrArg (fun log => Except.ok log.value) (scope.ifBlock condition block).endIf_eq
  | declareFunction header body =>
    exact congrArg (fun log => Except.ok log.value) (FunctionDecl.writeTo_eq ⟨header, body⟩ scope)
  | writeFunction decl => exact congrArg (fun log => Except.ok log.value) (decl.writeTo_eq scope)

/-- **One call.** It does to the stack of a scope what it does to the scope. -/
theorem map_stack_perform (scope : Scope) (call : Call) :
    (scope.perform call).map (·.value.stack) = scope.stack.step call := by
  rcases call.opens_or_closes_or_writes with ⟨args, rfl⟩ | rfl | h
  · exact congrArg Except.ok (scope.stack_openScope args)
  · exact scope.map_stack_close
  · rw [Stack.step_of_writes h, ← stack_append]
    have written := congrArg (Except.map stack) (perform_write h scope)
    cases hp : scope.perform call with
    | error error => rw [hp] at written; cases written
    | ok step => rw [hp] at written; exact written

/-- **Runs.** They do to the stack of a scope what they do to the scope. -/
theorem map_stack_run (scope : Scope) (calls : List Call) :
    (scope.run calls).value.map stack = scope.stack.run calls := by
  induction calls generalizing scope with
  | nil => rfl
  | cons call calls ih =>
    rw [run, Stack.run, ← map_stack_perform]
    cases scope.perform call with
    | error error => rfl
    | ok step => exact ih step.value

end Scope

/-- The bottom frame stays at the bottom. -/
theorem Stack.RestsOn.run {stack last : Stack} {start : String} {calls : List Call}
    (h : stack.RestsOn start) (hr : stack.run calls = .ok last) : last.RestsOn start := by
  induction calls generalizing stack with
  | nil =>
    obtain rfl := Except.ok.inj hr
    exact h
  | cons call calls ih =>
    obtain ⟨next, hs, hr⟩ := bind_eq_ok_iff.mp hr
    refine ih ?_ hr
    rcases call.opens_or_closes_or_writes with ⟨args, rfl⟩ | rfl | hw
    · obtain rfl := Except.ok.inj hs
      exact h.push args
    · exact h.pop hs
    · rw [step_of_writes hw] at hs
      obtain rfl := Except.ok.inj hs
      exact h.write _

/-- **A scope is a stack of frames.** A run from a root does to the frames of the scope what its calls
do to a stack that begins with the root's frame alone; it fails where the stack can't be popped. A
scope that it gives can't be closed exactly when there is one frame. The bottom frame is never popped,
has no parameters, and keeps the text that it began with. Any scope, also one that is handed in as a
block, is rendered as its frames are: one as its text, the top one of several as its call. -/
theorem run_refines_stack (body : TextBuffer) (calls : List Call) :
    ((Scope.root body).run calls).value.map Scope.frames =
      (Stack.run ⟨⟨none, body.text⟩, []⟩ calls).map Stack.frames ∧
    (∀ scope : Scope, scope.stack.frames = scope.frames ∧ scope.finalize = scope.stack.render) ∧
    ∀ scope, ((Scope.root body).run calls).value = .ok scope →
      (∀ error, scope.close = .error error ↔ error = .root ∧ scope.frames.length = 1) ∧
      (∃ above more, scope.frames = above ++ [⟨none, body.text ++ more⟩]) ∧
      scope.frames.head? = some ⟨scope.args, scope.body⟩ ∧
      scope.frames.length = scope.depth + 1 ∧
      (scope.isRoot = true ↔ scope.frames.length = 1) := by
  have runs := (Scope.root body).map_stack_run calls
  refine ⟨?_, fun scope => ⟨scope.frames_stack, scope.render_stack.symm⟩, ?_⟩
  · rw [show Stack.run ⟨⟨none, body.text⟩, []⟩ calls = _ from runs.symm]
    cases ((Scope.root body).run calls).value with
    | error error => rfl
    | ok scope => exact congrArg Except.ok scope.frames_stack.symm
  · intro scope hr
    rw [hr] at runs
    have rests : (Scope.root body).stack.RestsOn body.text :=
      ⟨[], "", by simp [Stack.frames, Scope.stack]⟩
    rw [← scope.frames_stack]
    refine ⟨?_, rests.run runs.symm, ?_, scope.depth_stack.symm, scope.isRoot_iff_stack⟩
    · intro error
      rw [scope.close_eq_error_iff, Stack.pop_eq_error_iff]
    · rw [← scope.top_stack]
      rfl

/-- A conditional in a scope, one of whose blocks is still open, and a scope that closes. -/
theorem run_refines_stack_inside :
    ∃ scope, ((Scope.root ⟨"a;"⟩).run
        [.openScope (some "x"),
          .chain "p" (.nested .empty (some "y") ⟨"f();"⟩) [("q", .ofText "g();")] none,
          .openScope none, .append "h();", .close]).value = .ok scope ∧
      scope.frames =
        [⟨some "x", "if (p) \x7b\n(function(y) \x7b\nf();\x7d)(y)\n\n\x7d\nelse if (q) \x7b\ng();\n\x7d\n" ++
          "(function() \x7b\nh();\x7d)()\n"⟩, ⟨none, "a;"⟩] ∧
      ∀ error, scope.close ≠ .error error := by
  obtain ⟨-, -, hs⟩ := run_refines_stack ⟨"a;"⟩
    [.openScope (some "x"),
      .chain "p" (.nested .empty (some "y") ⟨"f();"⟩) [("q", .ofText "g();")] none,
      .openScope none, .append "h();", .close]
  refine ⟨_, rfl, by decide, ?_⟩
  intro error he
  exact absurd (((hs _ rfl).1 error).mp he).2 (by decide)

end JsWriter
