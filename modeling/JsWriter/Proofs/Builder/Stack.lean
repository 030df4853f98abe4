import JsWriter.Builder.Block

/-!
# A scope as a stack of frames

A scope owns the scope around it, and that one the next, down to a root. `Stack` is the same without
owners: a frame for each scope, of which there is always one. `Scope.stack` is the stack of a scope.

* `Scope.stack_append`: writing changes the top frame.
* `Scope.stack_openScope`: opening pushes an empty frame.
* `Scope.map_stack_close`: closing pops a frame and writes its call to the one below; a single frame
  can't be closed.
-/
namespace JsWriter

/-- The frames of the scopes that are open, the innermost on top; there is always one. -/
structure Stack where
  top : Frame
  below : List Frame
  deriving DecidableEq, Repr

namespace Stack

def frames (stack : Stack) : List Frame := stack.top :: stack.below

def write (stack : Stack) (text : String) : Stack :=
  ⟨⟨stack.top.args, stack.top.text ++ text⟩, stack.below⟩

def push (stack : Stack) (args : Option String) : Stack := ⟨⟨args, ""⟩, stack.frames⟩

/-- Takes the top frame off and writes its call to the one below. -/
def pop (stack : Stack) : Except CloseError Stack :=
  match stack.below with
  | [] => .error .root
  | next :: below => .ok (write ⟨next, below⟩ (Scope.call stack.top.args stack.top.text))

/-- The text of the only frame, or the call of the top one. -/
def render (stack : Stack) : String :=
  match stack.below with
  | [] => stack.top.text
  | _ :: _ => Scope.call stack.top.args stack.top.text

/-- The bottom frame has no parameters, and its text goes on from `start`. -/
def RestsOn (stack : Stack) (start : String) : Prop :=
  ∃ above more, stack.frames = above ++ [⟨none, start ++ more⟩]

variable {stack next : Stack} {start : String}

theorem RestsOn.write (h : stack.RestsOn start) (text : String) :
    (stack.write text).RestsOn start := by
  obtain ⟨above, more, hf⟩ := h
  cases above with
  | nil =>
    obtain ⟨ht, hb⟩ := List.cons.inj hf
    refine ⟨[], more ++ text, ?_⟩
    simp [frames, Stack.write, ht, hb, String.append_assoc]
  | cons frame above =>
    obtain ⟨ht, hb⟩ := List.cons.inj hf
    exact ⟨⟨stack.top.args, stack.top.text ++ text⟩ :: above, more, congrArg _ hb⟩

theorem RestsOn.push (h : stack.RestsOn start) (args : Option String) :
    (stack.push args).RestsOn start := by
  obtain ⟨above, more, hf⟩ := h
  exact ⟨⟨args, ""⟩ :: above, more, congrArg _ hf⟩

theorem RestsOn.pop (h : stack.RestsOn start) (hp : stack.pop = .ok next) :
    next.RestsOn start := by
  obtain ⟨above, more, hf⟩ := h
  obtain ⟨top, below⟩ := stack
  cases below with
  | nil => cases hp
  | cons frame below =>
    -- The frame that is popped lies above the bottom one, as there are two.
    cases above with
    | nil => simp [frames] at hf
    | cons _ above =>
      have lower : (⟨frame, below⟩ : Stack).RestsOn start := ⟨above, more, (List.cons.inj hf).2⟩
      obtain rfl := Except.ok.inj hp
      exact lower.write _

theorem pop_eq_error_iff (error : CloseError) :
    stack.pop = .error error ↔ error = .root ∧ stack.frames.length = 1 := by
  obtain ⟨top, below⟩ := stack
  cases below <;> simp [pop, frames, eq_comm]

end Stack

namespace Scope

def stack : Scope → Stack
  | root body => ⟨⟨none, body.text⟩, []⟩
  | nested parent args body => ⟨⟨args, body.text⟩, parent.stack.frames⟩

theorem frames_stack (scope : Scope) : scope.stack.frames = scope.frames := by
  induction scope with
  | root body => rfl
  | nested parent args body ih => exact congrArg _ ih

/-- A scope is rendered as its stack. -/
theorem render_stack (scope : Scope) : scope.stack.render = scope.finalize := by
  cases scope with
  | root body => rfl
  | nested parent args body => exact (finalize_nested parent args body).symm

theorem depth_stack (scope : Scope) : scope.depth + 1 = scope.stack.frames.length := by
  induction scope with
  | root body => rfl
  | nested parent args body ih =>
    show parent.depth + 1 + 1 = parent.stack.frames.length + 1
    rw [ih]

theorem top_stack (scope : Scope) : scope.stack.top = ⟨scope.args, scope.body⟩ := by
  cases scope <;> rfl

theorem isRoot_iff_stack (scope : Scope) :
    scope.isRoot = true ↔ scope.stack.frames.length = 1 := by
  rw [← depth_stack]
  cases scope <;> simp [isRoot, depth]

theorem stack_append (scope : Scope) (text : String) :
    (scope.append text).stack = scope.stack.write text := by
  cases scope <;> rfl

theorem stack_openScope (scope : Scope) (args : Option String) :
    (scope.openScope args).value.stack = scope.stack.push args := rfl

theorem map_stack_close (scope : Scope) :
    scope.close.map (·.value.stack) = scope.stack.pop := by
  cases scope with
  | root body => rfl
  | nested parent args body =>
    show Except.ok (parent.append (nested parent args body).finalize).stack = _
    rw [stack_append, finalize_nested]
    rfl

theorem close_eq_error_iff (scope : Scope) (error : CloseError) :
    scope.close = .error error ↔ scope.stack.pop = .error error := by
  rw [← map_stack_close]
  cases scope.close <;> simp [Except.map]

end Scope
end JsWriter
