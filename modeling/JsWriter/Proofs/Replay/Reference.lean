import JsWriter.Script.Replay

/-!
# What a build script means, without scopes and chains

Replaying a script threads a scope and pending chains through its statements. Here a script is read
off directly, by recursion over its statements alone:

* `Statement.textAll`: the code of a list of statements.
* `Statement.marksAll`: the events of a list of statements at a depth, in their order, with a stop
  mark wherever a conditional without branches stands.
* `Statement.AllBranched`: every conditional, at any depth, has a branch. `stop_mem_marksAll`: there
  is a stop mark exactly where that fails.
-/
namespace JsWriter

/-! ## The code -/

mutual
def Statement.text : Statement → String
  | .var name none => "var " ++ name ++ ";\n"
  | .var name (some value) => "var " ++ name ++ " = " ++ value ++ ";\n"
  | .assign name value => name ++ " = " ++ value ++ ";\n"
  | .raw text => text
  | .line text => text ++ "\n"
  | .scope args body => Scope.call args (Statement.textAll body)
  | .cond branches none => Branch.textAll .initial branches
  | .cond branches (some body) =>
    Branch.textAll .initial branches ++ ("else \x7b\n" ++ Statement.textAll body ++ "\n\x7d\n")
  | .function header body =>
    "function " ++ header ++ " \x7b\n" ++ Statement.textAll body ++ "\n\x7d\n"

def Statement.textAll : List Statement → String
  | [] => ""
  | statement :: statements => statement.text ++ Statement.textAll statements

/-- The code of branches: the first one begins with `keyword`, all others with `else if`. -/
def Branch.textAll (keyword : Keyword) : List Branch → String
  | [] => ""
  | ⟨condition, body⟩ :: branches =>
    keyword.text ++ " (" ++ condition ++ ") \x7b\n" ++ Statement.textAll body ++ "\n\x7d\n" ++
      Branch.textAll .further branches
end

/-! ## The events -/

/-- An event, or the place where a conditional without branches stops everything. -/
inductive Mark where
  | event (event : Event)
  | stop
  deriving DecidableEq, Repr

/-- The events before the first stop mark. -/
def Mark.events : List Mark → List Event
  | [] => []
  | .event e :: marks => e :: Mark.events marks
  | .stop :: _ => []

mutual
/-- The marks of a statement in a scope at a depth. Only the body of a scope lies deeper; blocks of
conditionals and functions are roots. -/
def Statement.marks (depth : Nat) : Statement → List Mark
  | .var _ _ => []
  | .assign _ _ => []
  | .raw _ => []
  | .line _ => []
  | .scope args body =>
    .event (.opening (depth + 1) args) :: (Statement.marksAll (depth + 1) body ++
      [.event (.closing (depth + 1) args (Scope.call args (Statement.textAll body)).utf8ByteSize)])
  | .cond [] _ => [.stop]
  | .cond (⟨condition, body⟩ :: branches) none =>
    Statement.marksAll 0 body ++ Branch.marksAll (.clause .initial condition) none branches
  | .cond (⟨condition, body⟩ :: branches) (some block) =>
    Statement.marksAll 0 body ++
      Branch.marksAll (.clause .initial condition) (some (Statement.marksAll 0 block)) branches
  | .function header body => Statement.marksAll 0 body ++ [.event (.function header)]

def Statement.marksAll (depth : Nat) : List Statement → List Mark
  | [] => []
  | statement :: statements => statement.marks depth ++ Statement.marksAll depth statements

/-- The marks of the branches that follow a clause. The event of a clause, `written`, comes behind
the block after it: the next branch's, or the one for when no condition holds, whose marks are
`otherwise`. -/
def Branch.marksAll (written : Event) (otherwise : Option (List Mark)) : List Branch → List Mark
  | [] =>
    match otherwise with
    | none => [.event written]
    | some marks => marks ++ [.event written, .event .otherwise]
  | ⟨condition, body⟩ :: branches =>
    Statement.marksAll 0 body ++ .event written ::
      Branch.marksAll (.clause .further condition) otherwise branches
end

/-! ## Conditionals without branches -/

mutual
/-- Every conditional in the statement has a branch. -/
def Statement.Branched : Statement → Prop
  | .var _ _ => True
  | .assign _ _ => True
  | .raw _ => True
  | .line _ => True
  | .scope _ body => Statement.AllBranched body
  | .cond branches none => branches ≠ [] ∧ Branch.AllBranched branches
  | .cond branches (some body) =>
    branches ≠ [] ∧ Branch.AllBranched branches ∧ Statement.AllBranched body
  | .function _ body => Statement.AllBranched body

def Statement.AllBranched : List Statement → Prop
  | [] => True
  | statement :: statements => statement.Branched ∧ Statement.AllBranched statements

def Branch.AllBranched : List Branch → Prop
  | [] => True
  | ⟨_, body⟩ :: branches => Statement.AllBranched body ∧ Branch.AllBranched branches
end

/-! ## Stop marks -/

namespace Mark

/-- Without a stop mark all marks are events. -/
theorem map_events {marks : List Mark} (h : .stop ∉ marks) : (events marks).map .event = marks := by
  induction marks with
  | nil => rfl
  | cons mark marks ih =>
    rw [List.mem_cons, not_or] at h
    cases mark with
    | event e => simp only [events, List.map_cons, ih h.2]
    | stop => exact absurd rfl h.1

/-- With a stop mark the events are what comes before the first one. -/
theorem split_events {marks : List Mark} (h : .stop ∈ marks) :
    ∃ rest, marks = (events marks).map .event ++ .stop :: rest := by
  induction marks with
  | nil => cases h
  | cons mark marks ih =>
    cases mark with
    | event e =>
      obtain ⟨rest, hr⟩ := ih (by simpa using h)
      exact ⟨rest, by rw [events, List.map_cons, List.cons_append, ← hr]⟩
    | stop => exact ⟨marks, rfl⟩

theorem events_append_of_stop {marks : List Mark} (h : .stop ∈ marks) (more : List Mark) :
    events (marks ++ more) = events marks := by
  induction marks with
  | nil => cases h
  | cons mark marks ih =>
    cases mark with
    | event e => simp only [List.cons_append, events, ih (by simpa using h)]
    | stop => rfl

theorem events_append {marks : List Mark} (h : .stop ∉ marks) (more : List Mark) :
    events (marks ++ more) = events marks ++ events more := by
  induction marks with
  | nil => rfl
  | cons mark marks ih =>
    rw [List.mem_cons, not_or] at h
    cases mark with
    | event e => simp only [List.cons_append, events, ih h.2]
    | stop => exact absurd rfl h.1

end Mark

mutual
theorem Statement.stop_mem_marks (depth : Nat) :
    ∀ statement : Statement, .stop ∈ statement.marks depth ↔ ¬ statement.Branched
  | .var _ _ => by simp [Statement.marks, Statement.Branched]
  | .assign _ _ => by simp [Statement.marks, Statement.Branched]
  | .raw _ => by simp [Statement.marks, Statement.Branched]
  | .line _ => by simp [Statement.marks, Statement.Branched]
  | .scope _ body => by simp [Statement.marks, Statement.Branched, Statement.stop_mem_marksAll (depth + 1) body]
  | .cond [] none => by simp [Statement.marks, Statement.Branched]
  | .cond [] (some _) => by simp [Statement.marks, Statement.Branched]
  | .cond (⟨condition, body⟩ :: branches) none => by
    have h := Branch.stop_mem_marksAll (.clause .initial condition) none branches
    simp [Statement.marks, Statement.Branched, Branch.AllBranched, Statement.stop_mem_marksAll 0 body, h,
      Classical.not_and_iff_not_or_not, -not_and]
  | .cond (⟨condition, body⟩ :: branches) (some block) => by
    have h := Branch.stop_mem_marksAll (.clause .initial condition)
      (some (Statement.marksAll 0 block)) branches
    simp [Statement.marks, Statement.Branched, Branch.AllBranched, Statement.stop_mem_marksAll 0 body,
      Statement.stop_mem_marksAll 0 block, h, Classical.not_and_iff_not_or_not, or_assoc, -not_and]
  | .function _ body => by simp [Statement.marks, Statement.Branched, Statement.stop_mem_marksAll 0 body]

/-- **Stop marks.** There is one exactly when some conditional has no branches. -/
theorem Statement.stop_mem_marksAll (depth : Nat) :
    ∀ statements : List Statement,
      .stop ∈ Statement.marksAll depth statements ↔ ¬ Statement.AllBranched statements
  | [] => by simp [Statement.marksAll, Statement.AllBranched]
  | statement :: statements => by
    simp [Statement.marksAll, Statement.AllBranched, Statement.stop_mem_marks depth statement,
      Statement.stop_mem_marksAll depth statements, Classical.not_and_iff_not_or_not, -not_and]

theorem Branch.stop_mem_marksAll (written : Event) (otherwise : Option (List Mark)) :
    ∀ branches : List Branch, .stop ∈ Branch.marksAll written otherwise branches ↔
      ¬ Branch.AllBranched branches ∨ ∃ marks, otherwise = some marks ∧ .stop ∈ marks
  | [] => by cases otherwise <;> simp [Branch.marksAll, Branch.AllBranched]
  | ⟨condition, body⟩ :: branches => by
    simp [Branch.marksAll, Branch.AllBranched, Statement.stop_mem_marksAll 0 body,
      Branch.stop_mem_marksAll (.clause .further condition) otherwise branches,
      Classical.not_and_iff_not_or_not, or_assoc, -not_and]
end

theorem Statement.stop_notMem_marksAll (depth : Nat) {statements : List Statement}
    (h : Statement.AllBranched statements) : .stop ∉ Statement.marksAll depth statements :=
  fun hs => (Statement.stop_mem_marksAll depth statements).mp hs h

end JsWriter
