import JsWriter.Proofs.Replay.Refinement

/-!
# How a replay ends

A replay ends well or with a conditional that has no branches, wherever that stands; closing never
fails, because the scope that a statement closes is the one it has opened.

* `Statement.Inside`: a statement stands somewhere in a list of statements, at any depth.
* `Statement.allBranched_iff`: every conditional has a branch when there is none without any inside.
* `Statement.result_of_allBranched`, `Statement.result_of_not_allBranched`: the two ends of a replay.
* `rendering_outcomes`: which texts render, and why the others don't.
-/
namespace JsWriter

/-! ## Statements inside statements -/

/-- The statement is one of the statements, or stands in a block of one of them, at any depth. -/
inductive Statement.Inside (statement : Statement) : List Statement → Prop
  | here {statements : List Statement} :
      statement ∈ statements → statement.Inside statements
  | scope {args : Option String} {body statements : List Statement} :
      .scope args body ∈ statements → statement.Inside body → statement.Inside statements
  | branch {branches : List Branch} {otherwise : Option (List Statement)} {branch : Branch}
      {statements : List Statement} :
      .cond branches otherwise ∈ statements → branch ∈ branches → statement.Inside branch.body →
        statement.Inside statements
  | otherwise {branches : List Branch} {body statements : List Statement} :
      .cond branches (some body) ∈ statements → statement.Inside body → statement.Inside statements
  | function {header : String} {body statements : List Statement} :
      .function header body ∈ statements → statement.Inside body → statement.Inside statements

theorem Statement.Inside.mono {statement : Statement} {few many : List Statement}
    (h : statement.Inside few) (hm : few ⊆ many) : statement.Inside many := by
  cases h with
  | here member => exact .here (hm member)
  | scope member inside => exact .scope (hm member) inside
  | branch member branch inside => exact .branch (hm member) branch inside
  | otherwise member inside => exact .otherwise (hm member) inside
  | function member inside => exact .function (hm member) inside

/-! ## Conditionals without branches -/

theorem Statement.AllBranched.of_mem {statement : Statement} {statements : List Statement}
    (h : Statement.AllBranched statements) (hm : statement ∈ statements) : statement.Branched := by
  induction statements with
  | nil => cases hm
  | cons first rest ih =>
    rw [Statement.AllBranched] at h
    rcases List.mem_cons.mp hm with rfl | hm
    · exact h.1
    · exact ih h.2 hm

theorem Branch.AllBranched.of_mem {branch : Branch} {branches : List Branch}
    (h : Branch.AllBranched branches) (hm : branch ∈ branches) :
    Statement.AllBranched branch.body := by
  induction branches with
  | nil => cases hm
  | cons first rest ih =>
    obtain ⟨condition, body⟩ := first
    rw [Branch.AllBranched] at h
    rcases List.mem_cons.mp hm with rfl | hm
    · exact h.1
    · exact ih h.2 hm

theorem Statement.Branched.cond {branches : List Branch} {otherwise : Option (List Statement)}
    (h : (Statement.cond branches otherwise).Branched) :
    branches ≠ [] ∧ Branch.AllBranched branches := by
  cases otherwise with
  | none => rwa [Statement.Branched] at h
  | some body =>
    rw [Statement.Branched] at h
    exact ⟨h.1, h.2.1⟩

/-- What holds of all conditionals holds of those inside. -/
theorem Statement.Inside.branched {statement : Statement} {statements : List Statement}
    (hi : statement.Inside statements) (h : Statement.AllBranched statements) :
    statement.Branched := by
  induction hi with
  | here member => exact h.of_mem member
  | scope member _ ih =>
    have body := h.of_mem member
    rw [Statement.Branched] at body
    exact ih body
  | branch member branch _ ih => exact ih ((h.of_mem member).cond.2.of_mem branch)
  | otherwise member _ ih =>
    have body := h.of_mem member
    rw [Statement.Branched] at body
    exact ih body.2.2
  | function member _ ih =>
    have body := h.of_mem member
    rw [Statement.Branched] at body
    exact ih body

/-- A conditional without branches stands somewhere in the statements. -/
def Statement.HasEmpty (statements : List Statement) : Prop :=
  ∃ otherwise, (Statement.cond [] otherwise).Inside statements

mutual
theorem Statement.hasEmpty_of_not_branched : ∀ statement : Statement,
    ¬ statement.Branched → Statement.HasEmpty [statement]
  | .var _ _, h => absurd trivial (by rwa [Statement.Branched] at h)
  | .assign _ _, h => absurd trivial (by rwa [Statement.Branched] at h)
  | .raw _, h => absurd trivial (by rwa [Statement.Branched] at h)
  | .line _, h => absurd trivial (by rwa [Statement.Branched] at h)
  | .scope args body, h => by
    rw [Statement.Branched] at h
    obtain ⟨otherwise, inside⟩ := Statement.hasEmpty_of_not_allBranched body h
    exact ⟨otherwise, .scope (List.mem_singleton_self _) inside⟩
  | .cond [] otherwise, _ => ⟨otherwise, .here (List.mem_singleton_self _)⟩
  | .cond (first :: rest) none, h => by
    rw [Statement.Branched] at h
    have inner : ¬ Branch.AllBranched (first :: rest) := fun hb => h ⟨List.cons_ne_nil _ _, hb⟩
    obtain ⟨branch, member, otherwise, inside⟩ :=
      Branch.hasEmpty_of_not_allBranched (first :: rest) inner
    exact ⟨otherwise, .branch (List.mem_singleton_self _) member inside⟩
  | .cond (first :: rest) (some body), h => by
    rw [Statement.Branched] at h
    by_cases hb : Branch.AllBranched (first :: rest)
    · have inner : ¬ Statement.AllBranched body := fun hs => h ⟨List.cons_ne_nil _ _, hb, hs⟩
      obtain ⟨otherwise, inside⟩ := Statement.hasEmpty_of_not_allBranched body inner
      exact ⟨otherwise, .otherwise (List.mem_singleton_self _) inside⟩
    · obtain ⟨branch, member, otherwise, inside⟩ :=
        Branch.hasEmpty_of_not_allBranched (first :: rest) hb
      exact ⟨otherwise, .branch (List.mem_singleton_self _) member inside⟩
  | .function header body, h => by
    rw [Statement.Branched] at h
    obtain ⟨otherwise, inside⟩ := Statement.hasEmpty_of_not_allBranched body h
    exact ⟨otherwise, .function (List.mem_singleton_self _) inside⟩

theorem Statement.hasEmpty_of_not_allBranched : ∀ statements : List Statement,
    ¬ Statement.AllBranched statements → Statement.HasEmpty statements
  | [], h => absurd trivial (by rwa [Statement.AllBranched] at h)
  | statement :: statements, h => by
    rw [Statement.AllBranched] at h
    by_cases hs : statement.Branched
    · have inner : ¬ Statement.AllBranched statements := fun hr => h ⟨hs, hr⟩
      obtain ⟨otherwise, inside⟩ := Statement.hasEmpty_of_not_allBranched statements inner
      exact ⟨otherwise, inside.mono (List.subset_cons_self _ _)⟩
    · obtain ⟨otherwise, inside⟩ := Statement.hasEmpty_of_not_branched statement hs
      refine ⟨otherwise, inside.mono ?_⟩
      intro found hf
      rw [List.mem_singleton.mp hf]
      exact List.mem_cons_self

theorem Branch.hasEmpty_of_not_allBranched : ∀ branches : List Branch,
    ¬ Branch.AllBranched branches → ∃ branch ∈ branches, Statement.HasEmpty branch.body
  | [], h => absurd trivial (by rwa [Branch.AllBranched] at h)
  | ⟨condition, body⟩ :: branches, h => by
    rw [Branch.AllBranched] at h
    by_cases hb : Statement.AllBranched body
    · have inner : ¬ Branch.AllBranched branches := fun hr => h ⟨hb, hr⟩
      obtain ⟨branch, member, inside⟩ := Branch.hasEmpty_of_not_allBranched branches inner
      exact ⟨branch, List.mem_cons_of_mem _ member, inside⟩
    · exact ⟨_, List.mem_cons_self, Statement.hasEmpty_of_not_allBranched body hb⟩
end

/-- **Conditionals without branches.** Some statements have none exactly when every conditional,
whichever block it stands in, has a branch. -/
theorem Statement.allBranched_iff (statements : List Statement) :
    Statement.AllBranched statements ↔ ¬ Statement.HasEmpty statements := by
  constructor
  · intro h
    rintro ⟨otherwise, inside⟩
    exact (inside.branched h).cond.1 rfl
  · intro h
    apply Classical.byContradiction
    intro hb
    exact h (Statement.hasEmpty_of_not_allBranched statements hb)

/-! ## The ends of a replay -/

namespace Statement

variable {statements : List Statement}

theorem result_of_allBranched (h : AllBranched statements) (scope : Scope) :
    (replayAll scope statements).result = .ok (scope.append (textAll statements)) := by
  rw [replayAll_eq, Replay.result_ofMarks (stop_notMem_marksAll scope.depth h)]

theorem result_of_not_allBranched (h : ¬ AllBranched statements) (scope : Scope) :
    (replayAll scope statements).result = .error .emptyConditional := by
  rw [replayAll_eq, Replay.result_ofMarks_of_stop ((stop_mem_marksAll scope.depth statements).mpr h)]

/-- A replay that ends well has stayed in the scope it began in. -/
theorem eq_append_of_result_eq_ok {scope last : Scope}
    (h : (replayAll scope statements).result = .ok last) :
    last = scope.append (textAll statements) := by
  by_cases hb : AllBranched statements
  · rw [result_of_allBranched hb] at h
    exact (Except.ok.inj h).symm
  · rw [result_of_not_allBranched hb] at h
    cases h

end Statement

/-- What was read renders exactly when no conditional in it is without branches. -/
theorem render_value_of_read {text : String} {script : Script} (h : Script.read text = .ok script) :
    (Statement.AllBranched script.body → (render text).value = .ok (Statement.textAll script.body)) ∧
      (¬ Statement.AllBranched script.body →
        (render text).value = .error (.replay .emptyConditional)) := by
  have value := (render_of_read h).2
  refine ⟨?_, ?_⟩
  · intro hb
    rw [value, Statement.build, Statement.result_of_allBranched hb]
    exact congrArg Except.ok (Scope.finalize_empty_append _)
  · intro hb
    rw [value, Statement.build, Statement.result_of_not_allBranched hb]
    rfl

/-- **Outcomes.** A text that doesn't read as a script gives the error of reading it. One that does
renders unless a conditional without branches stands in it, at any depth and in whichever block; that
is the only other error. In any scope, replaying statements never fails to close one: what a statement
closes is the scope that it has opened. -/
theorem rendering_outcomes :
    (∀ text : String,
      (∀ error, (render text).value = .error (.unreadable error) ↔ Script.read text = .error error) ∧
      ((render text).value = .error (.replay .emptyConditional) ↔
        ∃ script, Script.read text = .ok script ∧ Statement.HasEmpty script.body) ∧
      ((∃ code, (render text).value = .ok code) ↔
        ∃ script, Script.read text = .ok script ∧ ¬ Statement.HasEmpty script.body) ∧
      ∀ error, (render text).value ≠ .error (.replay (.scope error))) ∧
    ∀ (scope : Scope) (statements : List Statement),
      (∀ error, (Statement.replayAll scope statements).result ≠ .error (.scope error)) ∧
      ∀ args inner,
        (Statement.replayAll (scope.openScope args).value statements).result = .ok inner →
          inner.parent? = some scope ∧ inner.args = args ∧ ∀ error, inner.close ≠ .error error := by
  refine ⟨?_, ?_⟩
  · intro text
    cases hr : Script.read text with
    | error error => simp [render, hr]
    | ok script =>
      obtain ⟨fine, empty⟩ := render_value_of_read hr
      rw [Statement.allBranched_iff] at fine empty
      by_cases he : Statement.HasEmpty script.body
      · simp [empty (not_not_intro he), he]
      · simp [fine he, he]
  · intro scope statements
    refine ⟨?_, ?_⟩
    · intro error
      by_cases hb : Statement.AllBranched statements
      · rw [Statement.result_of_allBranched hb]
        simp
      · rw [Statement.result_of_not_allBranched hb]
        simp
    · intro args inner hr
      obtain rfl := Statement.eq_append_of_result_eq_ok hr
      refine ⟨rfl, rfl, ?_⟩
      intro error hc
      cases hc

/-- The body of a scope in which a conditional and another scope stand. -/
theorem rendering_outcomes_inside :
    ∃ inner, (Statement.replayAll ((Scope.ofText "a;").openScope (some "x")).value
        [.cond [⟨"p", [.raw "f();"]⟩] none, .scope none [.line "g();"]]).result = .ok inner ∧
      inner.body = "if (p) \x7b\nf();\n\x7d\n(function() \x7b\ng();\n\x7d)()\n" ∧
      inner.parent? = some (.ofText "a;") ∧ inner.args = some "x" ∧
      ∀ error, inner.close ≠ .error error := by
  obtain ⟨-, closes⟩ := rendering_outcomes.2 (.ofText "a;")
    [.cond [⟨"p", [.raw "f();"]⟩] none, .scope none [.line "g();"]]
  exact ⟨_, rfl, by decide, closes (some "x") _ rfl⟩

end JsWriter
