import JsWriter.Proofs.Script.Nesting
import JsWriter.Proofs.Script.Readable
import JsWriter.Proofs.Script.Reads

/-!
# How deep replays go

A text bounds how deeply lists and objects are nested in it, these bound how deeply statements are, and
these how deep the scopes of a replay lie.

* `Statement.Builds`: the scopes that come up in a replay. `Statement.Builds.depth_le`: they lie as deep
  at most as the scope at the start and the nesting of the statements together, by induction over the
  replay; so do the events (`Statement.marksAll_noDeeper`).
* `Statement.nested`: scopes inside each other, and a value that presents them in as few lists as can be.
* `script_nesting_bounded`: the bound for texts, which both forms of a script attain.
-/
namespace JsWriter

/-! ## Scopes in a replay -/

/-- Writing statements to a scope comes to `built`, be it this scope with what has been written to it,
one that a statement opens in it, or one for the block of a conditional or a function. -/
inductive Statement.Builds : Scope → List Statement → Scope → Prop
  | written {scope : Scope} {statements : List Statement} (text : String) :
      Statement.Builds scope statements (scope.append text)
  | next {scope next built : Scope} {statement : Statement} {statements : List Statement}
      (h : (Statement.replay scope statement).result = .ok next)
      (hb : Statement.Builds next statements built) :
      Statement.Builds scope (statement :: statements) built
  | inner {scope built : Scope} {args : Option String} {body statements : List Statement}
      (hb : Statement.Builds (scope.openScope args).value body built) :
      Statement.Builds scope (.scope args body :: statements) built
  | branch {scope built : Scope} {branches : List Branch} {otherwise : Option (List Statement)}
      {statements : List Statement} {branch : Branch} (hm : branch ∈ branches)
      (hb : Statement.Builds .empty branch.body built) :
      Statement.Builds scope (.cond branches otherwise :: statements) built
  | otherwise {scope built : Scope} {branches : List Branch} {block statements : List Statement}
      (hb : Statement.Builds .empty block built) :
      Statement.Builds scope (.cond branches (some block) :: statements) built
  | function {scope built : Scope} {header : String} {body statements : List Statement}
      (hb : Statement.Builds .empty body built) :
      Statement.Builds scope (.function header body :: statements) built

theorem Branch.nestingAll_of_mem {branch : Branch} {branches : List Branch} (h : branch ∈ branches) :
    Statement.nestingAll branch.body ≤ Branch.nestingAll branches := by
  induction branches with
  | nil => cases h
  | cons first branches ih =>
    obtain ⟨condition, body⟩ := first
    rw [Branch.nestingAll]
    rcases List.mem_cons.mp h with rfl | h
    · exact Nat.le_max_left _ _
    · exact Nat.le_trans (ih h) (Nat.le_max_right _ _)

theorem Statement.nesting_cond (branches : List Branch) (otherwise : Option (List Statement)) :
    Branch.nestingAll branches < (Statement.cond branches otherwise).nesting := by
  cases otherwise <;> simp only [Statement.nesting] <;> omega

namespace Statement

/-- A statement leaves the scope where it was. -/
theorem depth_of_replay {scope next : Scope} {statement : Statement}
    (h : (Statement.replay scope statement).result = .ok next) : next.depth = scope.depth := by
  rw [replay_eq] at h
  have value : (Replay.ofMarks (statement.marks scope.depth) (scope.append statement.text)).result =
      if .stop ∈ statement.marks scope.depth then .error .emptyConditional
      else .ok (scope.append statement.text) := rfl
  rw [value] at h
  split at h
  · cases h
  · cases h
    exact Scope.depth_modify _ scope

/-- **Scopes in a replay** lie as deep at most as the first one and the nesting of the statements
together. -/
theorem Builds.depth_le {scope built : Scope} {statements : List Statement}
    (h : Builds scope statements built) : built.depth ≤ scope.depth + nestingAll statements := by
  induction h with
  | written text =>
    rw [Scope.append, Scope.depth_modify]
    exact Nat.le_add_right _ _
  | next h hb ih =>
    rw [depth_of_replay h] at ih
    rw [nestingAll]
    omega
  | inner hb ih =>
    have opened : ∀ (scope : Scope) args, (scope.openScope args).value.depth = scope.depth + 1 :=
      fun _ _ => rfl
    rw [opened] at ih
    rw [nestingAll, nesting]
    omega
  | @branch _ _ branches otherwise _ _ hm hb ih =>
    have empty : Scope.empty.depth = 0 := rfl
    have le := Branch.nestingAll_of_mem hm
    have lt := nesting_cond branches otherwise
    rw [nestingAll]
    omega
  | otherwise hb ih =>
    have empty : Scope.empty.depth = 0 := rfl
    rw [nestingAll, nesting]
    omega
  | function hb ih =>
    have empty : Scope.empty.depth = 0 := rfl
    rw [nestingAll, nesting]
    omega

end Statement

/-! ## Events of a replay -/

/-- The depth that the event of a scope reports. -/
def Event.depth? : Event → Option Nat
  | .opening depth _ => some depth
  | .closing depth _ _ => some depth
  | _ => none

/-- No event among the marks reports a greater depth. -/
def Mark.NoDeeper (bound : Nat) (marks : List Mark) : Prop :=
  ∀ event depth, .event event ∈ marks → event.depth? = some depth → depth ≤ bound

namespace Mark

variable {bound more : Nat} {marks others : List Mark} {event : Event}

theorem noDeeper_nil : NoDeeper bound [] :=
  fun _ _ h => by cases h

theorem NoDeeper.mono (h : NoDeeper bound marks) (hb : bound ≤ more) : NoDeeper more marks :=
  fun event depth hm hd => Nat.le_trans (h event depth hm hd) hb

theorem NoDeeper.append (h : NoDeeper bound marks) (ho : NoDeeper bound others) :
    NoDeeper bound (marks ++ others) := by
  intro event depth hm hd
  rcases List.mem_append.mp hm with hm | hm
  · exact h event depth hm hd
  · exact ho event depth hm hd

theorem NoDeeper.cons (h : NoDeeper bound marks) (he : ∀ depth, event.depth? = some depth → depth ≤ bound) :
    NoDeeper bound (.event event :: marks) := by
  intro other depth hm hd
  rcases List.mem_cons.mp hm with he' | hm
  · cases he'
    exact he depth hd
  · exact h other depth hm hd

/-- An event that reports no depth. -/
theorem NoDeeper.cons_aside (h : NoDeeper bound marks) (he : event.depth? = none) :
    NoDeeper bound (.event event :: marks) :=
  h.cons (by simp [he])

theorem noDeeper_stop : NoDeeper bound [.stop] := by
  intro event depth hm
  cases List.mem_singleton.mp hm

/-- What is reported is marked. -/
theorem mem_of_mem_events (h : event ∈ events marks) : .event event ∈ marks := by
  induction marks with
  | nil => cases h
  | cons mark marks ih =>
    cases mark with
    | event first =>
      rcases List.mem_cons.mp h with rfl | h
      · exact List.mem_cons_self
      · exact List.mem_cons_of_mem _ (ih h)
    | stop => cases h

end Mark

open Mark (NoDeeper)

mutual
/-- **The events of a statement.** -/
theorem Statement.marks_noDeeper (depth : Nat) : ∀ statement : Statement,
    NoDeeper (depth + statement.nesting) (statement.marks depth)
  | .var _ _ => by
    rw [Statement.marks]
    exact Mark.noDeeper_nil
  | .assign _ _ => by
    rw [Statement.marks]
    exact Mark.noDeeper_nil
  | .raw _ => by
    rw [Statement.marks]
    exact Mark.noDeeper_nil
  | .line _ => by
    rw [Statement.marks]
    exact Mark.noDeeper_nil
  | .scope args body => by
    have own : ∀ found, some (depth + 1) = some found →
        found ≤ depth + (Statement.scope args body).nesting := by
      rintro _ ⟨⟩
      rw [Statement.nesting]
      omega
    have inner := (Statement.marksAll_noDeeper (depth + 1) body).mono
      (show _ ≤ depth + (Statement.scope args body).nesting by rw [Statement.nesting]; omega)
    rw [Statement.marks]
    refine NoDeeper.cons (inner.append (NoDeeper.cons Mark.noDeeper_nil ?_)) ?_
    · exact own
    · exact own
  | .cond [] none => by
    rw [Statement.marks]
    exact Mark.noDeeper_stop
  | .cond [] (some block) => by
    rw [Statement.marks]
    exact Mark.noDeeper_stop
  | .cond (⟨condition, body⟩ :: branches) none => by
    rw [Statement.marks, Statement.nesting, Branch.nestingAll]
    have first := Statement.marksAll_noDeeper 0 body
    refine (first.mono (by omega)).append ?_
    refine Branch.marksAll_noDeeper rfl (fun _ h => by cases h) branches (by omega)
  | .cond (⟨condition, body⟩ :: branches) (some block) => by
    rw [Statement.marks, Statement.nesting, Branch.nestingAll]
    have first := Statement.marksAll_noDeeper 0 body
    have last := Statement.marksAll_noDeeper 0 block
    refine (first.mono (by omega)).append ?_
    refine Branch.marksAll_noDeeper rfl ?_ branches (by omega)
    rintro _ ⟨⟩
    exact last.mono (by omega)
  | .function _ body => by
    rw [Statement.marks, Statement.nesting]
    have inner := Statement.marksAll_noDeeper 0 body
    exact (inner.mono (by omega)).append (Mark.noDeeper_nil.cons_aside rfl)

/-- **The events of statements** report depths up to that of the scope and their nesting together. -/
theorem Statement.marksAll_noDeeper (depth : Nat) : ∀ statements : List Statement,
    NoDeeper (depth + Statement.nestingAll statements) (Statement.marksAll depth statements)
  | [] => by
    rw [Statement.marksAll]
    exact Mark.noDeeper_nil
  | statement :: statements => by
    rw [Statement.marksAll, Statement.nestingAll]
    exact ((Statement.marks_noDeeper depth statement).mono (by omega)).append
      ((Statement.marksAll_noDeeper depth statements).mono (by omega))

theorem Branch.marksAll_noDeeper {written : Event} {otherwise : Option (List Mark)} {bound : Nat}
    (hw : written.depth? = none) (ho : ∀ marks, otherwise = some marks → NoDeeper bound marks) :
    ∀ branches : List Branch, Branch.nestingAll branches ≤ bound →
      NoDeeper bound (Branch.marksAll written otherwise branches)
  | [], _ => by
    cases otherwise with
    | none =>
      rw [Branch.marksAll]
      exact Mark.noDeeper_nil.cons_aside hw
    | some marks =>
      rw [Branch.marksAll]
      exact (ho marks rfl).append ((Mark.noDeeper_nil.cons_aside rfl).cons_aside hw)
  | ⟨condition, body⟩ :: branches, hb => by
    rw [Branch.nestingAll] at hb
    rw [Branch.marksAll]
    have first := Statement.marksAll_noDeeper 0 body
    refine (first.mono (by omega)).append (NoDeeper.cons_aside ?_ hw)
    exact Branch.marksAll_noDeeper rfl ho branches (by omega)
end

/-! ## Scopes inside each other -/

/-- Scopes inside each other: as many as said, and one more. -/
def Statement.nested : Nat → List Statement
  | 0 => [.scope none []]
  | n + 1 => [.scope none (Statement.nested n)]

/-- The value of scopes inside each other, with as few lists as can be. -/
def Json.nestedScopes : Nat → Json
  | 0 => .list [.list [.scalar (.string "scope")]]
  | n + 1 => .list [.list [.scalar (.string "scope"), .scalar .null, Json.nestedScopes n]]

namespace Statement

theorem nested_presentedBy (n : Nat) :
    ∃ items, Json.nestedScopes n = .list items ∧ AllPresentedBy Op.IsTag (nested n) items := by
  induction n with
  | zero =>
    refine ⟨_, rfl, ?_, trivial⟩
    rw [PresentedBy]
    exact ⟨_, none, none, .inl rfl, ⟨rfl, rfl, by simp [Json.InPlaces]⟩, .inl rfl, .inl ⟨rfl, rfl⟩⟩
  | succ n ih =>
    obtain ⟨items, hi, hp⟩ := ih
    refine ⟨_, rfl, ?_, trivial⟩
    rw [PresentedBy, hi]
    exact ⟨_, _, _, .inl rfl, ⟨rfl, rfl, rfl, rfl, by simp [Json.InPlaces]⟩, .inr rfl,
      .inr ⟨items, rfl, hp⟩⟩

theorem nested_allBranched (n : Nat) : AllBranched (nested n) := by
  induction n with
  | zero => simp [nested, AllBranched, Branched]
  | succ n ih => simpa [nested, AllBranched, Branched] using ih

theorem opening_mem_marksAll_nested (n depth : Nat) :
    .event (.opening (depth + n + 1) none) ∈ marksAll depth (nested n) := by
  induction n generalizing depth with
  | zero => simp [nested, marksAll, marks]
  | succ n ih =>
    have inner := ih (depth + 1)
    rw [show depth + 1 + n + 1 = depth + (n + 1) + 1 by omega] at inner
    simp [nested, marksAll, marks, inner]

/-- The innermost scope opens. -/
theorem opening_mem_events {text : String} {script : Script} {n : Nat}
    (h : Script.read text = .ok script) (hs : script.body = nested n) :
    .opening (n + 1) none ∈ (render text).events := by
  have marked := opening_mem_marksAll_nested n 0
  rw [← Mark.map_events (stop_notMem_marksAll 0 (nested_allBranched n)), Nat.zero_add] at marked
  obtain ⟨event, he, hm⟩ := List.mem_map.mp marked
  cases hm
  rw [(render_of_read h).1, hs, build_eq, Replay.events_ofMarks]
  exact List.mem_cons_of_mem _ he

end Statement

namespace Json

theorem depth_nestedScopes (n : Nat) : (nestedScopes n).depth = 2 * n + 2 := by
  induction n with
  | zero => rfl
  | succ n ih =>
    simp only [nestedScopes, depth, itemsDepth, ih]
    omega

theorem exists_nestedScopes_speltAs (n : Nat) : ∃ text, (nestedScopes n).SpeltAs text := by
  have name : SpeltAs (.scalar (.string "scope")) ('"' :: "scope".toList ++ ['"']) :=
    Text.speltAs_quoted (by simp)
  have absent : SpeltAs (.scalar .null) ['n', 'u', 'l', 'l'] := rfl
  induction n with
  | zero =>
    have statement := list_speltAs (itemsSpeltAs_first name (itemsSpeltAs_end _))
    exact ⟨_, list_speltAs (itemsSpeltAs_first statement (itemsSpeltAs_end _))⟩
  | succ n ih =>
    obtain ⟨text, ht⟩ := ih
    have statement := list_speltAs (itemsSpeltAs_first name
      (itemsSpeltAs_further absent (itemsSpeltAs_further ht (itemsSpeltAs_end _))))
    exact ⟨_, list_speltAs (itemsSpeltAs_first statement (itemsSpeltAs_end _))⟩

end Json

/-- Scopes inside each other are presented by a list that has a text. -/
theorem Statement.exists_nested_spelt (n : Nat) : ∃ items written,
    AllPresentedBy Op.IsTag (nested n) items ∧ (Json.list items).SpeltAs written ∧
      (Json.list items).depth = 2 * n + 2 := by
  obtain ⟨items, hi, hp⟩ := nested_presentedBy n
  obtain ⟨written, hw⟩ := Json.exists_nestedScopes_speltAs n
  have depth := Json.depth_nestedScopes n
  rw [hi] at hw depth
  exact ⟨items, written, hp, hw, depth⟩

/-- **Nesting is bounded.** In a text that reads as a script, of either form, statements are nested at
most 63 deep. No scope that comes up in the replay lies deeper than that, and no event reports a greater
depth. Both forms have a text with a scope that opens 63 deep. -/
theorem script_nesting_bounded :
    (∀ text script, Script.read text = .ok script →
      Statement.nestingAll script.body ≤ 63 ∧
      (∀ built, Statement.Builds .empty script.body built → built.depth ≤ 63) ∧
      ∀ event ∈ (render text).events, ∀ depth, event.depth? = some depth → depth ≤ 63) ∧
    (∃ text statements, Script.read text = .ok (.statements statements) ∧
      .opening 63 none ∈ (render text).events) ∧
    ∃ text statements, Script.read text = .ok (.document statements) ∧
      .opening 63 none ∈ (render text).events := by
  refine ⟨?_, ?_, ?_⟩
  · intro text script hr
    obtain ⟨json, -, hd, hp⟩ := (Script.read_eq_ok_iff script text).mp hr
    have nesting := Script.nesting_le hp
    refine ⟨by omega, ?_, ?_⟩
    · intro built hb
      have le := hb.depth_le
      have empty : Scope.empty.depth = 0 := rfl
      omega
    · intro event he depth hdepth
      rw [(render_of_read hr).1, Statement.build_eq, Replay.events_ofMarks] at he
      rcases List.mem_cons.mp he with rfl | he
      · cases hdepth
      · have le := Statement.marksAll_noDeeper 0 script.body event depth (Mark.mem_of_mem_events he) hdepth
        omega
  · obtain ⟨items, written, hp, hw, depth⟩ := Statement.exists_nested_spelt 62
    have read := read_of_written (.statements (Statement.nested 62)) (.list items) _ hp hw.hasText
      (by omega)
    exact ⟨_, _, read, Statement.opening_mem_events read rfl⟩
  · obtain ⟨items, written, hp, hw, depth⟩ := Statement.exists_nested_spelt 62
    have document : (Script.document (Statement.nested 62)).PresentedBy Op.IsTag
        (.object [("statements", .list items)]) := ⟨items, rfl, hp⟩
    have name : Json.Text.SpeltAs "statements" ('"' :: "statements".toList ++ ['"']) :=
      Json.Text.speltAs_quoted (by simp)
    have read := read_of_written _ _ _ document (Json.object_speltAs_one name hw).hasText
      (by simp only [Json.depth, Json.membersDepth] at depth ⊢; omega)
    exact ⟨_, _, read, Statement.opening_mem_events read rfl⟩

/-- A scope in the block of a condition begins anew, at a root. -/
theorem script_nesting_bounded_inside :
    (∃ script, Script.read "[[\"if\",[[\"p\",[[\"scope\"]]]]]]" = .ok script ∧
      Statement.nestingAll script.body = 2 ∧ Statement.nestingAll script.body ≤ 63) ∧
    ∀ event ∈ (render "[[\"if\",[[\"p\",[[\"scope\"]]]]]]").events, ∀ depth,
      event.depth? = some depth → depth ≤ 63 := by
  have read : Script.read "[[\"if\",[[\"p\",[[\"scope\"]]]]]]" =
      .ok (.statements [.cond [⟨"p", [.scope none []]⟩] none]) := by
    refine (Script.read_eq_ok_iff_decoded _ _).mpr ⟨.list [.list [.scalar (.string "if"),
      .list [.list [.scalar (.string "p"), .list [.list [.scalar (.string "scope")]]]]]], ?_, rfl⟩
    with_unfolding_all rfl
  obtain ⟨nesting, -, events⟩ := script_nesting_bounded.1 _ _ read
  exact ⟨⟨_, read, rfl, nesting⟩, events⟩

end JsWriter
