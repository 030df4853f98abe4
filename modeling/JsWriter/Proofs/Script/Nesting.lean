import JsWriter.Proofs.Json.Spelling
import JsWriter.Proofs.Script.Grammar

/-!
# How deeply statements are nested

A statement takes up two levels of the value that presents it, a list or an object for itself and the list
that it stands in; a conditional takes up more for its branches. So statements are nested half as deep as
values at most.

* `Json.Gives.depth_lt`: the value of a field lies deeper than what gives it.
* `Statement.nesting_le`: the nesting of a statement from the depth of a value that presents it, by
  recursion over the statement.
* `Script.nesting_le`: likewise for a script of either form.
-/
namespace JsWriter

/-! ## Nesting of statements -/

mutual
/-- How deeply statements are nested in a statement, which itself counts as one. -/
def Statement.nesting : Statement → Nat
  | .var _ _ => 1
  | .assign _ _ => 1
  | .raw _ => 1
  | .line _ => 1
  | .scope _ body => Statement.nestingAll body + 1
  | .cond branches none => Branch.nestingAll branches + 1
  | .cond branches (some body) => max (Branch.nestingAll branches) (Statement.nestingAll body) + 1
  | .function _ body => Statement.nestingAll body + 1

def Statement.nestingAll : List Statement → Nat
  | [] => 0
  | statement :: statements => max statement.nesting (Statement.nestingAll statements)

def Branch.nestingAll : List Branch → Nat
  | [] => 0
  | ⟨_, body⟩ :: branches => max (Statement.nestingAll body) (Branch.nestingAll branches)
end

/-! ## Values of statements -/

namespace Json

variable {json value : Json} {found : List (Option Json)}

theorem exists_mem_of_mem_under {members : List (String × Json)} {key : String}
    (h : value ∈ under members key) : ∃ member ∈ members, member.2 = value := by
  obtain ⟨member, hm, rfl⟩ := List.mem_map.mp h
  exact ⟨member, (List.mem_filter.mp hm).1, rfl⟩

theorem mem_of_inPlaces {values : List Json} (h : InPlaces values found) (hv : some value ∈ found) :
    value ∈ values := by
  induction values generalizing found with
  | nil => cases h _ hv
  | cons first values ih =>
    cases found with
    | nil => cases h
    | cons place found =>
      obtain ⟨rfl, h⟩ := h
      rcases List.mem_cons.mp hv with he | hv
      · rw [Option.some.inj he]
        exact List.mem_cons_self
      · exact List.mem_cons_of_mem _ (ih h hv)

/-- The value of a field lies deeper than what gives it. -/
theorem Gives.depth_lt {keys : List String} (h : json.Gives keys found) (hv : some value ∈ found) :
    value.depth < json.depth := by
  cases json with
  | scalar => exact h.elim
  | list values =>
    rw [depth]
    exact Nat.lt_succ_of_le (depth_le_itemsDepth (mem_of_inPlaces h.2 hv))
  | object members =>
    have mem : value.depth ≤ membersDepth members := by
      have place : [value] ∈ keys.map (under members) := by
        rw [h]
        exact List.mem_map.mpr ⟨some value, hv, rfl⟩
      obtain ⟨key, -, hu⟩ := List.mem_map.mp place
      obtain ⟨member, hm, rfl⟩ := exists_mem_of_mem_under (hu ▸ List.mem_singleton_self value)
      exact depth_le_membersDepth hm
    rw [depth]
    exact Nat.lt_succ_of_le mem

/-- What gives a field is a list or an object itself. -/
theorem Gives.one_le_depth {keys : List String} (h : json.Gives keys found) (hv : some value ∈ found) :
    1 ≤ json.depth :=
  Nat.one_le_of_lt (h.depth_lt hv)

/-- What stands in a list that is the value of a field lies two deeper. -/
theorem Gives.itemsDepth_le {keys : List String} {place : Option Json} {property : List Json → Prop}
    (h : json.Gives keys found) (hm : place ∈ found) (hl : IsList place property) :
    ∃ items, property items ∧ itemsDepth items + 2 ≤ json.depth := by
  obtain ⟨items, rfl, hp⟩ := hl
  have lt := h.depth_lt hm
  rw [depth] at lt
  exact ⟨items, hp, lt⟩

end Json

section Presented

variable {asks : Op → Json → Prop} {json : Json} {keys : List String} {found : List (Option Json)}

/-- A statement whose block may be absent. -/
theorem Json.Gives.body_le {place : Option Json} {body : List Statement} {tag : Json}
    (hg : json.Gives keys found) (ht : some tag ∈ found) (hm : place ∈ found)
    (hb : place = none ∧ body = [] ∨ Json.IsList place (Statement.AllPresentedBy asks body))
    (bound : ∀ items, Statement.AllPresentedBy asks body items →
      2 * Statement.nestingAll body ≤ Json.itemsDepth items + 1) :
    2 * (Statement.nestingAll body + 1) ≤ json.depth + 1 := by
  rcases hb with ⟨-, rfl⟩ | hl
  · exact Nat.succ_le_succ (hg.one_le_depth ht)
  · obtain ⟨items, hp, hd⟩ := hg.itemsDepth_le hm hl
    have le := bound items hp
    omega

mutual
/-- **A statement** is nested half as deep as a value that presents it. -/
theorem Statement.nesting_le : ∀ (statement : Statement) (json : Json),
    statement.PresentedBy asks json → 2 * statement.nesting ≤ json.depth + 1
  | .var _ _, json, h => by
    rw [Statement.PresentedBy] at h
    obtain ⟨tag, a, b, -, hg, -⟩ := h
    exact Nat.succ_le_succ (hg.one_le_depth List.mem_cons_self)
  | .assign _ _, json, h => by
    rw [Statement.PresentedBy] at h
    obtain ⟨tag, a, b, -, hg, -⟩ := h
    exact Nat.succ_le_succ (hg.one_le_depth List.mem_cons_self)
  | .raw _, json, h => by
    rw [Statement.PresentedBy] at h
    obtain ⟨tag, a, -, hg, -⟩ := h
    exact Nat.succ_le_succ (hg.one_le_depth List.mem_cons_self)
  | .line _, json, h => by
    rw [Statement.PresentedBy] at h
    obtain ⟨tag, a, -, hg, -⟩ := h
    exact Nat.succ_le_succ (hg.one_le_depth List.mem_cons_self)
  | .scope _ body, json, h => by
    rw [Statement.PresentedBy] at h
    obtain ⟨tag, a, b, -, hg, -, hb⟩ := h
    rw [Statement.nesting]
    exact hg.body_le List.mem_cons_self (by simp) hb (Statement.nestingAll_le body)
  | .cond branches none, json, h => by
    rw [Statement.PresentedBy] at h
    obtain ⟨tag, a, b, -, hg, ha, -⟩ := h
    obtain ⟨items, hp, hd⟩ := hg.itemsDepth_le (by simp) ha
    have le := Branch.nestingAll_le branches items hp
    rw [Statement.nesting]
    omega
  | .cond branches (some block), json, h => by
    rw [Statement.PresentedBy] at h
    obtain ⟨tag, a, b, -, hg, ha, hb⟩ := h
    obtain ⟨items, hp, hd⟩ := hg.itemsDepth_le (by simp) ha
    obtain ⟨others, ho, he⟩ := hg.itemsDepth_le (by simp) hb
    have le := Branch.nestingAll_le branches items hp
    have otherwise := Statement.nestingAll_le block others ho
    rw [Statement.nesting]
    omega
  | .function _ body, json, h => by
    rw [Statement.PresentedBy] at h
    obtain ⟨tag, a, b, -, hg, -, hb⟩ := h
    rw [Statement.nesting]
    exact hg.body_le List.mem_cons_self (by simp) hb (Statement.nestingAll_le body)

theorem Statement.nestingAll_le : ∀ (statements : List Statement) (items : List Json),
    Statement.AllPresentedBy asks statements items →
      2 * Statement.nestingAll statements ≤ Json.itemsDepth items + 1
  | [], items, _ => by
    rw [Statement.nestingAll]
    omega
  | statement :: statements, [], h => by
    rw [Statement.AllPresentedBy] at h
    exact h.elim
  | statement :: statements, item :: items, h => by
    rw [Statement.AllPresentedBy] at h
    have first := Statement.nesting_le statement item h.1
    have others := Statement.nestingAll_le statements items h.2
    rw [Statement.nestingAll, Json.itemsDepth]
    omega

theorem Branch.nestingAll_le : ∀ (branches : List Branch) (items : List Json),
    Branch.AllPresentedBy asks branches items →
      2 * Branch.nestingAll branches ≤ Json.itemsDepth items + 1
  | [], items, _ => by
    rw [Branch.nestingAll]
    omega
  | ⟨condition, body⟩ :: branches, [], h => by
    rw [Branch.AllPresentedBy] at h
    exact h.elim
  | ⟨condition, body⟩ :: branches, item :: items, h => by
    rw [Branch.AllPresentedBy, Branch.PresentedBy] at h
    obtain ⟨⟨a, b, hg, ha, hb⟩, hr⟩ := h
    have given : some (.scalar (.string condition)) ∈ [a, b] := List.mem_cons.mpr (.inl (Eq.symm ha))
    have first := hg.body_le given (by simp) hb (Statement.nestingAll_le body)
    have others := Branch.nestingAll_le branches items hr
    rw [Branch.nestingAll, Json.itemsDepth]
    omega
end

/-- **A script** leaves room for a list around its statements, and for an object around that. -/
theorem Script.nesting_le {script : Script} {json : Json} (h : script.PresentedBy asks json) :
    2 * Statement.nestingAll script.body ≤ json.depth := by
  cases script with
  | statements statements =>
    cases json with
    | scalar => exact h.elim
    | list items =>
      rw [Json.depth]
      exact Statement.nestingAll_le statements items h
    | object => exact h.elim
  | document statements =>
    cases json with
    | scalar => exact h.elim
    | list => exact h.elim
    | object members =>
      obtain ⟨items, hu, hp⟩ := h
      obtain ⟨member, hm, he⟩ := Json.exists_mem_of_mem_under (hu ▸ List.mem_singleton_self _)
      have le := Json.depth_le_membersDepth hm
      have body := Statement.nestingAll_le statements items hp
      rw [he, Json.depth] at le
      rw [Json.depth]
      exact Nat.le_succ_of_le (Nat.le_trans body le)

end Presented

end JsWriter
