/-!
# Results of one step after another

When a step after another one, or a function after a step, ends well, and which error it ends in. A row
of steps ends in the error of the first one that fails.
-/
namespace JsWriter

variable {ε α β : Type}

theorem bind_eq_ok_iff {x : Except ε α} {f : α → Except ε β} {b : β} :
    x.bind f = .ok b ↔ ∃ a, x = .ok a ∧ f a = .ok b := by
  cases x <;> simp [Except.bind]

theorem bind_eq_error_iff {x : Except ε α} {f : α → Except ε β} {e : ε} :
    x.bind f = .error e ↔ x = .error e ∨ ∃ a, x = .ok a ∧ f a = .error e := by
  cases x <;> simp [Except.bind]

theorem map_eq_ok_iff {x : Except ε α} {f : α → β} {b : β} :
    x.map f = .ok b ↔ ∃ a, x = .ok a ∧ f a = b := by
  cases x <;> simp [Except.map]

theorem map_eq_error_iff {x : Except ε α} {f : α → β} {e : ε} :
    x.map f = .error e ↔ x = .error e := by
  cases x <;> simp [Except.map]

theorem mapError_eq_ok_iff {ε' : Type} {x : Except ε α} {f : ε → ε'} {a : α} :
    x.mapError f = .ok a ↔ x = .ok a := by
  constructor
  · intro h
    cases x <;> cases h
    rfl
  · rintro rfl
    rfl

theorem mapM_eq_error_iff {f : α → Except ε β} {e : ε} (items : List α) :
    items.mapM f = .error e ↔ ∃ before item after, items = before ++ item :: after ∧
      (∀ other ∈ before, ∃ b, f other = .ok b) ∧ f item = .error e := by
  induction items with
  | nil => simp [pure, Except.pure]
  | cons first items ih =>
    rw [List.mapM_cons]
    constructor
    · intro h
      rcases bind_eq_error_iff.mp h with h | ⟨b, hf, h⟩
      · exact ⟨[], first, items, rfl, by simp, h⟩
      · rcases bind_eq_error_iff.mp h with h | ⟨bs, -, h⟩
        · obtain ⟨before, item, after, rfl, hb, he⟩ := ih.mp h
          refine ⟨first :: before, item, after, rfl, ?_, he⟩
          exact List.forall_mem_cons.mpr ⟨⟨b, hf⟩, hb⟩
        · cases h
    · rintro ⟨before, item, after, hi, hb, he⟩
      cases before with
      | nil =>
        obtain ⟨rfl, rfl⟩ := List.cons.inj hi
        exact bind_eq_error_iff.mpr (.inl he)
      | cons other before =>
        obtain ⟨rfl, rfl⟩ := List.cons.inj hi
        obtain ⟨⟨b, hf⟩, hb⟩ := List.forall_mem_cons.mp hb
        refine bind_eq_error_iff.mpr (.inr ⟨b, hf, bind_eq_error_iff.mpr (.inl ?_)⟩)
        exact ih.mpr ⟨before, item, after, rfl, hb, he⟩

end JsWriter
