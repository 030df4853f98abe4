import JsWriter.Proofs.Json.Sound
import JsWriter.Proofs.Replay.Outcome
import JsWriter.Proofs.Script.Accepts

/-!
# Which texts are read

The texts that read as a script are those that spell a value which presents one, and nothing else:
a part of the text that no field takes is JSON as much as the others are.

* `Json.whole_reader_eq_ok_iff`: the texts of a value are those that read as it.
* `Script.read_eq_ok_iff`: likewise for a script, by way of the value that presents it.
* `readable_iff_json`: rendering refuses all other texts as unreadable.
-/
namespace JsWriter

/-- **Reading JSON.** A whole text reads as a value exactly when it spells that value, with lists and
objects nested no deeper than there is room for. -/
theorem Json.whole_reader_eq_ok_iff (room : Nat) (json : Json) (text : String) :
    (Json.reader room).whole text.toList = .ok json ↔ json.HasText text ∧ json.depth ≤ room := by
  constructor
  · intro h
    unfold Reader.whole at h
    split at h
    · cases h
    · rename_i value rest run
      cases hf : Reader.finish rest with
      | error fault =>
        rw [hf] at h
        cases h
      | ok done =>
        rw [hf] at h
        cases h
        exact Json.hasText_of_run run (Reader.areBlanks_of_finish hf)
  · intro h
    obtain ⟨after, ha, run⟩ := Json.reader_run_text h.1 h.2
    simp [Reader.whole, run, Reader.finish_blanks ha, Reader.lift, Except.map]

/-- Reading a script step by step: a fault in its value, a value of another kind, and what follows the
value, in this order. -/
theorem Script.read_eq (text : String) :
    Script.read text =
      match (Json.reader Json.depthLimit).run text.toList with
      | .error fault => .error (.malformed fault)
      | .ok (json, rest) =>
        match json.toScript? with
        | none => .error .noScript
        | some script =>
          match Reader.finish rest with
          | .error fault => .error (.malformed fault)
          | .ok () => .ok script := by
  simp only [Script.read, Script.reader, Reader.whole, Reader.andThen, Reader.ofFaults]
  cases (Json.reader Json.depthLimit).run text.toList with
  | error fault => rfl
  | ok found =>
    obtain ⟨json, rest⟩ := found
    simp only [Reader.lift]
    cases json.toScript? with
    | none => rfl
    | some script =>
      simp only [Except.map]
      cases Reader.finish rest <;> rfl

/-- A text reads as a script when it reads as a value that decodes as the script. -/
theorem Script.read_eq_ok_iff_decoded (script : Script) (text : String) :
    Script.read text = .ok script ↔
      ∃ json, (Json.reader Json.depthLimit).whole text.toList = .ok json ∧
        json.toScript? = some script := by
  rw [Script.read_eq]
  unfold Reader.whole
  cases (Json.reader Json.depthLimit).run text.toList with
  | error fault => simp
  | ok found =>
    obtain ⟨json, rest⟩ := found
    cases hf : Reader.finish rest <;> cases hs : json.toScript? <;>
      simp [Reader.lift, Except.map, hf, hs]

/-- **Reading a script.** A text reads as a script exactly when it spells a value that presents the
script, in which lists and objects are nested at most 127 deep. -/
theorem Script.read_eq_ok_iff (script : Script) (text : String) :
    Script.read text = .ok script ↔
      ∃ json, json.HasText text ∧ json.depth ≤ 127 ∧ script.PresentedBy Op.IsTag json := by
  simp only [Script.read_eq_ok_iff_decoded, Json.whole_reader_eq_ok_iff, Script.decoded_iff,
    and_assoc, Json.depthLimit]

/-- Rendering calls a text unreadable when it doesn't read as a script. -/
theorem render_value_eq_unreadable_iff (text : String) (error : ReadError) :
    (render text).value = .error (.unreadable error) ↔ Script.read text = .error error := by
  cases hr : Script.read text with
  | error other => simp [render, hr]
  | ok script =>
    obtain ⟨fine, empty⟩ := render_value_of_read hr
    by_cases hb : Statement.AllBranched script.body
    · simp [fine hb]
    · simp [empty hb]

/-- **Only JSON is rendered.** Unless rendering calls it unreadable, a text spells one JSON value with
nothing but blanks around it, of lists and objects nested at most 127 deep; the value presents a
script. All these texts are readable. -/
theorem readable_iff_json (text : String) :
    (∀ error, (render text).value ≠ .error (.unreadable error)) ↔
      ∃ json, json.HasText text ∧ (∀ other : Json, other.HasText text → other = json) ∧
        json.depth ≤ 127 ∧ ∃ script : Script, script.PresentedBy Op.IsTag json := by
  constructor
  · intro h
    cases hr : Script.read text with
    | error error => exact absurd ((render_value_eq_unreadable_iff text error).mpr hr) (h error)
    | ok script =>
      obtain ⟨json, ht, hd, hp⟩ := (Script.read_eq_ok_iff script text).mp hr
      exact ⟨json, ht, fun other ho => ho.unique ht, hd, script, hp⟩
  · rintro ⟨json, ht, -, hd, script, hp⟩ error he
    have hr := (Script.read_eq_ok_iff script text).mpr ⟨json, ht, hd, hp⟩
    rw [(render_value_eq_unreadable_iff text error).mp he] at hr
    cases hr

end JsWriter
