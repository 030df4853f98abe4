import JsWriter.Proofs.Script.Accepts
import JsWriter.Proofs.Script.Refusal
import Mathlib.Data.List.Induction
import Mathlib.Data.List.Nodup

/-!
# The fault of some fields

The decoders take one field or two, out of an object or a list. Which fault they report doesn't depend on
that number:

* `Json.check` goes through the members of an object for any fields and only says which fault they have.
  `Json.check_eq_error_iff` is the law for it, by induction on the members that are left, where what comes
  before them is settled; `Json.textField_check` and `Json.fields_check` say that the decoders agree.
* `Json.checkInOrder` does so for the values in a list.

The law for the values of the fields is a hypothesis here.
-/
namespace JsWriter

/-! ## The members of an object -/

namespace Field

variable {fields : List Field} {field : Field} {before : List (String × Json)} {key : String}
  {json : Json} {seen : List String}

theorem find?_key (hk : (fields.map Field.key).Nodup) (hf : field ∈ fields) :
    fields.find? (fun other => other.key = field.key) = some field := by
  cases h : fields.find? fun other => other.key = field.key with
  | none => simpa using List.find?_eq_none.mp h field hf
  | some other =>
    have key : other.key = field.key := by simpa using List.find?_some h
    rw [List.inj_on_of_nodup_map hk (List.mem_of_find?_eq_some h) hf key]

theorem settled_nil : Settled fields [] :=
  fun _ _ => ⟨none, rfl, by simp⟩

/-- One more member: where it is one of a field it is the first, and decodes. -/
theorem settled_concat_iff :
    Settled fields (before ++ [(key, json)]) ↔ Settled fields before ∧
      ∀ field ∈ fields, field.key = key → Json.under before key = [] ∧ field.kind.Decodes json := by
  rw [Settled, Settled, ← forall₂_and]
  refine forall₂_congr fun field hf => ?_
  rw [Json.under_append, Json.under_cons, Json.under_nil]
  by_cases h : key = field.key
  · subst h
    simp only [if_true, true_imp_iff]
    constructor
    · rintro ⟨_ | found, hu, hd⟩
      · simp at hu
      · have last : Json.under before field.key = [] ∧ json = found := by
          simpa [List.append_eq_singleton_iff] using hu
        exact ⟨⟨none, last.1, by simp⟩, last.1, hd json (by simp [last.2])⟩
    · rintro ⟨-, hu, hd⟩
      exact ⟨some json, by simp [hu], by simpa using hd⟩
  · have h' : ¬ field.key = key := fun he => h he.symm
    simp [h, h']

/-- The fields that have been `seen` are those that have a member before. -/
def IsSeen (fields : List Field) (before : List (String × Json)) (seen : List String) : Prop :=
  ∀ field ∈ fields, field.key ∈ seen ↔ Json.under before field.key ≠ []

theorem isSeen_nil : IsSeen fields [] [] :=
  fun _ _ => by simp [Json.under_nil]

theorem IsSeen.concat (h : IsSeen fields before seen) :
    IsSeen fields (before ++ [(key, json)]) (key :: seen) := by
  intro field hf
  rw [Json.under_append, Json.under_cons, Json.under_nil, List.mem_cons, h field hf]
  by_cases he : key = field.key
  · simp [he]
  · have he' : ¬ field.key = key := fun hk => he hk.symm
    simp [he, he']

theorem IsSeen.concat_other (h : IsSeen fields before seen) (hk : ∀ field ∈ fields, field.key ≠ key) :
    IsSeen fields (before ++ [(key, json)]) seen := by
  intro field hf
  have he : ¬ key = field.key := fun he => hk field hf he.symm
  rw [Json.under_append, Json.under_cons, Json.under_nil, h field hf]
  simp [he]

end Field

namespace Json

section Check

variable {fields : List Field} {field : Field} {before members : List (String × Json)} {key : String}
  {json : Json} {seen : List String} {mismatch : Mismatch}

/-- The fault of the members of an object, of which those with the names `seen` have been met. -/
def check (fields : List Field) (seen : List String) :
    List (String × Json) → Except Mismatch Unit
  | [] =>
    match fields.find? fun field => field.fallback = none ∧ field.key ∉ seen with
    | some field => .error (.missingField field.key)
    | none => .ok ()
  | (key, value) :: members =>
    match fields.find? fun field => field.key = key with
    | some field =>
      if key ∈ seen then .error (.duplicateField key)
      else (toValue field.kind value).bind fun _ => check fields (key :: seen) members
    | none => check fields seen members

theorem check_nil (fields : List Field) (seen : List String) :
    check fields seen [] =
      match fields.find? fun field => field.fallback = none ∧ field.key ∉ seen with
      | some field => .error (.missingField field.key)
      | none => .ok () := rfl

/-- A member for a field. -/
theorem check_cons (hk : (fields.map Field.key).Nodup) (hf : field ∈ fields) (json : Json)
    (members : List (String × Json)) (seen : List String) :
    check fields seen ((field.key, json) :: members) =
      if field.key ∈ seen then .error (.duplicateField field.key)
      else (toValue field.kind json).bind fun _ => check fields (field.key :: seen) members := by
  rw [check, Field.find?_key hk hf]

/-- A member of another name. -/
theorem check_cons_other (hk : ∀ field ∈ fields, field.key ≠ key) (json : Json)
    (members : List (String × Json)) (seen : List String) :
    check fields seen ((key, json) :: members) = check fields seen members := by
  have none : fields.find? (fun field => field.key = key) = none := by
    simpa [List.find?_eq_none] using hk
  rw [check, none]

/-- A member is one of a field, or of another name. -/
theorem field_or_other (fields : List Field) (key : String) :
    (∃ field ∈ fields, field.key = key) ∨ ∀ field ∈ fields, field.key ≠ key := by
  by_cases h : ∃ field ∈ fields, field.key = key
  · exact .inl h
  · exact .inr fun field hf he => h ⟨field, hf, he⟩

/-- What is settled has no fault. -/
theorem check_append (hk : (fields.map Field.key).Nodup) (hs : Field.Settled fields before) :
    ∃ seen, Field.IsSeen fields before seen ∧
      ∀ after, check fields [] (before ++ after) = check fields seen after := by
  induction before using List.reverseRecOn with
  | nil => exact ⟨[], Field.isSeen_nil, fun _ => rfl⟩
  | append_singleton front member ih =>
    obtain ⟨key, json⟩ := member
    obtain ⟨hs, first⟩ := Field.settled_concat_iff.mp hs
    obtain ⟨seen, hseen, same⟩ := ih hs
    rcases field_or_other fields key with ⟨field, hf, rfl⟩ | other
    · obtain ⟨hu, value, hv⟩ := first field hf rfl
      refine ⟨field.key :: seen, hseen.concat, fun after => ?_⟩
      have new : field.key ∉ seen := fun h => (hseen field hf).mp h hu
      rw [List.append_assoc, List.singleton_append, same, check_cons hk hf, if_neg new, hv]
      rfl
    · refine ⟨seen, hseen.concat_other other, fun after => ?_⟩
      rw [List.append_assoc, List.singleton_append, same, check_cons_other other]

/-- A fault behind what is settled is one of the law. -/
theorem refusedAmong_of_check (hk : (fields.map Field.key).Nodup) (members : List (String × Json))
    (hv : ∀ member ∈ members, ∀ kind mismatch,
      toValue kind member.2 = .error mismatch → kind.Refuses member.2 mismatch) :
    ∀ {before seen}, Field.Settled fields before → Field.IsSeen fields before seen →
      check fields seen members = .error mismatch →
      Field.RefusedAmong fields (before ++ members) mismatch := by
  induction members with
  | nil =>
    intro before seen hs hseen h
    rw [check_nil] at h
    split at h
    · rename_i field found
      cases h
      obtain ⟨absent, front, back, rfl, hfront⟩ := List.find?_eq_some_iff_append.mp found
      simp only [decide_eq_true_eq, Bool.not_eq_true', decide_eq_false_iff_not] at absent hfront
      rw [List.append_nil]
      refine .missing hs ?_ absent.1 ?_
      · intro other ho hn
        refine (hseen other (List.mem_append_left _ ho)).mp ?_
        exact not_not.mp fun hother => hfront other ho ⟨hn, hother⟩
      · have mem : field ∈ front ++ field :: back := by simp
        exact not_not.mp fun hu => absent.2 ((hseen field mem).mpr hu)
    · cases h
  | cons member members ih =>
    obtain ⟨key, json⟩ := member
    intro before seen hs hseen h
    obtain ⟨first, others⟩ := List.forall_mem_cons.mp hv
    have next : before ++ (key, json) :: members = before ++ [(key, json)] ++ members := by simp
    rcases field_or_other fields key with ⟨field, hf, rfl⟩ | other
    · rw [check_cons hk hf] at h
      by_cases hm : field.key ∈ seen
      · rw [if_pos hm] at h
        cases h
        exact .repeated hf hs ((hseen field hf).mp hm)
      · have hu : under before field.key = [] := not_not.mp fun hu => hm ((hseen field hf).mpr hu)
        rw [if_neg hm] at h
        rcases bind_eq_error_iff.mp h with h | ⟨value, decoded, h⟩
        · exact .value hf hs hu (first _ _ h)
        · rw [next]
          refine ih others (Field.settled_concat_iff.mpr ⟨hs, ?_⟩) hseen.concat h
          intro other ho he
          obtain rfl := List.inj_on_of_nodup_map hk ho hf he
          exact ⟨hu, value, decoded⟩
    · rw [check_cons_other other] at h
      rw [next]
      refine ih others (Field.settled_concat_iff.mpr ⟨hs, ?_⟩) (hseen.concat_other other) h
      exact fun field hf he => absurd he (other field hf)

/-- **The law for the members of an object**, if it is the law for their values. -/
theorem check_eq_error_iff (hk : (fields.map Field.key).Nodup) (members : List (String × Json))
    (hv : ∀ member ∈ members, ∀ kind mismatch,
      toValue kind member.2 = .error mismatch ↔ kind.Refuses member.2 mismatch)
    (mismatch : Mismatch) :
    check fields [] members = .error mismatch ↔ Field.RefusedAmong fields members mismatch := by
  constructor
  · intro h
    exact refusedAmong_of_check hk members (fun member hm kind e => (hv member hm kind e).mp)
      Field.settled_nil Field.isSeen_nil h
  · intro h
    cases h with
    | repeated hf hb hu =>
      obtain ⟨seen, hseen, same⟩ := check_append hk hb
      rw [same, check_cons hk hf, if_pos ((hseen _ hf).mpr hu)]
    | @value _ field before after json _ hf hb hu h =>
      obtain ⟨seen, hseen, same⟩ := check_append hk hb
      have new : field.key ∉ seen := fun hm => (hseen field hf).mp hm hu
      have refused := (hv (field.key, json) (by simp) field.kind mismatch).mpr h
      rw [same, check_cons hk hf, if_neg new, refused]
      rfl
    | @missing front back field members hs hf hn hu =>
      obtain ⟨seen, hseen, same⟩ := check_append hk hs
      have found : (front ++ field :: back).find?
          (fun field => field.fallback = none ∧ field.key ∉ seen) = some field := by
        refine List.find?_eq_some_iff_append.mpr ⟨?_, front, back, rfl, ?_⟩
        · simpa [hn] using fun hm => (hseen field (by simp)).mp hm hu
        · intro other ho
          by_cases hn : other.fallback = none
          · simp [(hseen other (List.mem_append_left _ ho)).mpr (hf other ho hn)]
          · simp [hn]
      rw [← List.append_nil members, same, check_nil, found]

end Check

/-- Taking the one field of a statement has the fault of its members. -/
theorem textField_check (key : String) (members : List (String × Json)) :
    ∀ (found : Option String) (seen : List String), (key ∈ seen ↔ found.isSome) →
      (textField key found members).map (fun _ => ()) = check [.text key] seen members := by
  induction members with
  | nil =>
    intro found seen h
    rw [check_nil]
    cases found with
    | none => simp_all [textField, Except.map]
    | some text => simp_all [textField, Except.map]
  | cons member members ih =>
    obtain ⟨name, json⟩ := member
    intro found seen h
    rw [textField]
    by_cases hn : name = key
    · subst hn
      rw [check_cons (show ([Field.text name].map Field.key).Nodup by simp)
        (List.mem_singleton_self (Field.text name))]
      cases found with
      | some old => simp_all [Except.map]
      | none =>
        have new : name ∉ seen := by simpa using h
        simp only [if_true, Option.isSome_none, Bool.false_eq_true, if_false, new, toValue]
        cases json.toText with
        | error mismatch => rfl
        | ok text => exact ih (some text) (name :: seen) (by simp)
    · rw [if_neg hn, check_cons_other (by simpa [eq_comm] using hn)]
      exact ih found seen h

/-- Taking two fields has the fault of the members. -/
theorem fields_check {a b : Field} (hab : a.key ≠ b.key) (members : List (String × Json)) :
    ∀ (foundA : Option a.kind.Value) (foundB : Option b.kind.Value) (seen : List String),
      (a.key ∈ seen ↔ foundA.isSome) → (b.key ∈ seen ↔ foundB.isSome) →
      (fields a b foundA foundB members).map (fun _ => ()) = check [a, b] seen members := by
  have distinct : ([a, b].map Field.key).Nodup := by simpa using hab
  induction members with
  | nil =>
    intro foundA foundB seen ha hb
    rw [fields, check_nil, Field.value, Field.value]
    cases foundA <;> cases foundB <;> cases hfa : a.fallback <;> cases hfb : b.fallback <;>
      simp_all [Except.map, bind, Except.bind]
  | cons member members ih =>
    obtain ⟨name, json⟩ := member
    intro foundA foundB seen ha hb
    rw [fields]
    by_cases hna : name = a.key
    · subst hna
      rw [if_pos rfl, check_cons distinct (by simp)]
      cases foundA with
      | some old => simp_all [Except.map]
      | none =>
        have new : a.key ∉ seen := by simpa using ha
        rw [if_neg new]
        cases hv : toValue a.kind json with
        | error mismatch => rfl
        | ok value =>
          exact ih (some value) foundB (a.key :: seen) (by simp) (by simp [hab.symm, hb])
    · by_cases hnb : name = b.key
      · subst hnb
        rw [if_neg hna, if_pos rfl, check_cons distinct (by simp)]
        cases foundB with
        | some old => simp_all [Except.map]
        | none =>
          have new : b.key ∉ seen := by simpa using hb
          rw [if_neg new]
          cases hv : toValue b.kind json with
          | error mismatch => rfl
          | ok value =>
            exact ih foundA (some value) (b.key :: seen) (by simp [hab, ha]) (by simp)
      · rw [if_neg hna, if_neg hnb, check_cons_other (by simp [Ne.symm hna, Ne.symm hnb])]
        exact ih foundA foundB seen ha hb

/-! ## The values in a list -/

section CheckInOrder

variable {record : Record} {done : Nat} {fields : List Field} {values : List Json}
  {mismatch : Mismatch}

/-- The fault of the values in a list, of which `done` have been met. -/
def checkInOrder (record : Record) (done : Nat) : List Field → List Json → Except Mismatch Unit
  | [], [] => .ok ()
  | [], value :: values => .error (.tooMany (done + (value :: values).length) record)
  | field :: fields, [] =>
    match field.fallback with
    | some _ => checkInOrder record (done + 1) fields []
    | none => .error (.tooFew done record)
  | field :: fields, value :: values =>
    (toValue field.kind value).bind fun _ => checkInOrder record (done + 1) fields values

/-- Values that decode have no fault. -/
theorem checkInOrder_append {front : List Field} {before : List Json}
    (h : Field.InOrder front before) (record : Record) (fields : List Field) (values : List Json) :
    ∀ done, checkInOrder record done (front ++ fields) (before ++ values) =
      checkInOrder record (done + front.length) fields values := by
  induction h with
  | nil => exact fun _ => rfl
  | @cons field value front before hd _ ih =>
    intro done
    obtain ⟨_, decoded⟩ := hd
    rw [List.cons_append, List.cons_append, checkInOrder, decoded, List.length_cons]
    refine (ih (done + 1)).trans ?_
    rw [Nat.add_assoc, Nat.add_comm 1]

/-- Without further values the first field that must be given is missed. -/
theorem checkInOrder_nil_eq_error_iff :
    ∀ {done}, checkInOrder record done fields [] = .error mismatch ↔
      ∃ absent field back, fields = absent ++ field :: back ∧
        (∀ other ∈ absent, other.fallback ≠ none) ∧ field.fallback = none ∧
        mismatch = .tooFew (done + absent.length) record := by
  induction fields with
  | nil => simp [checkInOrder]
  | cons field fields ih =>
    intro done
    rw [checkInOrder]
    cases hf : field.fallback with
    | some value =>
      simp only [ih]
      constructor
      · rintro ⟨absent, other, back, rfl, ha, hn, rfl⟩
        refine ⟨field :: absent, other, back, rfl, ?_, hn, ?_⟩
        · exact List.forall_mem_cons.mpr ⟨by simp [hf], ha⟩
        · rw [List.length_cons, Nat.add_assoc, Nat.add_comm 1]
      · rintro ⟨_ | ⟨first, absent⟩, other, back, he, ha, hn, rfl⟩
        · obtain ⟨rfl, rfl⟩ := List.cons.inj he
          simp [hf] at hn
        · obtain ⟨rfl, rfl⟩ := List.cons.inj he
          refine ⟨absent, other, back, rfl, (List.forall_mem_cons.mp ha).2, hn, ?_⟩
          rw [List.length_cons, Nat.add_assoc, Nat.add_comm 1]
    | none =>
      constructor
      · intro h
        cases h
        exact ⟨[], field, fields, rfl, by simp, hf, rfl⟩
      · rintro ⟨_ | ⟨first, absent⟩, other, back, he, ha, hn, rfl⟩
        · rfl
        · obtain ⟨rfl, rfl⟩ := List.cons.inj he
          exact absurd hf (ha field (by simp))

/-- A fault behind values that decode is one of the law. -/
theorem refusedInOrder_of_checkInOrder (values : List Json)
    (hv : ∀ value ∈ values, ∀ kind mismatch,
      toValue kind value = .error mismatch → kind.Refuses value mismatch) :
    ∀ {front before fields}, Field.InOrder front before →
      checkInOrder record front.length fields values = .error mismatch →
      Field.RefusedInOrder record (front ++ fields) (before ++ values) mismatch := by
  induction values with
  | nil =>
    intro front before fields hb h
    obtain ⟨absent, field, back, rfl, ha, hn, rfl⟩ := checkInOrder_nil_eq_error_iff.mp h
    rw [List.append_nil, ← List.length_append]
    exact .tooFew hb ha hn
  | cons value values ih =>
    intro front before fields hb h
    obtain ⟨first, others⟩ := List.forall_mem_cons.mp hv
    cases fields with
    | nil =>
      have length : front.length + (value :: values).length = (before ++ value :: values).length := by
        rw [List.length_append, hb.length_eq]
      cases h
      rw [List.append_nil, length]
      exact .tooMany hb
    | cons field fields =>
      rcases bind_eq_error_iff.mp h with h | ⟨decoded, hd, h⟩
      · exact .value hb (first _ _ h)
      · have settled : Field.InOrder (front ++ [field]) (before ++ [value]) :=
          List.rel_append hb (.cons ⟨decoded, hd⟩ .nil)
        simpa using ih others settled (by simpa using h)

/-- **The law for the values in a list**, if it is the law for each of them. -/
theorem checkInOrder_eq_error_iff (values : List Json)
    (hv : ∀ value ∈ values, ∀ kind mismatch,
      toValue kind value = .error mismatch ↔ kind.Refuses value mismatch)
    (record : Record) (fields : List Field) (mismatch : Mismatch) :
    checkInOrder record 0 fields values = .error mismatch ↔
      Field.RefusedInOrder record fields values mismatch := by
  constructor
  · intro h
    exact refusedInOrder_of_checkInOrder values (fun value hm kind e => (hv value hm kind e).mp) .nil h
  · intro h
    cases h with
    | @value _ front back field before after json _ hb h =>
      have refused := (hv json (by simp) field.kind mismatch).mpr h
      rw [checkInOrder_append hb, checkInOrder, refused]
      rfl
    | @tooMany _ _ before after json hb =>
      have same := checkInOrder_append hb record [] (json :: after) 0
      rw [List.append_nil] at same
      rw [same, checkInOrder, Nat.zero_add, hb.length_eq, List.length_append]
    | @tooFew _ front absent back field _ hb ha hn =>
      have same := checkInOrder_append hb record (absent ++ field :: back) [] 0
      rw [List.append_nil] at same
      rw [same, Nat.zero_add]
      exact checkInOrder_nil_eq_error_iff.mpr
        ⟨absent, field, back, rfl, ha, hn, by rw [List.length_append]⟩

end CheckInOrder

theorem textPosition_check (record : Record) (key : String) (values : List Json) :
    (textPosition record values).map (fun _ => ()) =
      checkInOrder record 0 [.text key] values := by
  rcases values with _ | ⟨first, _ | ⟨second, more⟩⟩
  · rfl
  · simp only [textPosition, checkInOrder, toValue]
    cases first.toText <;> rfl
  · simp only [textPosition, checkInOrder, toValue]
    cases first.toText with
    | error mismatch => rfl
    | ok text => simp [Except.map, Except.bind, Nat.add_comm]

theorem positions_check (record : Record) (a b : Field) (values : List Json) :
    (positions record a b values).map (fun _ => ()) = checkInOrder record 0 [a, b] values := by
  rcases values with _ | ⟨first, _ | ⟨second, _ | ⟨third, more⟩⟩⟩
  · simp only [positions, checkInOrder]
    cases a.fallback <;> cases b.fallback <;> rfl
  · simp only [positions, checkInOrder]
    cases toValue a.kind first <;> cases b.fallback <;> rfl
  · simp only [positions, checkInOrder]
    cases toValue a.kind first <;> cases toValue b.kind second <;> rfl
  · simp only [positions, checkInOrder]
    cases toValue a.kind first with
    | error mismatch => rfl
    | ok valueA =>
      cases toValue b.kind second with
      | error mismatch => rfl
      | ok valueB =>
        simp only [bind, Except.bind, Except.map, List.length_cons, Except.error.injEq,
          Mismatch.tooMany.injEq, and_true]
        omega

end Json

end JsWriter
