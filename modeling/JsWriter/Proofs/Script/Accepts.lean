import JsWriter.Proofs.Results
import JsWriter.Proofs.Script.Grammar

/-!
# Decoding accepts exactly the grammar

Each decoding function succeeds with a result exactly when the value presents it. First for the
functions that collect fields, in terms of what a single field takes (`Field.Takes`); then for
statements, by recursion over the statement.
-/
namespace JsWriter

/-! ## Members and values -/

namespace Json

theorem under_nil (name : String) : under [] name = [] := rfl

theorem under_cons (key : String) (value : Json) (members : List (String × Json)) (name : String) :
    under ((key, value) :: members) name =
      if key = name then value :: under members name else under members name := by
  by_cases h : key = name <;> simp [under, h]

theorem under_append (front back : List (String × Json)) (name : String) :
    under (front ++ back) name = under front name ++ under back name := by
  simp [under]

end Json

/-! ## One field -/

namespace Field

/-- A field takes a value: the one that `found` decodes to, or the fallback. -/
def Takes (field : Field) (found : Option Json) (value : field.kind.Value) : Prop :=
  match found with
  | none => field.fallback = some value
  | some json => Json.toValue field.kind json = .ok value

/-- What remains to be seen of an object completes a field with a value: there is no further
occurrence of a field that was seen, and at most one of another. -/
def Completes (field : Field) (seen : Option field.kind.Value) (members : List (String × Json))
    (value : field.kind.Value) : Prop :=
  match seen with
  | none => ∃ found : Option Json,
      Json.under members field.key = found.toList ∧ field.Takes found value
  | some old => Json.under members field.key = [] ∧ value = old

variable {field : Field} {key : String} {json : Json} {members : List (String × Json)}

theorem completes_nil (seen : Option field.kind.Value) (value : field.kind.Value) :
    field.Completes seen [] value ↔ field.value seen = .ok value := by
  cases seen with
  | some old => simp [Completes, Json.under, Field.value, eq_comm]
  | none =>
    have hf : field.Completes none [] value ↔ field.fallback = some value := by
      constructor
      · rintro ⟨found, hu, ht⟩
        cases found with
        | none => exact ht
        | some json => cases hu
      · exact fun h => ⟨none, rfl, h⟩
    rw [hf, Field.value]
    cases field.fallback <;> simp

theorem completes_cons_of_ne (h : key ≠ field.key) (seen : Option field.kind.Value)
    (value : field.kind.Value) :
    field.Completes seen ((key, json) :: members) value ↔ field.Completes seen members value := by
  cases seen <;> simp [Completes, Json.under_cons, h]

theorem completes_cons_none (h : key = field.key) (value : field.kind.Value) :
    field.Completes none ((key, json) :: members) value ↔
      ∃ new, Json.toValue field.kind json = .ok new ∧
        field.Completes (some new) members value := by
  simp only [Completes, Json.under_cons, h, if_true]
  constructor
  · rintro ⟨found, hu, ht⟩
    cases found with
    | none => cases hu
    | some found =>
      rw [Option.toList_some, List.cons.injEq] at hu
      obtain ⟨rfl, hu⟩ := hu
      exact ⟨value, ht, hu, rfl⟩
  · rintro ⟨_, hv, hu, rfl⟩
    exact ⟨some json, by rw [hu]; rfl, hv⟩

theorem not_completes_cons_some (h : key = field.key) (old value : field.kind.Value) :
    ¬ field.Completes (some old) ((key, json) :: members) value := by
  simp [Completes, Json.under_cons, h]

end Field

/-! ## Two fields -/

namespace Json

/-- `fields` completes both fields. -/
theorem fields_eq_ok_iff {a b : Field} (hab : a.key ≠ b.key) (x : a.kind.Value)
    (y : b.kind.Value) (members : List (String × Json)) (seenA : Option a.kind.Value)
    (seenB : Option b.kind.Value) :
    fields a b seenA seenB members = .ok (x, y) ↔
      a.Completes seenA members x ∧ b.Completes seenB members y := by
  induction members generalizing seenA seenB with
  | nil =>
    rw [Field.completes_nil, Field.completes_nil, fields]
    cases a.value seenA <;> cases b.value seenB <;> simp [bind, Except.bind]
  | cons member members ih =>
    obtain ⟨key, json⟩ := member
    rw [fields]
    by_cases ha : key = a.key
    · rw [if_pos ha, Field.completes_cons_of_ne (show key ≠ b.key from ha ▸ hab)]
      cases seenA with
      | some old => simp [Field.not_completes_cons_some ha]
      | none =>
        rw [Field.completes_cons_none ha]
        cases toValue a.kind json with
        | error e => simp [bind, Except.bind]
        | ok new => simp [bind, Except.bind, ih]
    · rw [if_neg ha, Field.completes_cons_of_ne ha]
      by_cases hb : key = b.key
      · rw [if_pos hb]
        cases seenB with
        | some old => simp [Field.not_completes_cons_some hb]
        | none =>
          rw [Field.completes_cons_none hb]
          cases toValue b.kind json with
          | error e => simp [bind, Except.bind]
          | ok new => simp [bind, Except.bind, ih]
      · rw [if_neg hb, Field.completes_cons_of_ne hb]
        exact ih seenA seenB

/-- `positions` takes the values in their order, and none is left over. -/
theorem positions_eq_ok_iff (record : Record) {a b : Field} (x : a.kind.Value) (y : b.kind.Value)
    (values : List Json) :
    positions record a b values = .ok (x, y) ↔
      ∃ foundA foundB, InPlaces values [foundA, foundB] ∧ a.Takes foundA x ∧ b.Takes foundB y := by
  match values with
  | [] =>
    have ht : (∃ foundA foundB, InPlaces [] [foundA, foundB] ∧ a.Takes foundA x ∧
        b.Takes foundB y) ↔ a.fallback = some x ∧ b.fallback = some y := by
      simp [InPlaces, Field.Takes, and_assoc]
    rw [ht, positions]
    cases a.fallback <;> cases b.fallback <;> simp
  | [first] =>
    have ht : (∃ foundA foundB, InPlaces [first] [foundA, foundB] ∧ a.Takes foundA x ∧
        b.Takes foundB y) ↔ toValue a.kind first = .ok x ∧ b.fallback = some y := by
      simp [InPlaces, Field.Takes, and_assoc]
    rw [ht, positions]
    cases toValue a.kind first <;> cases b.fallback <;> simp [bind, Except.bind]
  | [first, second] =>
    have ht : (∃ foundA foundB, InPlaces [first, second] [foundA, foundB] ∧ a.Takes foundA x ∧
        b.Takes foundB y) ↔ toValue a.kind first = .ok x ∧ toValue b.kind second = .ok y := by
      simp [InPlaces, Field.Takes, and_assoc]
    rw [ht, positions]
    cases toValue a.kind first <;> cases toValue b.kind second <;> simp [bind, Except.bind]
  | first :: second :: _ :: _ =>
    rw [positions]
    cases toValue a.kind first <;> cases toValue b.kind second <;>
      simp [bind, Except.bind, InPlaces]

/-! ## One field that is a text -/

theorem toText_eq_ok_iff (json : Json) (text : String) :
    json.toText = .ok text ↔ json = .scalar (.string text) := by
  unfold toText
  split <;> simp_all

theorem textField_some_eq_ok_iff (key old text : String) (members : List (String × Json)) :
    textField key (some old) members = .ok text ↔ under members key = [] ∧ text = old := by
  induction members with
  | nil => simp [textField, under, eq_comm]
  | cons member members ih =>
    obtain ⟨name, json⟩ := member
    by_cases h : name = key
    · simp [textField, under_cons, h]
    · simp [textField, under_cons, h, ih]

/-- `textField` takes the text under a key that occurs once. -/
theorem textField_eq_ok_iff (key text : String) (members : List (String × Json)) :
    textField key none members = .ok text ↔ under members key = [.scalar (.string text)] := by
  induction members with
  | nil => simp [textField, under]
  | cons member members ih =>
    obtain ⟨name, json⟩ := member
    by_cases h : name = key
    · simp only [textField, under_cons, h, if_true, Option.isSome_none, Bool.false_eq_true, if_false,
        List.cons.injEq, ← toText_eq_ok_iff]
      cases json.toText with
      | error e => simp [Except.bind]
      | ok new =>
        simp only [Except.bind, textField_some_eq_ok_iff, Except.ok.injEq]
        grind
    · simp [textField, under_cons, h, ih]

theorem textPosition_eq_ok_iff (record : Record) (text : String) (values : List Json) :
    textPosition record values = .ok text ↔ values = [.scalar (.string text)] := by
  match values with
  | [] => simp [textPosition]
  | [value] => simp [textPosition, toText_eq_ok_iff]
  | value :: _ :: _ =>
    cases h : value.toText <;> simp [textPosition, h, Except.bind]

end Json

/-! ## The kind of a statement -/

namespace Op

theorem ofName?_eq_some_iff (name : String) (op : Op) : ofName? name = some op ↔ name = op.name := by
  constructor
  · intro h
    have := List.find?_some h
    simpa [eq_comm] using this
  · rintro rfl
    cases op <;> rfl

theorem ofJson_eq_ok_iff (json : Json) (op : Op) : ofJson json = .ok op ↔ op.IsTag json := by
  unfold ofJson
  split
  · rename_i name
    have hn : named name = .ok op ↔ ofName? name = some op := by
      unfold named; cases ofName? name <;> simp
    rw [hn, ofName?_eq_some_iff]
    simp [IsTag, IsName]
  · rename_i index
    have tag : op.IsTag (.scalar (.number (.int (.ofNat index)))) ↔ all[index]? = some op := by
      constructor
      · rintro (name | ⟨other, same, found⟩)
        · cases name
        · cases same
          exact found
      · exact fun found => .inr ⟨index, rfl, found⟩
    rw [tag]
    cases all[index]? <;> simp
  · rename_i hs hi
    simp only [reduceCtorEq, false_iff, IsTag, IsName, not_or, not_exists, not_and]
    exact ⟨fun h => hs _ h, fun index h => absurd h (hi index)⟩

theorem ofMembers_some_eq_ok_iff (old op : Op) (members : List (String × Json)) :
    ofMembers (some old) members = .ok op ↔ Json.under members "op" = [] ∧ op = old := by
  induction members with
  | nil => simp [ofMembers, Json.under, eq_comm]
  | cons member members ih =>
    obtain ⟨key, json⟩ := member
    by_cases h : key = "op"
    · simp [ofMembers, Json.under_cons, h]
    · simp [ofMembers, Json.under_cons, h, ih]

/-- `ofMembers` takes the kind under an `op` that occurs once. -/
theorem ofMembers_eq_ok_iff (op : Op) (members : List (String × Json)) :
    ofMembers none members = .ok op ↔ ∃ tag, op.IsTag tag ∧ Json.under members "op" = [tag] := by
  induction members with
  | nil => simp [ofMembers, Json.under]
  | cons member members ih =>
    obtain ⟨key, json⟩ := member
    by_cases h : key = "op"
    · have hu : (∃ tag, op.IsTag tag ∧ Json.under ((key, json) :: members) "op" = [tag]) ↔
          op.IsTag json ∧ Json.under members "op" = [] := by
        rw [Json.under_cons, if_pos h]
        constructor
        · rintro ⟨tag, ht, hu⟩
          rw [List.cons.injEq] at hu
          obtain ⟨rfl, hu⟩ := hu
          exact ⟨ht, hu⟩
        · rintro ⟨ht, hu⟩
          exact ⟨json, ht, by rw [hu]⟩
      rw [hu, ← ofJson_eq_ok_iff]
      cases hj : ofJson json with
      | error e => simp [ofMembers, h, hj, Except.bind]
      | ok new =>
        simp only [ofMembers, h, if_true, Option.isSome_none, Bool.false_eq_true, if_false, hj,
          Except.bind, ofMembers_some_eq_ok_iff, Except.ok.injEq]
        exact ⟨fun ⟨hu, ho⟩ => ⟨ho.symm, hu⟩, fun ⟨ho, hu⟩ => ⟨hu, ho.symm⟩⟩
    · simp [ofMembers, Json.under_cons, h, ih]

end Op

/-! ## Values of fields -/

namespace Field

theorem takes_text (key : String) (found : Option Json) (value : String) :
    (text key).Takes found value ↔ Json.IsText found value := by
  cases found with
  | none => simp [Takes, text, Json.IsText]
  | some json => simp [Takes, text, Json.IsText, Json.toValue, Json.toText_eq_ok_iff]

theorem takes_optionalText (key : String) (found : Option Json) (value : Option String) :
    (optionalText key).Takes found value ↔ Json.IsOptionalText found value := by
  rcases found with _ | (_ | _ | _ | _) | _ | _ <;> cases value <;>
    simp [Takes, optionalText, Json.IsOptionalText, Json.IsAbsent, Json.IsText, Json.toValue,
      Json.toText, Except.map]

theorem takes_block (key : String) (found : Option Json) (value : List Statement) :
    (block key).Takes found value ↔
      found = none ∧ value = [] ∨ Json.IsList found (Json.toBlock · = .ok value) := by
  cases found with
  | none => simp [Takes, block, Json.IsList, eq_comm]
  | some json =>
    cases json <;> simp [Takes, block, Json.IsList, Json.toValue]

theorem takes_optionalBlock_none (key : String) (found : Option Json) :
    (optionalBlock key).Takes found none ↔ Json.IsAbsent found := by
  rcases found with _ | (_ | _ | _ | _) | items | _
  case some.list => cases h : Json.toBlock items <;>
    simp [Takes, optionalBlock, Json.IsAbsent, Json.toValue, h, Except.map]
  all_goals simp [Takes, optionalBlock, Json.IsAbsent, Json.toValue]

theorem takes_optionalBlock_some (key : String) (found : Option Json) (value : List Statement) :
    (optionalBlock key).Takes found (some value) ↔
      Json.IsList found (Json.toBlock · = .ok value) := by
  rcases found with _ | (_ | _ | _ | _) | items | _
  case some.list => cases h : Json.toBlock items <;>
    simp [Takes, optionalBlock, Json.IsList, Json.toValue, h, Except.map]
  all_goals simp [Takes, optionalBlock, Json.IsList, Json.toValue]

theorem takes_branches (key : String) (found : Option Json) (value : List Branch) :
    (branches key).Takes found value ↔ Json.IsList found (Json.toBranches · = .ok value) := by
  cases found with
  | none => simp [Takes, branches, Json.IsList]
  | some json => cases json <;> simp [Takes, branches, Json.IsList, Json.toValue]

end Field
/-! ## Statements, branches and scripts -/

/-- The value presents a statement as fields that a form makes it of, with a tag for its kind. -/
def Form.Makes (form : Form) (tag json : Json) (statement : Statement) : Prop :=
  match form with
  | .one key make => ∃ found text, json.Gives ["op", key] [some tag, found] ∧
      Json.IsText found text ∧ statement = make text
  | .two a b make => ∃ foundA foundB x y,
      json.Gives ["op", a.key, b.key] [some tag, foundA, foundB] ∧
      a.Takes foundA x ∧ b.Takes foundB y ∧ statement = make x y

theorem Op.form_keys (op : Op) {a b : Field} {make : a.kind.Value → b.kind.Value → Statement}
    (h : op.form = .two a b make) : a.key ≠ b.key := by
  cases op <;> simp only [form, Form.two.injEq, reduceCtorEq] at h <;> obtain ⟨rfl, rfl, -⟩ := h <;>
    decide

namespace Json

theorem toStatementOf_eq_ok_iff (op : Op) (tag : Json) (members : List (String × Json))
    (statement : Statement) (h : under members "op" = [tag]) :
    toStatementOf op members = .ok statement ↔ op.form.Makes tag (.object members) statement := by
  unfold toStatementOf
  cases hf : op.form with
  | one key make =>
    rw [map_eq_ok_iff]
    constructor
    · rintro ⟨text, ht, rfl⟩
      rw [textField_eq_ok_iff] at ht
      exact ⟨_, text, by simp [Gives, h, ht], rfl, rfl⟩
    · rintro ⟨_, text, hg, rfl, rfl⟩
      exact ⟨text, by simpa [Gives, h, textField_eq_ok_iff] using hg, rfl⟩
  | two a b make =>
    simp only [Form.Makes, map_eq_ok_iff, Prod.exists, fields_eq_ok_iff (op.form_keys hf),
      Field.Completes, Gives, List.map_cons, List.map_nil, h, Option.toList_some, List.cons.injEq,
      and_true, true_and]
    grind

theorem toStatementAt_eq_ok_iff (op : Op) (tag : Json) (values : List Json)
    (statement : Statement) :
    toStatementAt op values = .ok statement ↔
      op.form.Makes tag (.list (tag :: values)) statement := by
  unfold toStatementAt
  cases hf : op.form with
  | one key make =>
    rw [map_eq_ok_iff]
    constructor
    · rintro ⟨text, ht, rfl⟩
      rw [textPosition_eq_ok_iff] at ht
      exact ⟨_, text, by simp [Gives, InPlaces, ht], rfl, rfl⟩
    · rintro ⟨_, text, ⟨-, -, hp⟩, rfl, rfl⟩
      refine ⟨text, ?_, rfl⟩
      rw [textPosition_eq_ok_iff]
      match values with
      | [] => simp [InPlaces] at hp
      | [value] => simpa [InPlaces, eq_comm] using hp
      | _ :: _ :: _ => simp [InPlaces] at hp
  | two a b make =>
    simp only [Form.Makes, map_eq_ok_iff, Prod.exists, positions_eq_ok_iff, Gives, InPlaces]
    grind

end Json

theorem Form.Makes.gives {form : Form} {tag json : Json} {statement : Statement}
    (h : form.Makes tag json statement) :
    ∃ keys found, json.Gives ("op" :: keys) (some tag :: found) := by
  cases form with
  | one key make => obtain ⟨found, text, hg, -⟩ := h; exact ⟨_, _, hg⟩
  | two a b make => obtain ⟨foundA, foundB, x, y, hg, -⟩ := h; exact ⟨_, _, hg⟩

namespace Json

/-- Decoding a statement: a tag for a kind, and the fields of that kind. -/
theorem toStatement_eq_ok_iff (json : Json) (statement : Statement) :
    json.toStatement = .ok statement ↔
      ∃ op tag, Op.IsTag op tag ∧ (Op.form op).Makes tag json statement := by
  match json with
  | .scalar value =>
    refine ⟨fun h => by simp [toStatement] at h, ?_⟩
    rintro ⟨op, tag, -, hm⟩
    obtain ⟨keys, found, hg⟩ := hm.gives
    exact hg.elim
  | .list [] =>
    refine ⟨fun h => by simp [toStatement] at h, ?_⟩
    rintro ⟨op, tag, -, hm⟩
    obtain ⟨keys, found, -, hp⟩ := hm.gives
    simp [InPlaces] at hp
  | .list (first :: values) =>
    rw [toStatement_list, bind_eq_ok_iff]
    constructor
    · rintro ⟨op, ho, hs⟩
      exact ⟨op, first, (Op.ofJson_eq_ok_iff first op).mp ho,
        (toStatementAt_eq_ok_iff op first values statement).mp hs⟩
    · rintro ⟨op, tag, ht, hm⟩
      obtain ⟨keys, found, -, hp, -⟩ := hm.gives
      obtain rfl : tag = first := Option.some.inj hp
      exact ⟨op, (Op.ofJson_eq_ok_iff tag op).mpr ht,
        (toStatementAt_eq_ok_iff op tag values statement).mpr hm⟩
  | .object members =>
    rw [toStatement_object, bind_eq_ok_iff]
    constructor
    · rintro ⟨op, ho, hs⟩
      obtain ⟨tag, ht, hu⟩ := (Op.ofMembers_eq_ok_iff op members).mp ho
      exact ⟨op, tag, ht, (toStatementOf_eq_ok_iff op tag members statement hu).mp hs⟩
    · rintro ⟨op, tag, ht, hm⟩
      obtain ⟨keys, found, hg⟩ := hm.gives
      have hu : under members "op" = [tag] := (List.cons.inj hg).1
      exact ⟨op, (Op.ofMembers_eq_ok_iff op members).mpr ⟨tag, ht, hu⟩,
        (toStatementOf_eq_ok_iff op tag members statement hu).mpr hm⟩

/-- Decoding a branch. -/
theorem toBranch_eq_ok_iff (json : Json) (condition : String) (body : List Statement) :
    json.toBranch = .ok ⟨condition, body⟩ ↔ ∃ a b,
      json.Gives ["condition", "body"] [a, b] ∧ Branch.conditionField.Takes a condition ∧
        Branch.bodyField.Takes b body := by
  have hmk : ∀ read : Except Mismatch (String × List Statement),
      read.map (fun (condition, body) => (⟨condition, body⟩ : Branch)) = .ok ⟨condition, body⟩ ↔
        read = .ok (condition, body) := by
    intro read
    simp [map_eq_ok_iff]
  cases json with
  | scalar value => simp [toBranch, Gives]
  | list values =>
    rw [toBranch, hmk, positions_eq_ok_iff]
    simp [Gives]
  | object members =>
    rw [toBranch, hmk, fields_eq_ok_iff (by decide)]
    constructor
    · rintro ⟨⟨a, ha, hx⟩, b, hb, hy⟩
      exact ⟨a, b, by simp [Gives, ha, hb], hx, hy⟩
    · rintro ⟨a, b, hg, hx, hy⟩
      simp only [Gives, List.map_cons, List.map_nil, List.cons.injEq, and_true] at hg
      exact ⟨⟨a, hg.1, hx⟩, b, hg.2, hy⟩

end Json

def Statement.op : Statement → Op
  | .var .. => .var
  | .assign .. => .assign
  | .raw _ => .raw
  | .line _ => .line
  | .scope .. => .scope
  | .cond .. => .cond
  | .function .. => .function

theorem Form.Makes.op_eq {op : Op} {tag json : Json} {statement : Statement}
    (h : op.form.Makes tag json statement) : op = statement.op := by
  cases op
  case raw => obtain ⟨_, _, _, _, rfl⟩ := h; rfl
  case line => obtain ⟨_, _, _, _, rfl⟩ := h; rfl
  all_goals obtain ⟨_, _, _, _, _, _, _, rfl⟩ := h; rfl

namespace Statement

variable {statement : Statement}

/-- A statement of a kind with one field. -/
theorem decoded_one {key : String} {make : String → Statement} {x : String}
    (hf : statement.op.form = .one key make) (hm : ∀ x', statement = make x' ↔ x' = x)
    (json : Json) :
    json.toStatement = .ok statement ↔ ∃ tag a, statement.op.IsTag tag ∧
      json.Gives ["op", key] [some tag, a] ∧ Json.IsText a x := by
  rw [Json.toStatement_eq_ok_iff]
  constructor
  · rintro ⟨op, tag, ht, h⟩
    obtain rfl := h.op_eq
    rw [hf] at h
    obtain ⟨a, x', hg, hx, he⟩ := h
    obtain rfl := (hm x').mp he
    exact ⟨tag, a, ht, hg, hx⟩
  · rintro ⟨tag, a, ht, hg, hx⟩
    refine ⟨statement.op, tag, ht, ?_⟩
    rw [hf]
    exact ⟨a, x, hg, hx, (hm x).mpr rfl⟩

/-- A statement of a kind with two fields, of which `p` and `q` say what they take. -/
theorem decoded_two (a b : Field) {make : a.kind.Value → b.kind.Value → Statement}
    {x : a.kind.Value} {y : b.kind.Value} {p q : Option Json → Prop}
    (hf : statement.op.form = .two a b make)
    (hm : ∀ x' y', statement = make x' y' ↔ x' = x ∧ y' = y)
    (hp : ∀ found, a.Takes found x ↔ p found) (hq : ∀ found, b.Takes found y ↔ q found)
    (json : Json) :
    json.toStatement = .ok statement ↔ ∃ tag foundA foundB, statement.op.IsTag tag ∧
      json.Gives ["op", a.key, b.key] [some tag, foundA, foundB] ∧ p foundA ∧ q foundB := by
  rw [Json.toStatement_eq_ok_iff]
  constructor
  · rintro ⟨op, tag, ht, h⟩
    obtain rfl := h.op_eq
    rw [hf] at h
    obtain ⟨foundA, foundB, x', y', hg, hx, hy, he⟩ := h
    obtain ⟨rfl, rfl⟩ := (hm x' y').mp he
    exact ⟨tag, foundA, foundB, ht, hg, (hp foundA).mp hx, (hq foundB).mp hy⟩
  · rintro ⟨tag, foundA, foundB, ht, hg, hx, hy⟩
    refine ⟨statement.op, tag, ht, ?_⟩
    rw [hf]
    exact ⟨foundA, foundB, x, y, hg, (hp foundA).mpr hx, (hq foundB).mpr hy,
      (hm x y).mpr ⟨rfl, rfl⟩⟩

end Statement

theorem Json.isList_congr {p q : List Json → Prop} (h : ∀ items, p items ↔ q items)
    (found : Option Json) : Json.IsList found p ↔ Json.IsList found q :=
  exists_congr fun items => and_congr_right fun _ => h items

mutual
/-- **Statements.** Decoding gives a statement exactly when the value presents it. -/
theorem Statement.decoded_iff : ∀ (statement : Statement) (json : Json),
    json.toStatement = .ok statement ↔ statement.PresentedBy Op.IsTag json
  | .var name value, json => by
    rw [Statement.PresentedBy]
    exact Statement.decoded_two (.text "name") (.optionalText "value") rfl
      (fun x y => by simp [eq_comm])
      (fun found => Field.takes_text _ found name)
      (fun found => Field.takes_optionalText _ found value) json
  | .assign name value, json => by
    rw [Statement.PresentedBy]
    exact Statement.decoded_two (.text "name") (.text "value") rfl (fun x y => by simp [eq_comm])
      (fun found => Field.takes_text _ found name)
      (fun found => Field.takes_text _ found value) json
  | .raw text, json => by
    rw [Statement.PresentedBy]
    exact Statement.decoded_one rfl (fun x => by simp [eq_comm]) json
  | .line text, json => by
    rw [Statement.PresentedBy]
    exact Statement.decoded_one rfl (fun x => by simp [eq_comm]) json
  | .scope args body, json => by
    have hb := Json.isList_congr (Statement.allDecoded_iff body)
    rw [Statement.PresentedBy]
    exact Statement.decoded_two (.optionalText "args") (.block "body") rfl
      (fun x y => by simp [eq_comm])
      (fun found => Field.takes_optionalText _ found args)
      (fun found => (Field.takes_block _ found body).trans (or_congr_right (hb found))) json
  | .cond branches none, json => by
    have hb := Json.isList_congr (Branch.allDecoded_iff branches)
    rw [Statement.PresentedBy]
    exact Statement.decoded_two (.branches "branches") (.optionalBlock "else") rfl
      (fun x y => by simp [eq_comm])
      (fun found => (Field.takes_branches _ found branches).trans (hb found))
      (fun found => Field.takes_optionalBlock_none _ found) json
  | .cond branches (some block), json => by
    have hb := Json.isList_congr (Branch.allDecoded_iff branches)
    have he := Json.isList_congr (Statement.allDecoded_iff block)
    rw [Statement.PresentedBy]
    exact Statement.decoded_two (.branches "branches") (.optionalBlock "else") rfl
      (fun x y => by simp [eq_comm])
      (fun found => (Field.takes_branches _ found branches).trans (hb found))
      (fun found => (Field.takes_optionalBlock_some _ found block).trans (he found)) json
  | .function header body, json => by
    have hb := Json.isList_congr (Statement.allDecoded_iff body)
    rw [Statement.PresentedBy]
    exact Statement.decoded_two (.text "header") (.block "body") rfl
      (fun x y => by simp [eq_comm])
      (fun found => Field.takes_text _ found header)
      (fun found => (Field.takes_block _ found body).trans (or_congr_right (hb found))) json

theorem Statement.allDecoded_iff : ∀ (statements : List Statement) (values : List Json),
    Json.toBlock values = .ok statements ↔ Statement.AllPresentedBy Op.IsTag statements values
  | [], [] => by simp [Json.toBlock, Statement.AllPresentedBy]
  | [], value :: values => by
    rw [Json.toBlock, Statement.AllPresentedBy]
    cases value.toStatement <;> cases Json.toBlock values <;> simp [bind, Except.bind]
  | statement :: statements, [] => by simp [Json.toBlock, Statement.AllPresentedBy]
  | statement :: statements, value :: values => by
    rw [Json.toBlock, Statement.AllPresentedBy, ← Statement.decoded_iff statement value,
      ← Statement.allDecoded_iff statements values]
    cases value.toStatement <;> cases Json.toBlock values <;> simp [bind, Except.bind]

theorem Branch.decoded_iff : ∀ (branch : Branch) (json : Json),
    json.toBranch = .ok branch ↔ branch.PresentedBy Op.IsTag json
  | ⟨condition, body⟩, json => by
    have hb := Json.isList_congr (Statement.allDecoded_iff body)
    rw [Json.toBranch_eq_ok_iff, Branch.PresentedBy]
    exact exists_congr fun a => exists_congr fun b => and_congr_right fun _ =>
      and_congr (Field.takes_text _ a condition)
        ((Field.takes_block _ b body).trans (or_congr_right (hb b)))

theorem Branch.allDecoded_iff : ∀ (branches : List Branch) (values : List Json),
    Json.toBranches values = .ok branches ↔ Branch.AllPresentedBy Op.IsTag branches values
  | [], [] => by simp [Json.toBranches, Branch.AllPresentedBy]
  | [], value :: values => by
    rw [Json.toBranches, Branch.AllPresentedBy]
    cases value.toBranch <;> cases Json.toBranches values <;> simp [bind, Except.bind]
  | branch :: branches, [] => by simp [Json.toBranches, Branch.AllPresentedBy]
  | branch :: branches, value :: values => by
    rw [Json.toBranches, Branch.AllPresentedBy, ← Branch.decoded_iff branch value,
      ← Branch.allDecoded_iff branches values]
    cases value.toBranch <;> cases Json.toBranches values <;> simp [bind, Except.bind]
end

/-! ## Scripts -/

namespace Json

theorem documentBody?_some_eq_some_iff (old statements : List Statement)
    (members : List (String × Json)) :
    documentBody? (some old) members = some statements ↔
      under members "statements" = [] ∧ statements = old := by
  induction members with
  | nil => simp [documentBody?, under, eq_comm]
  | cons member members ih =>
    obtain ⟨key, json⟩ := member
    by_cases h : key = "statements"
    · simp [documentBody?, under_cons, h]
    · simp [documentBody?, under_cons, h, ih]

theorem documentBody?_eq_some_iff (statements : List Statement) (members : List (String × Json)) :
    documentBody? none members = some statements ↔
      ∃ items, under members "statements" = [.list items] ∧ toBlock items = .ok statements := by
  induction members with
  | nil => simp [documentBody?, under]
  | cons member members ih =>
    obtain ⟨key, json⟩ := member
    by_cases h : key = "statements"
    · rcases json with value | items | more
      · simp [documentBody?, under_cons, h]
      · cases hb : toBlock items with
        | error e => simp [documentBody?, under_cons, h, hb]
        | ok new =>
          simp only [documentBody?, under_cons, h, if_true, hb,
            documentBody?_some_eq_some_iff, List.cons.injEq]
          grind
      · simp [documentBody?, under_cons, h]
    · simp [documentBody?, under_cons, h, ih]

end Json

theorem Script.decoded_iff (script : Script) (json : Json) :
    json.toScript? = some script ↔ script.PresentedBy Op.IsTag json := by
  cases json with
  | scalar value => cases script <;> simp [Json.toScript?, Script.PresentedBy]
  | list items =>
    cases script with
    | statements ss =>
      rw [Script.PresentedBy, ← Statement.allDecoded_iff, Json.toScript?]
      cases Json.toBlock items <;> simp [Except.toOption]
    | document ss => simp [Json.toScript?, Script.PresentedBy]
  | object members =>
    cases script with
    | statements ss => simp [Json.toScript?, Script.PresentedBy]
    | document ss =>
      simp only [Script.PresentedBy, ← Statement.allDecoded_iff, Json.toScript?,
        ← Json.documentBody?_eq_some_iff]
      cases Json.documentBody? none members <;> simp

/-- **The grammar of statements.** Decoding a JSON value gives a statement exactly when the value
presents it, where the kind is asked for by its name or by its number; so too for branches and
scripts. -/
theorem decoding_accepts_grammar :
    (∀ (json : Json) (statement : Statement),
      json.toStatement = .ok statement ↔ statement.PresentedBy Op.IsTag json) ∧
    (∀ (json : Json) (branch : Branch),
      json.toBranch = .ok branch ↔ branch.PresentedBy Op.IsTag json) ∧
    ∀ (json : Json) (script : Script),
      json.toScript? = some script ↔ script.PresentedBy Op.IsTag json :=
  ⟨fun json statement => statement.decoded_iff json, fun json branch => branch.decoded_iff json,
    fun json script => script.decoded_iff json⟩

/-- Names alone aren't the grammar: a number is accepted, too. -/
theorem decoding_accepts_more_than_names :
    ¬ ∀ (json : Json) (statement : Statement),
      json.toStatement = .ok statement ↔ statement.PresentedBy Op.IsName json := by
  intro h
  have hp := (h (.object [("op", .scalar (.number (.int 0))), ("name", .scalar (.string "x"))])
    (.var "x" none)).mp (by rfl)
  obtain ⟨tag, a, b, ht, hg, -⟩ := hp
  simp [Op.IsName] at ht
  subst ht
  simp [Json.Gives, Json.under] at hg

end JsWriter
