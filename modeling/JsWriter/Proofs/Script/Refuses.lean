import JsWriter.Proofs.Script.Faults
import JsWriter.Proofs.Script.Readable
import JsWriter.Proofs.Stream.Statements

/-!
# Decoding reports the fault of the law

* `Op.byName_decodedBy`, `Op.byTag_decodedBy`: the law for kinds.
* `Kind.refuses_iff`, `Statement.refused_iff`, `Branch.refused_iff`: the law for values, by recursion over
  the value.
* `Statement.read_of_hasText`: reading the text of a value is decoding the value.
* `decoding_refuses_by_law`: all of it; a member of another name has no part in it.
-/
namespace JsWriter

/-! ## Kinds of statements -/

namespace Op

/-- `decode` takes the values that give a kind, and refuses the others for the reasons of the law. -/
structure Naming.DecodedBy (naming : Naming) (decode : Json → Except Mismatch Op) : Prop where
  ok : ∀ {op tag}, decode tag = .ok op ↔ naming.gives op tag
  error : ∀ {tag mismatch}, decode tag = .error mismatch ↔ naming.refuses tag mismatch

theorem named_eq_ok_iff (name : String) (op : Op) : named name = .ok op ↔ name = op.name := by
  rw [← ofName?_eq_some_iff, named]
  cases ofName? name <;> simp

theorem named_eq_error_iff (name : String) (mismatch : Mismatch) :
    named name = .error mismatch ↔ (∀ op : Op, name ≠ op.name) ∧ mismatch = .unknownOp name := by
  have unknown : ofName? name = none ↔ ∀ op : Op, name ≠ op.name := by
    simp only [Option.eq_none_iff_forall_ne_some, ne_eq, ofName?_eq_some_iff]
  rw [← unknown, named]
  cases ofName? name <;> simp [eq_comm]

theorem noName_string_iff (name : String) (mismatch : Mismatch) :
    NoName (.scalar (.string name)) mismatch ↔
      (∀ op : Op, name ≠ op.name) ∧ mismatch = .unknownOp name := by
  constructor
  · intro h
    cases h with
    | unknown h => exact ⟨h, rfl⟩
    | noString h => cases h
  · rintro ⟨h, rfl⟩
    exact .unknown h

theorem noName_iff {tag : Json} (h : tag.string? = none) (mismatch : Mismatch) :
    NoName tag mismatch ↔ mismatch = .invalidType tag.shape .op := by
  constructor
  · intro hn
    cases hn with
    | unknown => cases h
    | noString => rfl
  · rintro rfl
    exact .noString h

theorem byName_decodedBy : byName.DecodedBy ofName where
  ok {op tag} := by
    rcases tag with (_ | _ | _ | name) | _ | _
    case scalar.string => simp [byName, IsName, ofName, named_eq_ok_iff]
    all_goals simp [byName, IsName, ofName]
  error {tag mismatch} := by
    rcases tag with (_ | _ | _ | name) | _ | _
    case scalar.string => exact (named_eq_error_iff name mismatch).trans (noName_string_iff _ _).symm
    all_goals
      refine Iff.trans ?_ (noName_iff rfl mismatch).symm
      simp [ofName, eq_comm]

/-- Only a number of a kind is taken for it where a name is wanted. -/
theorem ofJson_eq_ofName {tag : Json} (h : ∀ index : Nat, tag ≠ .scalar (.number (.int index))) :
    ofJson tag = ofName tag := by
  rcases tag with (_ | _ | (_ | _) | _) | _ | _
  case scalar.number.int n =>
    cases n with
    | ofNat index => exact absurd rfl (h index)
    | negSucc => rfl
  all_goals rfl

theorem ofJson_index_eq_error_iff (index : Nat) (mismatch : Mismatch) :
    ofJson (.scalar (.number (.int index))) = .error mismatch ↔
      all.length ≤ index ∧ mismatch = .unknownIndex index := by
  rw [← List.getElem?_eq_none_iff, ← Int.ofNat_eq_natCast, ofJson]
  cases all[index]? <;> simp [eq_comm]

theorem noTag_index_iff (index : Nat) (mismatch : Mismatch) :
    NoTag (.scalar (.number (.int index))) mismatch ↔
      all.length ≤ index ∧ mismatch = .unknownIndex index := by
  constructor
  · intro h
    generalize ht : Json.scalar (.number (.int index)) = tag at h
    cases h with
    | @index other h =>
      obtain rfl : index = other := Int.ofNat_inj.mp (by simpa using ht)
      exact ⟨h, rfl⟩
    | noIndex h => exact absurd ht.symm (h index)
  · rintro ⟨h, rfl⟩
    exact .index h

theorem noTag_iff_noName {tag : Json} (h : ∀ index : Nat, tag ≠ .scalar (.number (.int index)))
    (mismatch : Mismatch) : NoTag tag mismatch ↔ NoName tag mismatch := by
  constructor
  · intro ht
    cases ht with
    | @index index => exact absurd rfl (h index)
    | noIndex _ hn => exact hn
  · exact .noIndex h

theorem byTag_decodedBy : byTag.DecodedBy ofJson where
  ok {op tag} := ofJson_eq_ok_iff tag op
  error {tag mismatch} := by
    by_cases h : ∃ index : Nat, tag = .scalar (.number (.int index))
    · obtain ⟨index, rfl⟩ := h
      exact (ofJson_index_eq_error_iff index mismatch).trans (noTag_index_iff index mismatch).symm
    · have other := not_exists.mp h
      rw [ofJson_eq_ofName other]
      exact byName_decodedBy.error.trans (noTag_iff_noName other mismatch).symm

variable {naming : Naming} {decode : Json → Except Mismatch Op}

theorem among_eq_error_iff (h : naming.DecodedBy decode) (tags : List Json) (mismatch : Mismatch) :
    among decode tags = .error mismatch ↔ Unclear naming tags mismatch := by
  rcases tags with _ | ⟨tag, _ | ⟨again, more⟩⟩
  · constructor
    · intro he
      cases he
      exact .missing
    · intro hu
      cases hu
      rfl
  · rw [among, h.error]
    constructor
    · exact .refused
    · intro hu
      cases hu with
      | refused hr => exact hr
  · rw [among, bind_eq_error_iff, h.error]
    constructor
    · rintro (hr | ⟨op, ho, he⟩)
      · exact .refused hr
      · cases he
        exact .repeated (h.ok.mp ho)
    · intro hu
      cases hu with
      | refused hr => exact .inl hr
      | repeated hg => exact .inr ⟨_, h.ok.mpr hg, rfl⟩

end Op

/-! ## Blocks -/

namespace Json

theorem toBlock_eq_mapM (items : List Json) : toBlock items = items.mapM toStatement := by
  induction items with
  | nil => rfl
  | cons item items ih => rw [toBlock, ih, List.mapM_cons]; rfl

theorem toBranches_eq_mapM (items : List Json) : toBranches items = items.mapM toBranch := by
  induction items with
  | nil => rfl
  | cons item items ih => rw [toBranches, ih, List.mapM_cons]; rfl

variable {kind : Kind}

theorem toValue_of_not_admits {json : Json} (h : ¬ kind.Admits json.shape) :
    toValue kind json = .error (.invalidType json.shape kind.want) := by
  cases kind <;> rcases json with (_ | _ | _ | _) | _ | _ <;>
    simp_all [Kind.Admits, Kind.want, shape, toValue, toText, Except.map]

theorem toValue_of_admits {value : Scalar} (h : kind.Admits (.scalar value)) :
    ∃ found, toValue kind (.scalar value) = .ok found := by
  cases kind <;> cases value <;> simp_all [Kind.Admits, toValue, toText, Except.map]

end Json

namespace Kind

variable {kind : Kind} {json : Json} {items : List Json} {mismatch : Mismatch}

/-- **The law for values of another type**, which have no other fault. -/
theorem refuses_iff_of_not_admits (h : ¬ kind.Admits json.shape) :
    json.toValue kind = .error mismatch ↔ kind.Refuses json mismatch := by
  rw [Json.toValue_of_not_admits h]
  constructor
  · intro he
    cases he
    exact .type h
  · intro hr
    cases hr with
    | type => rfl
    | statement hk => rcases hk with rfl | rfl <;> simp [Admits, Json.shape] at h
    | branch => simp [Admits, Json.shape] at h

/-- **The law for blocks**, if it is the law for their statements. -/
theorem refuses_block_iff (hk : kind = .block ∨ kind = .optionalBlock)
    (hi : ∀ item ∈ items, ∀ mismatch,
      item.toStatement = .error mismatch ↔ Statement.Refused Op.byTag item mismatch) :
    Json.toBlock items = .error mismatch ↔ kind.Refuses (.list items) mismatch := by
  rw [Json.toBlock_eq_mapM, mapM_eq_error_iff]
  constructor
  · rintro ⟨before, item, after, rfl, hb, he⟩
    exact .statement hk hb ((hi item (by simp) mismatch).mp he)
  · intro h
    cases h with
    | type h => rcases hk with rfl | rfl <;> simp [Admits, Json.shape] at h
    | @statement _ before after item _ _ hb h =>
      exact ⟨before, item, after, rfl, hb, (hi item (by simp) mismatch).mpr h⟩
    | branch => simp at hk

/-- **The law for the branches of a conditional**, if it is the law for each of them. -/
theorem refuses_branches_iff
    (hi : ∀ item ∈ items, ∀ mismatch,
      item.toBranch = .error mismatch ↔ Branch.Refused item mismatch) :
    Json.toBranches items = .error mismatch ↔ branches.Refuses (.list items) mismatch := by
  rw [Json.toBranches_eq_mapM, mapM_eq_error_iff]
  constructor
  · rintro ⟨before, item, after, rfl, hb, he⟩
    exact .branch hb ((hi item (by simp) mismatch).mp he)
  · intro h
    cases h with
    | type h => simp [Admits, Json.shape] at h
    | statement hk => simp at hk
    | @branch before after item _ hb h =>
      exact ⟨before, item, after, rfl, hb, (hi item (by simp) mismatch).mpr h⟩

end Kind

/-! ## Statements and branches -/

namespace Json

theorem sizeOf_item_lt {items : List Json} {item : Json} (h : item ∈ items) :
    sizeOf item < sizeOf (list items) := by
  have := List.sizeOf_lt_of_mem h
  simp only [list.sizeOf_spec]
  omega

theorem sizeOf_member_lt {members : List (String × Json)} {member : String × Json}
    (h : member ∈ members) : sizeOf member.2 < sizeOf (object members) := by
  have := List.sizeOf_lt_of_mem h
  obtain ⟨key, value⟩ := member
  simp only [object.sizeOf_spec, Prod.mk.sizeOf_spec] at this ⊢
  omega

theorem toStatementOf_eq_error_iff (op : Op) (members : List (String × Json)) (mismatch : Mismatch) :
    toStatementOf op members = .error mismatch ↔ check op.fields [] members = .error mismatch := by
  unfold toStatementOf Op.fields
  cases hf : op.form with
  | one key make =>
    rw [map_eq_error_iff, ← textField_check key members none [] (by simp), map_eq_error_iff]
  | two a b make =>
    rw [map_eq_error_iff, ← fields_check (op.form_keys hf) members none none [] (by simp) (by simp),
      map_eq_error_iff]

theorem toStatementAt_eq_error_iff (op : Op) (values : List Json) (mismatch : Mismatch) :
    toStatementAt op values = .error mismatch ↔
      checkInOrder (.statement op) 0 op.fields values = .error mismatch := by
  unfold toStatementAt Op.fields
  cases hf : op.form with
  | one key make => rw [map_eq_error_iff, ← textPosition_check _ key, map_eq_error_iff]
  | two a b make => rw [map_eq_error_iff, ← positions_check, map_eq_error_iff]

end Json

theorem Op.fields_nodup (op : Op) : (op.fields.map Field.key).Nodup := by
  cases op <;> decide

namespace Statement

variable {naming : Op.Naming} {op : Op} {tag : Json} {mismatch : Mismatch}
  {members : List (String × Json)} {values : List Json}

theorem refused_object_iff :
    Statement.Refused naming (.object members) mismatch ↔
      Op.Unclear naming (Json.under members "op") mismatch ∨
      ∃ op tag, naming.gives op tag ∧ Json.under members "op" = [tag] ∧
        Field.RefusedAmong op.fields members mismatch := by
  constructor
  · intro h
    cases h with
    | kind h => exact .inl h
    | members ht hu h => exact .inr ⟨_, _, ht, hu, h⟩
  · rintro (h | ⟨op, tag, ht, hu, h⟩)
    · exact .kind h
    · exact .members ht hu h

theorem refused_list_iff :
    Statement.Refused naming (.list (tag :: values)) mismatch ↔ naming.refuses tag mismatch ∨
      ∃ op, naming.gives op tag ∧ Field.RefusedInOrder (.statement op) op.fields values mismatch := by
  constructor
  · intro h
    cases h with
    | first h => exact .inl h
    | values ht h => exact .inr ⟨_, ht, h⟩
  · rintro (h | ⟨op, ht, h⟩)
    · exact .first h
    · exact .values ht h

end Statement

mutual
/-- **The law for the value of a field.** -/
theorem Kind.refuses_iff (kind : Kind) : ∀ (json : Json) (mismatch : Mismatch),
    json.toValue kind = .error mismatch ↔ kind.Refuses json mismatch
  | .scalar value, mismatch => by
    by_cases ha : kind.Admits (.scalar value)
    · obtain ⟨found, hf⟩ := Json.toValue_of_admits ha
      rw [hf]
      refine iff_of_false (by simp) ?_
      intro hr
      cases hr with
      | type h => exact h ha
    · exact Kind.refuses_iff_of_not_admits ha
  | .list items, mismatch => by
    have statements : ∀ item ∈ items, ∀ mismatch,
        item.toStatement = .error mismatch ↔ Statement.Refused Op.byTag item mismatch := by
      intro item hi mismatch
      rw [Json.toStatement_eq_statementBy]
      exact Statement.refused_iff Op.byTag_decodedBy item mismatch
    have branches : ∀ item ∈ items, ∀ mismatch,
        item.toBranch = .error mismatch ↔ Branch.Refused item mismatch :=
      fun item hi => Branch.refused_iff item
    cases kind with
    | text => exact Kind.refuses_iff_of_not_admits (by simp [Kind.Admits, Json.shape])
    | optionalText => exact Kind.refuses_iff_of_not_admits (by simp [Kind.Admits, Json.shape])
    | block =>
      rw [Json.toValue]
      exact Kind.refuses_block_iff (.inl rfl) statements
    | optionalBlock =>
      rw [Json.toValue, map_eq_error_iff]
      exact Kind.refuses_block_iff (.inr rfl) statements
    | branches =>
      rw [Json.toValue]
      exact Kind.refuses_branches_iff branches
  | .object members, mismatch =>
    Kind.refuses_iff_of_not_admits (by cases kind <;> simp [Kind.Admits, Json.shape])
termination_by json => sizeOf json
decreasing_by
  all_goals exact Json.sizeOf_item_lt hi

/-- **The law for statements.** -/
theorem Statement.refused_iff {naming : Op.Naming} {decode : Json → Except Mismatch Op}
    (h : naming.DecodedBy decode) : ∀ (json : Json) (mismatch : Mismatch),
    json.statementBy decode = .error mismatch ↔ Statement.Refused naming json mismatch
  | .scalar value, mismatch => by
    constructor
    · intro he
      cases he
      exact .type
    · intro hr
      cases hr
      rfl
  | .list [], mismatch => by
    constructor
    · intro he
      cases he
      exact .noKind
    · intro hr
      cases hr
      rfl
  | .list (tag :: values), mismatch => by
    have law := Json.checkInOrder_eq_error_iff values fun value hm kind => Kind.refuses_iff kind value
    rw [Json.statementBy, bind_eq_error_iff, Statement.refused_list_iff, h.error]
    simp only [h.ok, Json.toStatementAt_eq_error_iff, law]
  | .object members, mismatch => by
    have law := fun op : Op => Json.check_eq_error_iff op.fields_nodup members
      fun member hm kind => Kind.refuses_iff kind member.2
    rw [Json.statementBy, bind_eq_error_iff, Statement.refused_object_iff, Op.among_eq_error_iff h]
    simp only [Op.among_eq_ok_iff, h.ok, Json.toStatementOf_eq_error_iff, law]
    grind
termination_by json => sizeOf json
decreasing_by
  · exact Json.sizeOf_item_lt (List.mem_cons_of_mem tag hm)
  · exact Json.sizeOf_member_lt hm

/-- **The law for branches.** -/
theorem Branch.refused_iff : ∀ (json : Json) (mismatch : Mismatch),
    json.toBranch = .error mismatch ↔ Branch.Refused json mismatch
  | .scalar value, mismatch => by
    constructor
    · intro he
      cases he
      exact .type
    · intro hr
      cases hr
      rfl
  | .list values, mismatch => by
    have law := Json.checkInOrder_eq_error_iff values fun value hm kind => Kind.refuses_iff kind value
    rw [Json.toBranch, map_eq_error_iff, ← map_eq_error_iff (f := fun _ => ()), Json.positions_check, law]
    constructor
    · exact .values
    · intro hr
      cases hr with
      | values h => exact h
  | .object members, mismatch => by
    have distinct : ([Branch.conditionField, Branch.bodyField].map Field.key).Nodup := by decide
    have law := Json.check_eq_error_iff distinct members
      fun member hm kind => Kind.refuses_iff kind member.2
    rw [Json.toBranch, map_eq_error_iff, ← map_eq_error_iff (f := fun _ => ()),
      Json.fields_check (by decide) members none none [] (by simp) (by simp), law]
    constructor
    · exact .members
    · intro hr
      cases hr with
      | members h => exact h
termination_by json => sizeOf json
decreasing_by
  · exact Json.sizeOf_item_lt hm
  · exact Json.sizeOf_member_lt hm
end

/-! ## Members of other names -/

namespace Json

/-- A member that is neither `op` nor a field of the kind has no part in the statement. -/
theorem statementBy_insert (decode : Json → Except Mismatch Op) {before after : List (String × Json)}
    {key : String} (json : Json) (hop : key ≠ "op")
    (hk : ∀ op tag, decode tag = .ok op → under (before ++ after) "op" = [tag] →
      ∀ field ∈ op.fields, field.key ≠ key) :
    statementBy decode (.object (before ++ (key, json) :: after)) =
      statementBy decode (.object (before ++ after)) := by
  have tags : under (before ++ (key, json) :: after) "op" = under (before ++ after) "op" := by
    rw [under_append, under_append, under_cons, if_neg hop]
  rw [statementBy, statementBy, tags]
  cases ha : Op.among decode (under (before ++ after) "op") with
  | error mismatch => rfl
  | ok op =>
    obtain ⟨tag, hd, hu⟩ := (Op.among_eq_ok_iff _ _ _).mp ha
    have keep : ∀ field ∈ op.fields, decide (field.key ≠ key) = true := by simpa using hk op tag hd hu
    have same := fun members => (toStatementOf_filter (fun name => name ≠ key) keep members).symm
    show toStatementOf op _ = toStatementOf op _
    rw [same, same (before ++ after)]
    simp

end Json

/-! ## Texts -/

/-- Reading the text of a value as a statement is decoding one that names its kind. -/
theorem Statement.read_of_hasText {json : Json} {text : String} (ht : json.HasText text)
    (hd : json.depth ≤ 127) :
    Statement.read text = (json.statementBy Op.ofName).mapError .data := by
  obtain ⟨after, ha, run⟩ := Json.reader_run_text ht (show json.depth ≤ Json.depthLimit from hd)
  have read := (Statement.reader_streams Json.depthLimit).value run
  rw [← Json.toNamed_eq_statementBy]
  exact Reader.whole_of_answer read ha

/-- **Which fault is reported.** One of several faults is selected by the same law everywhere:

* where decoding a value gives no statement, the law says why, and the other way round; so too for every
  statement inside the value, by the law itself;
* so too for reading a text as a statement, which then must name its kind;
* a member that is neither `op` nor a field of the kind may as well be missing.

The kind may be given by a number inside a value. -/
theorem decoding_refuses_by_law :
    (∀ (json : Json) (mismatch : Mismatch),
      json.toStatement = .error mismatch ↔ Statement.Refused Op.byTag json mismatch) ∧
    (∀ (json : Json) (text : String), json.HasText text → json.depth ≤ 127 → ∀ error : ReadError,
      Statement.read text = .error error ↔
        ∃ mismatch, error = .data mismatch ∧ Statement.Refused Op.byName json mismatch) ∧
    ∀ (before after : List (String × Json)) (key : String) (json : Json), key ≠ "op" →
      (∀ (op : Op) (tag : Json), op.IsTag tag → Json.under (before ++ after) "op" = [tag] →
        ∀ field ∈ op.fields, field.key ≠ key) →
      (Json.object (before ++ (key, json) :: after)).toStatement =
          (Json.object (before ++ after)).toStatement ∧
        ∀ text other, (Json.object (before ++ (key, json) :: after)).HasText text →
          (Json.object (before ++ (key, json) :: after)).depth ≤ 127 →
          (Json.object (before ++ after)).HasText other →
          Statement.read text = Statement.read other := by
  refine ⟨?_, ?_, ?_⟩
  · intro json mismatch
    rw [Json.toStatement_eq_statementBy]
    exact Statement.refused_iff Op.byTag_decodedBy json mismatch
  · intro json text ht hd error
    rw [Statement.read_of_hasText ht hd]
    have law := Statement.refused_iff Op.byName_decodedBy json
    cases hs : json.statementBy Op.ofName with
    | error mismatch =>
      simp only [← law, hs, Except.mapError, Except.error.injEq]
      constructor
      · rintro rfl
        exact ⟨mismatch, rfl, rfl⟩
      · rintro ⟨_, rfl, rfl⟩
        rfl
    | ok statement => simp [← law, hs, Except.mapError]
  · intro before after key json hop hk
    refine ⟨?_, ?_⟩
    · rw [Json.toStatement_eq_statementBy, Json.toStatement_eq_statementBy]
      exact Json.statementBy_insert Op.ofJson json hop fun op tag ho =>
        hk op tag ((Op.ofJson_eq_ok_iff tag op).mp ho)
    · intro text other ht hd ho
      have less : (Json.object (before ++ after)).depth ≤ 127 := by
        simp only [Json.depth, Json.membersDepth_append, Json.membersDepth] at hd ⊢
        omega
      rw [Statement.read_of_hasText ht hd, Statement.read_of_hasText ho less]
      congr 1
      exact Json.statementBy_insert Op.ofName json hop fun op tag hn =>
        hk op tag (.inl (Op.byName_decodedBy.ok.mp hn))

/-- A wrong type, a repeat and a missing field in one object: the first of them is reported, and a member
of another name changes nothing. -/
theorem decoding_refuses_first_fault :
    Statement.read "\x7b\"value\":1,\"op\":\"assign\",\"value\":\"a\"\x7d" =
        .error (.data (.invalidType (.scalar (.number (.int 1))) .text)) ∧
      Statement.read "\x7b\"value\":1,\"x\":[],\"op\":\"assign\",\"value\":\"a\"\x7d" =
        Statement.read "\x7b\"value\":1,\"op\":\"assign\",\"value\":\"a\"\x7d" := by
  obtain ⟨less, shallow⟩ := (Json.whole_reader_eq_ok_iff 2
    (.object [("value", .scalar (.number (.int 1))), ("op", .scalar (.string "assign")),
      ("value", .scalar (.string "a"))])
    "\x7b\"value\":1,\"op\":\"assign\",\"value\":\"a\"\x7d").mp (by with_unfolding_all rfl)
  obtain ⟨more, deeper⟩ := (Json.whole_reader_eq_ok_iff 2
    (.object [("value", .scalar (.number (.int 1))), ("x", .list []),
      ("op", .scalar (.string "assign")), ("value", .scalar (.string "a"))])
    "\x7b\"value\":1,\"x\":[],\"op\":\"assign\",\"value\":\"a\"\x7d").mp (by with_unfolding_all rfl)
  have fault : Field.RefusedAmong Op.assign.fields
      ([] ++ ("value", .scalar (.number (.int 1))) ::
        [("op", .scalar (.string "assign")), ("value", .scalar (.string "a"))])
      (.invalidType (.scalar (.number (.int 1))) .text) :=
    .value (show Field.text "value" ∈ Op.assign.fields by simp [Op.fields, Op.form])
      Field.settled_nil rfl
      (.type (by simp [Kind.Admits, Json.shape]))
  refine ⟨?_, ?_⟩
  · refine (decoding_refuses_by_law.2.1 _ _ less (by omega) _).mpr ⟨_, rfl, ?_⟩
    exact .members (show Op.byName.gives .assign (.scalar (.string "assign")) from rfl) rfl fault
  · refine (decoding_refuses_by_law.2.2 [("value", .scalar (.number (.int 1)))]
      [("op", .scalar (.string "assign")), ("value", .scalar (.string "a"))] "x" (.list [])
      (by decide) ?_).2 _ _ more (Nat.le_trans deeper (by decide)) less
    intro op tag _ _
    cases op <;> decide

/-- A number of a kind isn't refused, although it is no string: a statement inside a value may have it
under `op`. -/
theorem decoding_takes_numbered_kinds :
    Statement.read "\x7b\"op\":\"scope\",\"body\":[\x7b\"op\":0,\"name\":\"x\"\x7d]\x7d" =
        .ok (.scope none [.var "x" none]) ∧
      ¬ ∀ members tag, Json.under members "op" = [tag] → tag.string? = none →
        ∃ mismatch, (Json.object members).toStatement = .error mismatch := by
  refine ⟨?_, ?_⟩
  · obtain ⟨ht, hd⟩ := (Json.whole_reader_eq_ok_iff 3
      (.object [("op", .scalar (.string "scope")), ("body", .list [.object
        [("op", .scalar (.number (.int 0))), ("name", .scalar (.string "x"))]])])
      "\x7b\"op\":\"scope\",\"body\":[\x7b\"op\":0,\"name\":\"x\"\x7d]\x7d").mp
      (by with_unfolding_all rfl)
    rw [Statement.read_of_hasText ht (by omega)]
    rfl
  · intro h
    obtain ⟨mismatch, hm⟩ := h
      [("op", .scalar (.number (.int 0))), ("name", .scalar (.string "x"))] _ rfl rfl
    have taken : (Json.object [("op", .scalar (.number (.int 0))),
        ("name", .scalar (.string "x"))]).toStatement = .ok (.var "x" none) := by rfl
    rw [taken] at hm
    cases hm

end JsWriter
