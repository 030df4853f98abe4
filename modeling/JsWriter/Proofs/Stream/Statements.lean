import JsWriter.Proofs.Script.Accepts
import JsWriter.Proofs.Stream.Decoding

/-!
# Statements that are decoded while they are read

A statement that is read from a text directly must name its kind, where a statement inside a value may
also give the kind's number. This is all that sets the two apart:

* `Statement.reader_streams`, `Statement.listReader_streams`: reading statements directly is decoding
  them by `Json.toNamed`.
* `Json.toNamed_eq_ok_iff`, `Json.toNamedList_eq_ok_iff`: which decodes what decoding does, unless a
  kind is given by a number.
-/
namespace JsWriter

/-! ## Kinds given by name -/

/-- The kind of a statement isn't given by a number. -/
def Json.NamesKind : Json → Prop
  | .object members => ∀ value ∈ under members "op", ∀ number, value ≠ .scalar (.number number)
  | .list (first :: _) => ∀ number, first ≠ .scalar (.number number)
  | _ => True

/-- The kind that a value names. -/
def Op.ofName : Json → Except Mismatch Op
  | .scalar (.string name) => named name
  | value => .error (.invalidType value.shape .op)

theorem Op.ofName_eq_ofJson {json : Json} (h : ∀ number, json ≠ .scalar (.number number)) :
    ofName json = ofJson json := by
  rcases json with (_ | _ | number | name) | items | members
  · rfl
  · rfl
  · exact absurd rfl (h number)
  · rfl
  · rfl
  · rfl

theorem Op.ne_number_of_ofName {json : Json} {op : Op} (h : ofName json = .ok op) :
    ∀ number, json ≠ .scalar (.number number) := by
  rintro number rfl
  cases h

/-! ## Reading values -/

namespace Streams

variable {α β : Type} {scalar : Scalar → Except ReadError α} {list object : Reader ReadError α}
  {decode : Json → Except Mismatch α}

/-- Without room for lists and objects. -/
theorem shallow (hs : ∀ value, scalar value = Reader.decoded (decode (.scalar value)))
    (hl : Streams Reader.tooDeep list decode) (ho : Streams Reader.tooDeep object decode) :
    Streams (Json.reader 0) (Shape.reader scalar list object) decode :=
  shape hs hl ho

/-- With room for a list or an object. -/
theorem deep {room : Nat} (hs : ∀ value, scalar value = Reader.decoded (decode (.scalar value)))
    (hl : Streams (Json.items (Json.reader room)) list fun items => decode (.list items))
    (ho : Streams (Json.members (Json.reader room)) object fun members => decode (.object members)) :
    Streams (Json.reader (room + 1)) (Shape.reader scalar list object) decode :=
  shape hs hl.ofMap ho.ofMap

/-- A value that lies too deep, where none is wanted anyway. -/
theorem refuseDeep (mismatch : Mismatch) (decode : β → Except Mismatch α) :
    Streams (Reader.tooDeep : Reader Fault β) (Reader.refuse fun _ => .data mismatch) decode where
  value hw := by cases hw
  fault {s fault} hw := by
    cases hw
    exact .inr ⟨mismatch, [], s, rfl, List.suffix_rfl, rfl, fun _ _ => rfl⟩

end Streams

/-- What `f` makes of a text, and nothing of other values. -/
def Json.ofText {α : Type} (want : Want) (f : String → Except Mismatch α) : Json → Except Mismatch α
  | .scalar (.string text) => f text
  | value => .error (.invalidType value.shape want)

theorem Reader.text_streams {α : Type} (want : Want) (f : String → Except Mismatch α) (room : Nat) :
    Streams (Json.reader room) (Reader.text want f) (Json.ofText want f) := by
  unfold Reader.text
  cases room with
  | zero =>
    refine .shallow ?_ (.refuseDeep _ _) (.refuseDeep _ _)
    intro value
    cases value <;> rfl
  | succ room =>
    refine .deep ?_
      (.refuse (.invalidType .list want) (Json.items_staysWithin (Json.reader_within room)))
      (.refuse (.invalidType .object want) (Json.members_staysWithin (Json.reader_within room)))
    intro value
    cases value <;> rfl

theorem Op.reader_streams (room : Nat) : Streams (Json.reader room) Op.reader Op.ofName :=
  (Reader.text_streams .op Op.named room).congr fun json => by
    rcases json with (_ | _ | _ | _) | _ | _ <;> rfl

/-! ## Statements -/

namespace Statement

variable {α : Type}

/-- What a value in a list does to the statement that is read: the first one is its kind. -/
def Draft.add (state : Draft Json) (json : Json) : Except Mismatch (Draft Json) :=
  match state.op with
  | none => (Op.ofName json).map fun op => ⟨some op, state.parts⟩
  | some op => .ok ⟨some op, json :: state.parts⟩

/-- What a member does to the statement that is read. -/
def Draft.addMember (state : Draft (String × Json)) (member : String × Json) :
    Except Mismatch (Draft (String × Json)) :=
  if member.1 = "op" then
    if state.op.isSome then .error (.duplicateField "op")
    else (Op.ofName member.2).map fun op => ⟨some op, state.parts⟩
  else .ok ⟨state.op, member :: state.parts⟩

def Draft.close (make : Op → List α → Except Mismatch Statement) (draft : Draft α) :
    Except Mismatch Statement :=
  match draft.op with
  | none => .error (.missingField "op")
  | some op => make op draft.parts.reverse

theorem ofDraft_eq (make : Op → List α → Except Mismatch Statement) (draft : Draft α) :
    ofDraft make draft = Reader.decoded (draft.close make) := by
  unfold ofDraft Draft.close
  cases draft.op <;> rfl

end Statement

/-- A statement that names its kind. -/
def Json.toNamed : Json → Except Mismatch Statement
  | .object members =>
    (members.foldlM Statement.Draft.addMember ⟨none, []⟩).bind (Statement.Draft.close toStatementOf)
  | .list values =>
    (values.foldlM Statement.Draft.add ⟨none, []⟩).bind (Statement.Draft.close toStatementAt)
  | value => .error (.invalidType value.shape .statement)

namespace Statement

theorem element_streams (room : Nat) (state : Draft Json) :
    Streams (Json.reader room) (element (Json.reader room) state) state.add := by
  unfold element Draft.add
  cases state.op with
  | none => exact (Op.reader_streams room).map _
  | some op => exact (Streams.ofFaults (Json.reader room)).map _

theorem member_streams (room : Nat) (state : Draft (String × Json)) (key : String) :
    StreamsMember room (member (Json.reader room) state key) fun json => state.addMember (key, json) := by
  unfold member Draft.addMember
  by_cases hk : key = "op"
  · by_cases ho : state.op.isSome
    · simp only [hk, ho, if_true]
      exact .inr ⟨.duplicateField "op", rfl, fun _ => rfl⟩
    · simp only [hk, ho, if_true]
      exact .inl ⟨_, rfl, (Op.reader_streams room).map _⟩
  · simp only [hk, if_false]
    exact .inl ⟨_, rfl, (Streams.ofFaults (Json.reader room)).map _⟩

/-- Nothing is decoded of a text that has ended. -/
theorem element_nil (room : Nat) (state : Draft Json) (mismatch : Mismatch) :
    (element (Json.reader room) state).run [] ≠ .error (.data mismatch) := by
  unfold element
  cases state.op with
  | none =>
    intro h
    cases h
  | some op =>
    intro h
    cases room <;> cases h

/-- **Reading a statement directly** is decoding one that names its kind. -/
theorem reader_streams (room : Nat) : Streams (Json.reader room) (reader room) Json.toNamed := by
  cases room with
  | zero => exact .shallow (fun _ => rfl) (.tooDeep _) (.tooDeep _)
  | succ room =>
    refine .deep (fun _ => rfl) ?_ ?_
    · exact (Streams.elements (element_streams room) (element_nil room) ⟨none, []⟩).andThen (ofDraft_eq _)
    · exact (Streams.members (member_streams room) ⟨none, []⟩).andThen (ofDraft_eq _)

/-- What a statement does to the list that is read, the last one first. -/
def addNamed (statements : List Statement) (json : Json) : Except Mismatch (List Statement) :=
  json.toNamed.map (· :: statements)

end Statement

/-- A list of statements that name their kinds. -/
def Json.toNamedList : Json → Except Mismatch (List Statement)
  | .list items => (items.foldlM Statement.addNamed []).map List.reverse
  | value => .error (.invalidType value.shape .sequence)

namespace Statement

theorem reader_nil (room : Nat) (statements : List Statement) (mismatch : Mismatch) :
    ((reader room).map (· :: statements)).run [] ≠ .error (.data mismatch) := by
  intro h
  cases room <;> cases h

/-- **Reading a list of statements directly** is decoding one whose statements name their kinds. -/
theorem listReader_streams (room : Nat) :
    Streams (Json.reader room) (listReader room) Json.toNamedList := by
  cases room with
  | zero => exact .shallow (fun _ => rfl) (.tooDeep _) (.refuseDeep _ _)
  | succ room =>
    refine .deep (fun _ => rfl) ?_ ?_
    · exact (Streams.elements (fun statements => (reader_streams room).map (· :: statements))
        (reader_nil room) []).map _
    · exact .refuse (.invalidType .object .sequence)
        (Json.members_staysWithin (Json.reader_within room))

end Statement

/-! ## Kinds among members -/

namespace Op

/-- The kind that the values under `op` in an object give, where `decode` is for one of them. -/
def among (decode : Json → Except Mismatch Op) : List Json → Except Mismatch Op
  | [] => .error (.missingField "op")
  | [tag] => decode tag
  | tag :: _ :: _ => (decode tag).bind fun _ => .error (.duplicateField "op")

/-- After a first value under `op` there must be no other. -/
theorem among_cons (decode : Json → Except Mismatch Op) (tag : Json) (more : List Json) :
    among decode (tag :: more) =
      (decode tag).bind fun op => if more = [] then .ok op else .error (.duplicateField "op") := by
  cases more with
  | nil => cases hd : decode tag <;> simp [among, hd, Except.bind]
  | cons again more => simp [among]

theorem among_eq_ok_iff (decode : Json → Except Mismatch Op) (tags : List Json) (op : Op) :
    among decode tags = .ok op ↔ ∃ tag, decode tag = .ok op ∧ tags = [tag] := by
  rcases tags with _ | ⟨tag, _ | ⟨again, more⟩⟩
  · simp [among]
  · simp [among]
  · cases hd : decode tag <;> simp [among, hd, Except.bind]

theorem ofMembers_some_eq (op : Op) (members : List (String × Json)) :
    ofMembers (some op) members =
      if Json.under members "op" = [] then .ok op else .error (.duplicateField "op") := by
  induction members with
  | nil => rfl
  | cons member members ih =>
    obtain ⟨key, json⟩ := member
    rw [ofMembers, Json.under_cons]
    by_cases h : key = "op"
    · simp [h]
    · simp only [h, if_false, ih]

theorem ofMembers_eq_among (members : List (String × Json)) :
    ofMembers none members = among ofJson (Json.under members "op") := by
  induction members with
  | nil => rfl
  | cons member members ih =>
    obtain ⟨key, json⟩ := member
    rw [ofMembers, Json.under_cons]
    by_cases h : key = "op"
    · simp only [h, if_true, Option.isSome_none, Bool.false_eq_true, if_false, ofMembers_some_eq,
        among_cons]
    · simp only [h, if_false, ih]

/-- No field has the key of the kind. -/
theorem fields_notOp (op : Op) : ∀ field ∈ op.fields, field.key ≠ "op" := by
  cases op <;> decide

end Op

namespace Json

theorem textField_filter (keep : String → Bool) {key : String} (hk : keep key)
    (found : Option String) (members : List (String × Json)) :
    textField key found (members.filter fun member => keep member.1) =
      textField key found members := by
  induction members generalizing found with
  | nil => rfl
  | cons member members ih =>
    obtain ⟨name, value⟩ := member
    by_cases ho : keep name
    · rw [List.filter_cons_of_pos (by simpa using ho), textField, textField]
      simp only [ih]
    · have hne : name ≠ key := fun he => ho (he ▸ hk)
      rw [List.filter_cons_of_neg (by simpa using ho), ih, textField, if_neg hne]

theorem fields_filter (keep : String → Bool) {a b : Field} (ha : keep a.key) (hb : keep b.key)
    (foundA : Option a.kind.Value) (foundB : Option b.kind.Value) (members : List (String × Json)) :
    fields a b foundA foundB (members.filter fun member => keep member.1) =
      fields a b foundA foundB members := by
  induction members generalizing foundA foundB with
  | nil => rfl
  | cons member members ih =>
    obtain ⟨name, value⟩ := member
    by_cases ho : keep name
    · rw [List.filter_cons_of_pos (by simpa using ho), fields, fields]
      simp only [ih]
    · have hneA : name ≠ a.key := fun he => ho (he ▸ ha)
      have hneB : name ≠ b.key := fun he => ho (he ▸ hb)
      rw [List.filter_cons_of_neg (by simpa using ho), ih, fields, if_neg hneA, if_neg hneB]

/-- The fields of a statement are looked for among the members with their names. -/
theorem toStatementOf_filter (keep : String → Bool) {op : Op} (h : ∀ field ∈ op.fields, keep field.key)
    (members : List (String × Json)) :
    toStatementOf op (members.filter fun member => keep member.1) = toStatementOf op members := by
  unfold Op.fields at h
  unfold toStatementOf
  cases hf : op.form with
  | one key make =>
    simp only [hf, List.forall_mem_singleton] at h
    simp only [textField_filter keep h]
  | two a b make =>
    simp only [hf, List.forall_mem_cons] at h
    simp only [fields_filter keep h.1 h.2.1]

theorem toStatementOf_notOp (op : Op) (members : List (String × Json)) :
    toStatementOf op (members.filter fun member => member.1 ≠ "op") = toStatementOf op members :=
  toStatementOf_filter (fun key => key ≠ "op") (by simpa using op.fields_notOp) members

/-- A statement whose kind `decode` takes from one value. -/
def statementBy (decode : Json → Except Mismatch Op) : Json → Except Mismatch Statement
  | .object members => (Op.among decode (under members "op")).bind (toStatementOf · members)
  | .list [] => .error (.missingField "op")
  | .list (tag :: values) => (decode tag).bind (toStatementAt · values)
  | value => .error (.invalidType value.shape .statement)

theorem toStatement_eq_statementBy (json : Json) : json.toStatement = json.statementBy Op.ofJson := by
  rcases json with value | (_ | ⟨tag, values⟩) | members
  · rw [toStatement, statementBy] <;> simp
  · rw [toStatement, statementBy]
  · rw [toStatement_list, statementBy]
  · rw [toStatement_object, statementBy, Op.ofMembers_eq_among]

end Json

/-! ## Statements that name their kinds -/

namespace Statement

/-- After its kind, all values of a list are fields. -/
theorem Draft.foldlM_add (op : Op) (values parts : List Json) :
    values.foldlM Draft.add ⟨some op, parts⟩ = .ok ⟨some op, values.reverse ++ parts⟩ := by
  induction values generalizing parts with
  | nil => rfl
  | cons value values ih => simp [List.foldlM_cons, Draft.add, bind, Except.bind, ih]

/-- After its kind, all members of an object are fields or of no interest, and none gives a kind. -/
theorem Draft.foldlM_addMember_some (op : Op)
    (make : Op → List (String × Json) → Except Mismatch Statement) (members : List (String × Json))
    (parts : List (String × Json)) :
    (members.foldlM Draft.addMember ⟨some op, parts⟩).bind (Draft.close make) =
      if Json.under members "op" = [] then
        make op (parts.reverse ++ members.filter fun member => member.1 ≠ "op")
      else .error (.duplicateField "op") := by
  induction members generalizing parts with
  | nil => simp [Draft.close, Except.bind, pure, Except.pure, Json.under]
  | cons member members ih =>
    obtain ⟨key, value⟩ := member
    rw [List.foldlM_cons, Draft.addMember, Json.under_cons]
    by_cases hk : key = "op"
    · simp [hk, bind, Except.bind]
    · rw [if_neg hk, if_neg hk, List.filter_cons_of_pos (by simp [hk])]
      refine (ih ((key, value) :: parts)).trans ?_
      simp

/-- The members of a statement that names its kind: the kind, and the other members in their order. -/
theorem Draft.foldlM_addMember (make : Op → List (String × Json) → Except Mismatch Statement)
    (members : List (String × Json)) (parts : List (String × Json)) :
    (members.foldlM Draft.addMember ⟨none, parts⟩).bind (Draft.close make) =
      (Op.among Op.ofName (Json.under members "op")).bind fun op =>
        make op (parts.reverse ++ members.filter fun member => member.1 ≠ "op") := by
  induction members generalizing parts with
  | nil => rfl
  | cons member members ih =>
    obtain ⟨key, value⟩ := member
    rw [List.foldlM_cons, Draft.addMember, Json.under_cons]
    by_cases hk : key = "op"
    · rw [if_pos hk, if_pos hk, List.filter_cons_of_neg (by simp [hk]), Op.among_cons]
      cases Op.ofName value with
      | error mismatch => rfl
      | ok op =>
        refine (Draft.foldlM_addMember_some op make members parts).trans ?_
        by_cases hu : Json.under members "op" = [] <;> simp [hu, Except.bind]
    · rw [if_neg hk, if_neg hk, List.filter_cons_of_pos (by simp [hk])]
      refine (ih ((key, value) :: parts)).trans ?_
      simp

end Statement

namespace Json

theorem toNamed_eq_statementBy (json : Json) : json.toNamed = json.statementBy Op.ofName := by
  rcases json with value | (_ | ⟨tag, values⟩) | members
  · rw [toNamed, statementBy] <;> simp
  · rfl
  · rw [toNamed, statementBy, List.foldlM_cons, Statement.Draft.add]
    cases Op.ofName tag with
    | error mismatch => rfl
    | ok op =>
      show (List.foldlM Statement.Draft.add ⟨some op, []⟩ values).bind _ = toStatementAt op values
      rw [Statement.Draft.foldlM_add]
      simp [Except.bind, Statement.Draft.close]
  · rw [toNamed, statementBy, Statement.Draft.foldlM_addMember]
    simp only [List.reverse_nil, List.nil_append, toStatementOf_notOp]

/-- A statement that doesn't give its kind by a number is decoded the same. -/
theorem toNamed_eq_toStatement {json : Json} (h : json.NamesKind) : json.toNamed = json.toStatement := by
  rw [toNamed_eq_statementBy, toStatement_eq_statementBy]
  rcases json with value | (_ | ⟨tag, values⟩) | members
  · rfl
  · rfl
  · rw [statementBy, statementBy, Op.ofName_eq_ofJson h]
  · rw [statementBy, statementBy]
    cases hu : under members "op" with
    | nil => rfl
    | cons tag more => rw [Op.among_cons, Op.among_cons, Op.ofName_eq_ofJson (h tag (by simp [hu]))]

theorem namesKind_of_toNamed {json : Json} {statement : Statement} (h : json.toNamed = .ok statement) :
    json.NamesKind := by
  rw [toNamed_eq_statementBy] at h
  rcases json with value | (_ | ⟨tag, values⟩) | members
  · exact trivial
  · exact trivial
  · obtain ⟨op, ho, -⟩ := bind_eq_ok_iff.mp h
    exact Op.ne_number_of_ofName ho
  · obtain ⟨op, ho, -⟩ := bind_eq_ok_iff.mp h
    obtain ⟨tag, ht, hu⟩ := (Op.among_eq_ok_iff _ _ _).mp ho
    rw [NamesKind, hu]
    simpa using Op.ne_number_of_ofName ht

/-- **Named kinds.** What can be read directly are the statements whose kind isn't given by a
number. -/
theorem toNamed_eq_ok_iff (json : Json) (statement : Statement) :
    json.toNamed = .ok statement ↔ json.toStatement = .ok statement ∧ json.NamesKind := by
  constructor
  · intro h
    have named := namesKind_of_toNamed h
    exact ⟨toNamed_eq_toStatement named ▸ h, named⟩
  · rintro ⟨h, named⟩
    rw [toNamed_eq_toStatement named, h]

/-- Where all statements of a list name their kinds, they are decoded the same. -/
theorem foldlM_addNamed {items : List Json} (h : ∀ item ∈ items, item.NamesKind)
    (found : List Statement) :
    items.foldlM Statement.addNamed found =
      (toBlock items).map fun statements => statements.reverse ++ found := by
  induction items generalizing found with
  | nil => simp [toBlock, pure, Except.pure, Except.map]
  | cons item items ih =>
    have named := toNamed_eq_toStatement (h item List.mem_cons_self)
    rw [List.foldlM_cons, toBlock, Statement.addNamed, named]
    cases item.toStatement with
    | error mismatch => rfl
    | ok statement =>
      refine (ih (fun other ho => h other (List.mem_cons_of_mem _ ho)) (statement :: found)).trans ?_
      show _ = ((toBlock items).bind _).map _
      cases toBlock items <;> simp [Except.map, Except.bind]

theorem namesKind_of_foldlM_addNamed {items : List Json} {found last : List Statement}
    (h : items.foldlM Statement.addNamed found = .ok last) : ∀ item ∈ items, item.NamesKind := by
  induction items generalizing found with
  | nil => simp
  | cons item items ih =>
    rw [List.foldlM_cons] at h
    obtain ⟨next, hn, hl⟩ := bind_eq_ok_iff.mp h
    obtain ⟨statement, hs, -⟩ := map_eq_ok_iff.mp hn
    exact List.forall_mem_cons.mpr ⟨namesKind_of_toNamed hs, ih hl⟩

/-- A list whose statements name their kinds is decoded as a block. -/
theorem toNamedList_eq_toValue {json : Json}
    (h : ∀ items, json = .list items → ∀ item ∈ items, item.NamesKind) :
    json.toNamedList = toValue .block json := by
  rcases json with value | items | members
  · rw [toNamedList, toValue] <;> simp
  · rw [toNamedList, toValue, foldlM_addNamed (h items rfl)]
    cases toBlock items <;> simp [Except.map]
  · rw [toNamedList, toValue] <;> simp

theorem namesKind_of_toNamedList {json : Json} {statements : List Statement}
    (h : json.toNamedList = .ok statements) :
    ∀ items, json = .list items → ∀ item ∈ items, item.NamesKind := by
  rintro items rfl
  obtain ⟨last, hl, -⟩ := map_eq_ok_iff.mp h
  exact namesKind_of_foldlM_addNamed hl

/-- **Named kinds in a list.** Likewise for a list of statements. -/
theorem toNamedList_eq_ok_iff (json : Json) (statements : List Statement) :
    json.toNamedList = .ok statements ↔
      ∃ items, json = .list items ∧ toBlock items = .ok statements ∧
        ∀ item ∈ items, item.NamesKind := by
  constructor
  · intro h
    have named := namesKind_of_toNamedList h
    rcases json with value | items | members
    · cases h
    · rw [toNamedList_eq_toValue named, toValue] at h
      exact ⟨items, rfl, h, named items rfl⟩
    · cases h
  · rintro ⟨items, rfl, hb, named⟩
    rw [toNamedList_eq_toValue fun _ hi => by cases hi; exact named, toValue, hb]

end Json
end JsWriter
