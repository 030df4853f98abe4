import JsWriter.Proofs.Json.Skipped
import JsWriter.Proofs.Stream.Statements

/-!
# Branches that are decoded while they are read

Reading a branch directly is decoding its value, but for two things: the statements of its block must name
their kinds, and elements after the last field of a list are a fault of the text, not one of the value. A
member that is no field is passed over, whatever its value and however deep.

* `Json.toBranch_eq_branchBy`, `Json.branchBy_congr`: decoding, where the decoder of blocks may be
  exchanged for one that agrees on the block.
* `Branch.reader_append`: reading what spells a value; `Branch.values_overlong` for lists that are too long.
* `Branch.read_of_hasText`, `Branch.read_of_overlong`: reading the text of a value, against decoding it.
* `Branch.read_eq_ok_iff`: which branches can be read.
-/
namespace JsWriter

open Json (AreBlanks IsSeparator ItemsSpeltAs)

variable {decode decode' : Json → Except Mismatch (List Statement)}

/-! ## Any decoder for the block -/

namespace Branch

/-- What a member does to the branch that is read, where `decode` is for its block. -/
def Draft.add (decode : Json → Except Mismatch (List Statement)) (state : Draft)
    (member : String × Json) : Except Mismatch Draft :=
  if member.1 = conditionField.key then
    if state.condition.isSome then .error (.duplicateField member.1)
    else member.2.toText.map fun text => ⟨some text, state.body⟩
  else if member.1 = bodyField.key then
    if state.body.isSome then .error (.duplicateField member.1)
    else (decode member.2).map fun statements => ⟨state.condition, some statements⟩
  else .ok state

def Draft.close (draft : Draft) : Except Mismatch Branch :=
  match draft.condition with
  | none => .error (.missingField conditionField.key)
  | some condition => .ok ⟨condition, draft.body.getD []⟩

theorem ofDraft_eq (draft : Draft) : ofDraft draft = Reader.decoded draft.close := by
  unfold ofDraft Draft.close
  cases draft.condition <;> rfl

end Branch

namespace Json

/-- A branch whose block is decoded by `decode`. -/
def branchBy (decode : Json → Except Mismatch (List Statement)) : Json → Except Mismatch Branch
  | .object members =>
    (members.foldlM (Branch.Draft.add decode) ⟨none, none⟩).bind Branch.Draft.close
  | .list [] => .error (.tooFew 0 .branch)
  | .list [condition] => condition.toText.map fun text => ⟨text, []⟩
  | .list (condition :: body :: more) =>
    condition.toText.bind fun text => (decode body).bind fun statements =>
      if more = [] then .ok ⟨text, statements⟩ else .error (.tooMany (more.length + 2) .branch)
  | value => .error (.invalidType value.shape .branch)

theorem fields_eq_foldlM (members : List (String × Json)) (state : Branch.Draft) :
    (fields Branch.conditionField Branch.bodyField state.condition state.body members).map
        (fun (condition, body) => (⟨condition, body⟩ : Branch)) =
      (members.foldlM (Branch.Draft.add (toValue .block)) state).bind Branch.Draft.close := by
  induction members generalizing state with
  | nil =>
    obtain ⟨condition, body⟩ := state
    cases condition <;> cases body <;> rfl
  | cons member members ih =>
    obtain ⟨key, value⟩ := member
    obtain ⟨condition, body⟩ := state
    rw [List.foldlM_cons, Branch.Draft.add, fields]
    by_cases hc : key = Branch.conditionField.key
    · rw [if_pos hc, if_pos hc]
      cases condition with
      | some condition => rfl
      | none =>
        have toText : toValue Branch.conditionField.kind value = value.toText := by rw [toValue]
        simp only [toText]
        cases value.toText with
        | error mismatch => rfl
        | ok text => exact ih ⟨some text, body⟩
    · rw [if_neg hc, if_neg hc]
      by_cases hb : key = Branch.bodyField.key
      · rw [if_pos hb, if_pos hb]
        cases body with
        | some body => rfl
        | none =>
          show ((toValue .block value).bind _).map _ = _
          cases toValue .block value with
          | error mismatch => rfl
          | ok statements => exact ih ⟨condition, some statements⟩
      · rw [if_neg hb, if_neg hb]
        exact ih ⟨condition, body⟩

theorem toBranch_eq_branchBy (json : Json) : json.toBranch = json.branchBy (toValue .block) := by
  rcases json with value | (_ | ⟨condition, _ | ⟨body, more⟩⟩) | members
  · rw [toBranch, branchBy] <;> simp
  · rw [toBranch, branchBy, positions]
    rfl
  · rw [toBranch, branchBy, positions, toValue]
    cases condition.toText <;> rfl
  · rw [toBranch, branchBy]
    cases more with
    | nil =>
      rw [positions, toValue]
      cases condition.toText with
      | error mismatch => rfl
      | ok text => cases toValue .block body <;> rfl
    | cons other more =>
      rw [positions, toValue]
      cases condition.toText with
      | error mismatch => rfl
      | ok text => cases toValue .block body <;> rfl
  · rw [toBranch, branchBy, ← fields_eq_foldlM]

/-- The values that are decoded as the block of a branch. -/
def bodies : Json → List Json
  | .object members => under members Branch.bodyField.key
  | .list (_ :: body :: _) => [body]
  | _ => []

theorem foldlM_add_congr (members : List (String × Json)) (state : Branch.Draft)
    (h : ∀ body ∈ under members Branch.bodyField.key, decode body = decode' body) :
    members.foldlM (Branch.Draft.add decode) state = members.foldlM (Branch.Draft.add decode') state := by
  induction members generalizing state with
  | nil => rfl
  | cons member members ih =>
    obtain ⟨key, value⟩ := member
    rw [under_cons] at h
    have same : Branch.Draft.add decode state (key, value) = Branch.Draft.add decode' state (key, value) := by
      unfold Branch.Draft.add
      by_cases hb : key = Branch.bodyField.key
      · rw [if_pos hb] at h
        rw [h value List.mem_cons_self]
      · simp only [if_neg hb]
    rw [List.foldlM_cons, List.foldlM_cons, same]
    refine congrArg _ (funext fun next => ih next ?_)
    intro body hm
    split at h
    · exact h body (List.mem_cons_of_mem _ hm)
    · exact h body hm

/-- Decoders that agree on the block give the same branch. -/
theorem branchBy_congr {json : Json} (h : ∀ body ∈ json.bodies, decode body = decode' body) :
    json.branchBy decode = json.branchBy decode' := by
  rcases json with value | (_ | ⟨condition, _ | ⟨body, more⟩⟩) | members
  · rfl
  · rfl
  · rfl
  · rw [branchBy, branchBy, h body (by simp [bodies])]
  · rw [branchBy, branchBy, foldlM_add_congr members _ h]

theorem decoded_of_foldlM_add {members : List (String × Json)} {state last : Branch.Draft}
    (h : members.foldlM (Branch.Draft.add decode) state = .ok last) :
    ∀ body ∈ under members Branch.bodyField.key, ∃ statements, decode body = .ok statements := by
  induction members generalizing state with
  | nil => simp [under_nil]
  | cons member members ih =>
    obtain ⟨key, value⟩ := member
    rw [List.foldlM_cons] at h
    obtain ⟨next, hn, hl⟩ := bind_eq_ok_iff.mp h
    intro body hm
    rw [under_cons] at hm
    split at hm
    · rename_i hb
      rcases List.mem_cons.mp hm with rfl | hm
      · unfold Branch.Draft.add at hn
        have notCondition : key ≠ Branch.conditionField.key := by
          rw [hb]
          decide
        rw [if_neg notCondition, if_pos hb] at hn
        split at hn
        · cases hn
        · obtain ⟨statements, hd, -⟩ := map_eq_ok_iff.mp hn
          exact ⟨statements, hd⟩
      · exact ih hl body hm
    · exact ih hl body hm

/-- The block of a branch was decoded where there is a branch. -/
theorem decoded_of_branchBy {json : Json} {branch : Branch} (h : json.branchBy decode = .ok branch) :
    ∀ body ∈ json.bodies, ∃ statements, decode body = .ok statements := by
  rcases json with value | (_ | ⟨condition, _ | ⟨body, more⟩⟩) | members
  · simp [bodies]
  · simp [bodies]
  · simp [bodies]
  · obtain ⟨text, -, hb⟩ := bind_eq_ok_iff.mp h
    obtain ⟨statements, hd, -⟩ := bind_eq_ok_iff.mp hb
    simpa [bodies] using ⟨statements, hd⟩
  · obtain ⟨last, hl, -⟩ := bind_eq_ok_iff.mp h
    exact decoded_of_foldlM_add hl

/-! ## Blocks that name their kinds -/

/-- No statement of the block of a branch gives its kind by a number. -/
def BodyNamesKinds (json : Json) : Prop :=
  ∀ items, .list items ∈ json.bodies → ∀ item ∈ items, item.NamesKind

/-- A block that names its kinds is decoded the same. -/
theorem branchBy_toNamedList {json : Json} (h : json.BodyNamesKinds) :
    json.branchBy toNamedList = json.toBranch := by
  rw [toBranch_eq_branchBy]
  refine branchBy_congr fun body hm => toNamedList_eq_toValue ?_
  rintro items rfl
  exact h items hm

theorem branchBy_toNamedList_eq_ok_iff (json : Json) (branch : Branch) :
    json.branchBy toNamedList = .ok branch ↔ json.toBranch = .ok branch ∧ json.BodyNamesKinds := by
  constructor
  · intro h
    have named : json.BodyNamesKinds := by
      intro items hm
      obtain ⟨statements, hs⟩ := decoded_of_branchBy h _ hm
      exact namesKind_of_toNamedList hs items rfl
    exact ⟨branchBy_toNamedList named ▸ h, named⟩
  · rintro ⟨h, named⟩
    rw [branchBy_toNamedList named, h]

theorem ofText_eq_toText (json : Json) : ofText .text .ok json = json.toText := by
  rcases json with (_ | _ | _ | _) | _ | _ <;> rfl

end Json

/-! ## Reading -/

/-- A key of one of the fields of a branch. -/
abbrev Branch.IsKey (key : String) : Prop := key = conditionField.key ∨ key = bodyField.key

/-- How deeply lists and objects are nested in what is read of a branch. A member that is passed over may
be nested any deeper. -/
def Json.branchDepth : Json → Nat
  | .object members => membersDepth (members.filter fun member => Branch.IsKey member.1) + 1
  | json => json.depth

namespace Branch

variable {room : Nat} {s t u : List Char} {json condition body : Json}

theorem text_streams (room : Nat) : Streams (Json.reader room) (Reader.text .text .ok) Json.toText :=
  (Reader.text_streams .text .ok room).congr Json.ofText_eq_toText

/-- The value of a member, also of one that is passed over. -/
theorem member_value {blanks text : List Char} (state : Draft) (key : String)
    (hd : IsKey key → json.depth ≤ room) (hb : AreBlanks blanks) (ht : json.SpeltAs text)
    (hu : Numeral.Ends u) :
    ((member (Statement.listReader room) state key).bind fun reader => reader.run (blanks ++ (text ++ u))) =
      Reader.answer u (state.add Json.toNamedList (key, json)) := by
  have read (h : IsKey key) := Json.reader_append json room hb ht (hd h) hu
  unfold member Draft.add
  by_cases condition : key = conditionField.key
  · rw [if_pos condition, if_pos condition]
    split
    · rfl
    · exact ((text_streams room).map _).value (read (.inl condition))
  · rw [if_neg condition, if_neg condition]
    by_cases body : key = bodyField.key
    · rw [if_pos body, if_pos body]
      split
      · rfl
      · exact ((Statement.listReader_streams room).map _).value (read (.inr body))
    · rw [if_neg body, if_neg body]
      have passed := Skip.reader_append hb ht hu
      simp [Except.bind, Reader.map_run, Reader.ofFaults, passed, Reader.lift, Except.map,
        Reader.answer]

/-- The condition of a branch in the form of a list. -/
theorem values_condition {separator a : List Char} (hs : IsSeparator true separator)
    (ha : condition.SpeltAs a) (ht : Numeral.Ends t) (body : Reader ReadError (List Statement)) :
    (values body).run (separator ++ (a ++ t)) =
      match condition.toText with
      | .error mismatch => .error (.data mismatch)
      | .ok text => (rest body t).map fun (statements, r) => (⟨text, statements⟩, r) := by
  have read := (text_streams condition.depth).value
    (Json.reader_append condition _ Json.areBlanks_nil ha (Nat.le_refl _) ht)
  obtain ⟨c, more, rfl, hc, bracket⟩ := ha.head
  simp only [List.cons_append, List.nil_append] at read
  simp only [values, List.cons_append, Reader.nextElement_more hs hc bracket, read]
  cases condition.toText <;> rfl

theorem rest_body {separator a : List Char} (hs : IsSeparator false separator) (ha : body.SpeltAs a)
    (hd : body.depth ≤ room) (ht : Numeral.Ends t) :
    rest (Statement.listReader room) (separator ++ (a ++ t)) =
      match body.toNamedList with
      | .error mismatch => .error (.data mismatch)
      | .ok statements =>
        match endOfList t with
        | .error fault => .error (.malformed fault)
        | .ok r => .ok (statements, r) := by
  have read := (Statement.listReader_streams room).value
    (Json.reader_append body room Json.areBlanks_nil ha hd ht)
  obtain ⟨c, more, rfl, hc, bracket⟩ := ha.head
  simp only [List.cons_append, List.nil_append] at read
  simp only [rest, List.cons_append, Reader.nextElement_more hs hc bracket, read]
  cases body.toNamedList <;> rfl

theorem endOfList_end {blanks : List Char} (hb : AreBlanks blanks) (s : List Char) :
    endOfList (blanks ++ ']' :: s) = .ok s := by
  simp [endOfList, Reader.skipBlanks_append_cons hb, Reader.isBlank]

theorem endOfList_more {separator : List Char} {c : Char} (hs : IsSeparator false separator)
    (hc : Reader.isBlank c = false) (hne : c ≠ ']') (s : List Char) :
    endOfList (separator ++ c :: s) = .error ⟨.trailingCharacters, c :: s, 1⟩ := by
  obtain ⟨before, after, hb, ha, rfl⟩ := hs
  rw [List.append_assoc, List.cons_append]
  simp [endOfList, Reader.skipBlanks_append_cons hb, Reader.isBlank,
    Reader.skipBlanks_append_cons ha hc, hne, Fault.next]

/-- The two fields of a branch in the form of a list: nothing may come after them. -/
theorem values_fields {more : List Json} {text : List Char}
    (ht : ItemsSpeltAs true (condition :: body :: more) text)
    (hd : Json.itemsDepth (condition :: body :: more) ≤ room) (s : List Char) :
    ∃ back, ItemsSpeltAs false more back ∧
      (values (Statement.listReader room)).run (text ++ s) =
        match (Json.list [condition, body]).branchBy Json.toNamedList with
        | .error mismatch => .error (.data mismatch)
        | .ok branch =>
          match endOfList (back ++ s) with
          | .error fault => .error (.malformed fault)
          | .ok r => .ok (branch, r) := by
  obtain ⟨separator, a, _, hs, ha, hb, rfl⟩ := ht
  have afterCondition := hb.ends s
  obtain ⟨between, b, back, hbetween, hbody, hback, rfl⟩ := hb
  refine ⟨back, hback, ?_⟩
  simp only [Json.itemsDepth] at hd
  rw [List.append_assoc, List.append_assoc, values_condition hs ha afterCondition,
    List.append_assoc, List.append_assoc, rest_body hbetween hbody (by omega) (hback.ends s),
    Json.branchBy]
  cases condition.toText with
  | error mismatch => rfl
  | ok text =>
    cases body.toNamedList with
    | error mismatch => rfl
    | ok statements => cases endOfList (back ++ s) <;> rfl

theorem values_append {items : List Json} {text : List Char} (ht : ItemsSpeltAs true items text)
    (hd : Json.itemsDepth items ≤ room) (hl : items.length ≤ 2) (s : List Char) :
    (values (Statement.listReader room)).run (text ++ s) =
      Reader.answer s ((Json.list items).branchBy Json.toNamedList) := by
  rcases items with _ | ⟨condition, _ | ⟨body, _ | ⟨other, more⟩⟩⟩
  · obtain ⟨blanks, hb, rfl⟩ := ht
    simp [values, Reader.nextElement_end hb, Json.branchBy, Reader.answer]
  · obtain ⟨separator, a, _, hs, ha, hb, rfl⟩ := ht
    rw [Json.itemsDepth] at hd
    have ends := hb.ends s
    obtain ⟨blanks, hblanks, rfl⟩ := hb
    have noBody : rest (Statement.listReader room) (blanks ++ [']'] ++ s) = .ok ([], s) := by
      simp [rest, Reader.nextElement_end hblanks]
    rw [List.append_assoc, List.append_assoc, values_condition hs ha ends, noBody,
      Json.branchBy]
    cases condition.toText <;> rfl
  · obtain ⟨_, ⟨blanks, hb, rfl⟩, run⟩ := values_fields ht hd s
    rw [run, List.append_assoc, List.singleton_append, endOfList_end hb]
    cases (Json.list [condition, body]).branchBy Json.toNamedList <;> rfl
  · simp at hl

/-- Further elements are a fault of the text, unless something is wrong before them. -/
theorem values_overlong {other : Json} {more : List Json} {text : List Char}
    (ht : ItemsSpeltAs true (condition :: body :: other :: more) text)
    (hd : Json.itemsDepth (condition :: body :: other :: more) ≤ room) (s : List Char) :
    ∃ back, (values (Statement.listReader room)).run (text ++ s) =
      match (Json.list [condition, body]).branchBy Json.toNamedList with
      | .error mismatch => .error (.data mismatch)
      | .ok _ => .error (.malformed ⟨.trailingCharacters, back, 1⟩) := by
  obtain ⟨_, ⟨separator, a, b, hs, ha, -, rfl⟩, run⟩ := values_fields ht hd s
  obtain ⟨c, rest, rfl, hc, bracket⟩ := ha.head
  refine ⟨c :: (rest ++ (b ++ s)), ?_⟩
  simp only [List.append_assoc, List.cons_append] at run
  rw [run, endOfList_more hs hc bracket]

/-- **A branch** is what decoding its value comes to, unless it is a list of too many elements. -/
theorem reader_append {blanks text : List Char} (hb : AreBlanks blanks) (ht : json.SpeltAs text)
    (hd : json.branchDepth ≤ room) (hs : Numeral.Ends s)
    (hl : ∀ items, json = .list items → items.length ≤ 2) :
    (reader room).run (blanks ++ (text ++ s)) =
      Reader.answer s (json.branchBy Json.toNamedList) := by
  rcases json with value | items | members
  · cases room <;> simp only [reader, Shape.reader, Shape.read_scalar hb ht hs] <;> rfl
  · obtain ⟨inside, hi, rfl⟩ := ht
    simp only [Json.branchDepth, Json.depth] at hd
    obtain ⟨room, rfl⟩ := Nat.exists_eq_add_of_le' (Nat.le_trans (Nat.le_add_left 1 _) hd)
    simp only [reader, Shape.reader, List.cons_append, Shape.read_list hb]
    exact values_append hi (by omega) (hl items rfl) s
  · obtain ⟨inside, hi, rfl⟩ := ht
    rw [Json.branchDepth] at hd
    obtain ⟨room, rfl⟩ := Nat.exists_eq_add_of_le' (Nat.le_trans (Nat.le_add_left 1 _) hd)
    -- Only the fields need room; the other members are passed over.
    have fits : ∀ entry ∈ members, IsKey entry.1 → entry.2.depth ≤ room := by
      intro entry he hk
      have field : entry ∈ members.filter fun member => IsKey member.1 :=
        List.mem_filter.mpr ⟨he, decide_eq_true hk⟩
      exact Nat.le_trans (Json.depth_le_membersDepth field) (Nat.le_of_succ_le_succ hd)
    have inner := Reader.foldMembers_speltAs (fun state key {_ _ _ _} => member_value state key)
      (⟨none, none⟩ : Draft) s hi fits
    simp only [reader, Shape.reader, List.cons_append, Shape.read_object hb, Reader.andThen,
      Reader.members, inner, Json.branchBy]
    cases members.foldlM (Draft.add Json.toNamedList) ⟨none, none⟩ with
    | error mismatch => rfl
    | ok draft =>
      simp only [Reader.answer, ofDraft_eq, Except.bind]
      cases draft.close <;> rfl

/-! ## Whole texts -/

variable {text : String}

theorem read_eq_branchBy (ht : json.HasText text) (hd : json.branchDepth ≤ 127)
    (hl : ∀ items, json = .list items → items.length ≤ 2) :
    read text = (json.branchBy Json.toNamedList).mapError .data := by
  obtain ⟨before, value, after, hb, hv, ha, ht⟩ := ht
  have run : (reader Json.depthLimit).run _ = _ := reader_append hb hv hd (Numeral.ends_blanks ha) hl
  rw [← ht] at run
  exact Reader.whole_of_answer run ha

/-- **Reading a branch** from the text of a value is decoding the value, where the statements of its block
name their kinds. -/
theorem read_of_hasText (ht : json.HasText text) (hd : json.branchDepth ≤ 127)
    (hl : ∀ items, json = .list items → items.length ≤ 2) (named : json.BodyNamesKinds) :
    read text = json.toBranch.mapError .data := by
  rw [read_eq_branchBy ht hd hl, Json.branchBy_toNamedList named]

/-- A list of more than two elements is refused: for what is wrong with the first two, or else for what
comes after them. -/
theorem read_of_overlong {other : Json} {more : List Json}
    (ht : (Json.list (condition :: body :: other :: more)).HasText text)
    (hd : (Json.list (condition :: body :: other :: more)).depth ≤ 127) :
    ∃ back, read text =
      match (Json.list [condition, body]).branchBy Json.toNamedList with
      | .error mismatch => .error (.data mismatch)
      | .ok _ => .error (.malformed ⟨.trailingCharacters, back, 1⟩) := by
  obtain ⟨before, _, after, hb, ⟨inside, hi, rfl⟩, ha, ht⟩ := ht
  rw [Json.depth] at hd
  obtain ⟨back, run⟩ := values_overlong hi (Nat.le_of_succ_le_succ hd) after
  refine ⟨back, ?_⟩
  rw [read, Reader.whole, ht, List.cons_append]
  simp only [Json.depthLimit, reader, Shape.reader, Shape.read_list hb, run]
  cases (Json.list [condition, body]).branchBy Json.toNamedList <;> rfl

/-- **The branches that can be read directly** are those whose value decodes to a branch, if no statement
of the block gives its kind by a number. -/
theorem read_eq_ok_iff (ht : json.HasText text) (hd : json.branchDepth ≤ 127) (branch : Branch) :
    read text = .ok branch ↔ json.toBranch = .ok branch ∧ json.BodyNamesKinds := by
  rw [← Json.branchBy_toNamedList_eq_ok_iff]
  have short (hl : ∀ items, json = .list items → items.length ≤ 2) :
      read text = .ok branch ↔ json.branchBy Json.toNamedList = .ok branch := by
    rw [read_eq_branchBy ht hd hl, mapError_eq_ok_iff]
  rcases json with value | (_ | ⟨condition, _ | ⟨body, _ | ⟨other, more⟩⟩⟩) | members
  case list.cons.cons.cons =>
    obtain ⟨back, refused⟩ := read_of_overlong ht hd
    rw [refused, Json.branchBy, Json.branchBy]
    cases condition.toText with
    | error mismatch => simp [Except.bind]
    | ok text => cases body.toNamedList <;> simp [Except.bind]
  all_goals exact short (by simp)

end Branch
end JsWriter
