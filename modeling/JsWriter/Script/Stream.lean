import JsWriter.Json.Skip
import JsWriter.Json.Value
import JsWriter.Script.Decode

/-!
# Statements from a text

A list of statements, a statement or a branch can be read from a text directly. What is wrong with an
element of a list is then reported before anything after it is looked at, and a statement's kind as
soon as it is met. A statement's other parts are read as JSON values first and decoded when the
statement has been closed: from then on `Json.toStatementOf` and `Json.toStatementAt` decide, as they
do for a statement inside a value.

A script of either form is read as one JSON value, and then decoded. `Script.read` is the `from_str`
that `render` begins with; `Statement.readList`, `Statement.read` and `Branch.read` are the same for the
other types.
-/
namespace JsWriter

namespace Reader

/-- A value of another type than the one wanted. -/
def mismatch {α : Type} (got : Shape) (want : Want) : Except ReadError α :=
  .error (.data (.invalidType got want))

/-- A list where something else is wanted. -/
def noList {α : Type} (want : Want) : Reader ReadError α :=
  refuse fun _ => .data (.invalidType .list want)

/-- An object where something else is wanted. -/
def noObject {α : Type} (want : Want) : Reader ReadError α :=
  refuse fun _ => .data (.invalidType .object want)

def text {α : Type} (want : Want) (f : String → Except Mismatch α) : Reader ReadError α :=
  Shape.reader
    (fun
      | .string text => (f text).mapError .data
      | value => mismatch (.scalar value) want)
    (noList want) (noObject want)

def decoded {α : Type} (result : Except Mismatch α) : Except ReadError α :=
  result.mapError .data

end Reader

/-- The kind of a statement, by its name. -/
def Op.reader : Reader ReadError Op := Reader.text .op Op.named

namespace Statement

/-- What was read of a statement so far: its kind, and its other parts, last first. -/
structure Draft (α : Type) where
  op : Option Op
  parts : List α

/-- The next element of a statement in the form of a list. -/
def element (value : Reader Fault Json) (state : Draft Json) :
    Reader ReadError (Draft Json) :=
  match state.op with
  | none => Op.reader.map fun op => ⟨some op, state.parts⟩
  | some op => (Reader.ofFaults value).map fun json => ⟨some op, json :: state.parts⟩

/-- The next member of a statement in the form of an object. -/
def member (value : Reader Fault Json) (state : Draft (String × Json)) (key : String) :
    Except ReadError (Reader ReadError (Draft (String × Json))) :=
  if key = "op" then
    if state.op.isSome then .error (.data (.duplicateField "op"))
    else .ok (Op.reader.map fun op => ⟨some op, state.parts⟩)
  else .ok ((Reader.ofFaults value).map fun json => ⟨state.op, (key, json) :: state.parts⟩)

def ofDraft {α : Type} (make : Op → List α → Except Mismatch Statement) (read : Draft α) :
    Except ReadError Statement :=
  match read.op with
  | none => .error (.data (.missingField "op"))
  | some op => Reader.decoded (make op read.parts.reverse)

/-- A statement with room for `room` nested lists and objects. -/
def reader : (room : Nat) → Reader ReadError Statement
  | 0 => Shape.reader (fun value => Reader.mismatch (.scalar value) .statement) .tooDeep .tooDeep
  | room + 1 =>
    Shape.reader (fun value => Reader.mismatch (.scalar value) .statement)
      ((Reader.elements (element (Json.reader room)) ⟨none, []⟩).andThen
        (ofDraft Json.toStatementAt))
      ((Reader.members (member (Json.reader room)) ⟨none, []⟩).andThen
        (ofDraft Json.toStatementOf))

/-- A list of statements with room for `room` nested lists and objects. -/
def listReader : (room : Nat) → Reader ReadError (List Statement)
  | 0 =>
    Shape.reader (fun value => Reader.mismatch (.scalar value) .sequence) .tooDeep
      (Reader.noObject .sequence)
  | room + 1 =>
    Shape.reader (fun value => Reader.mismatch (.scalar value) .sequence)
      ((Reader.elements (fun statements => (reader room).map (· :: statements)) []).map
        List.reverse)
      (Reader.noObject .sequence)

end Statement

namespace Branch

/-- What was read of a branch so far. -/
structure Draft where
  condition : Option String
  body : Option (List Statement)

/-- The next member of a branch. A member that isn't one of its fields is passed over. -/
def member (body : Reader ReadError (List Statement)) (state : Draft) (key : String) :
    Except ReadError (Reader ReadError Draft) :=
  if key = conditionField.key then
    if state.condition.isSome then .error (.data (.duplicateField key))
    else .ok ((Reader.text .text .ok).map fun text => ⟨some text, state.body⟩)
  else if key = bodyField.key then
    if state.body.isSome then .error (.data (.duplicateField key))
    else .ok (body.map fun statements => ⟨state.condition, some statements⟩)
  else .ok ((Reader.ofFaults Skip.reader).map fun _ => state)

def ofDraft (read : Draft) : Except ReadError Branch :=
  match read.condition with
  | none => .error (.data (.missingField conditionField.key))
  | some condition => .ok ⟨condition, read.body.getD []⟩

/-- The closing bracket of a list that already holds all fields. -/
def endOfList (s : List Char) : Except Fault (List Char) :=
  match Reader.skipBlanks s with
  | [] => Fault.here .endInList []
  | ']' :: r => .ok r
  | ',' :: r =>
    match Reader.skipBlanks r with
    | ']' :: r => Fault.next .trailingComma (']' :: r)
    | r => Fault.next .trailingCharacters r
  | r => Fault.next .trailingCharacters r

theorem endOfList_length {s r : List Char} (h : endOfList s = .ok r) : r.length < s.length := by
  have hs := Reader.skipBlanks_length s
  unfold endOfList at h
  split at h
  · cases h
  · rename_i heq; cases h; rw [heq] at hs; simp only [List.length_cons] at hs; omega
  · split at h <;> cases h
  · cases h

/-- The block of a branch in the form of a list, after its condition, and the closing bracket. -/
def rest (body : Reader ReadError (List Statement)) (s : List Char) :
    Except ReadError (List Statement × List Char) :=
  match Reader.nextElement false s with
  | .error fault => .error (.malformed fault)
  | .ok (false, r) => .ok ([], r)
  | .ok (true, r) =>
    match body.run r with
    | .error e => .error e
    | .ok (statements, r) =>
      match endOfList r with
      | .error fault => .error (.malformed fault)
      | .ok r => .ok (statements, r)

theorem rest_length {body : Reader ReadError (List Statement)} {s r : List Char}
    {statements : List Statement} (h : rest body s = .ok (statements, r)) :
    r.length < s.length := by
  unfold rest at h
  split at h
  · cases h
  · rename_i h1; cases h; exact (Reader.nextElement_length h1).2 rfl
  · rename_i h1
    have := (Reader.nextElement_length h1).1
    split at h
    · cases h
    · rename_i h2
      have := body.shortens h2
      split at h
      · cases h
      · rename_i h3; cases h; have := endOfList_length h3; omega

/-- The elements of a branch in the form of a list, after its opening bracket. -/
def values (body : Reader ReadError (List Statement)) : Reader ReadError Branch where
  run s :=
    match Reader.nextElement true s with
    | .error fault => .error (.malformed fault)
    | .ok (false, _) => .error (.data (.tooFew 0 .branch))
    | .ok (true, r) =>
      match (Reader.text .text .ok).run r with
      | .error e => .error e
      | .ok (condition, r) =>
        (rest body r).map fun (statements, r) => (⟨condition, statements⟩, r)
  shortens {s b r} h := by
    split at h
    · cases h
    · cases h
    · rename_i h1
      have := (Reader.nextElement_length h1).1
      split at h
      · cases h
      · rename_i t h2
        have := (Reader.text .text .ok).shortens h2
        cases hr : rest body t with
        | error e => simp [hr, Except.map] at h
        | ok p =>
          have := rest_length (r := p.2) hr
          simp only [hr, Except.map] at h
          cases h; omega

/-- A branch with room for `room` nested lists and objects. -/
def reader : (room : Nat) → Reader ReadError Branch
  | 0 => Shape.reader (fun value => Reader.mismatch (.scalar value) .branch) .tooDeep .tooDeep
  | room + 1 =>
    Shape.reader (fun value => Reader.mismatch (.scalar value) .branch)
      (values (Statement.listReader room))
      ((Reader.members (member (Statement.listReader room)) ⟨none, none⟩).andThen ofDraft)

end Branch

/-- A script of either form, with room for `room` nested lists and objects. -/
def Script.reader (room : Nat) : Reader ReadError Script :=
  (Reader.ofFaults (Json.reader room)).andThen fun value =>
    match value.toScript? with
    | some script => .ok script
    | none => .error .noScript

/-! ## Whole texts -/

/-- Reads a text as a script. -/
def Script.read (text : String) : Except ReadError Script :=
  (Script.reader Json.depthLimit).whole text.toList

def Statement.readList (text : String) : Except ReadError (List Statement) :=
  (Statement.listReader Json.depthLimit).whole text.toList

def Statement.read (text : String) : Except ReadError Statement :=
  (Statement.reader Json.depthLimit).whole text.toList

def Branch.read (text : String) : Except ReadError Branch :=
  (Branch.reader Json.depthLimit).whole text.toList

end JsWriter
