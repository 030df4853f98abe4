import JsWriter.Script.Mismatch

/-!
# Statements from JSON values

A statement is an object with its kind under `op` and its fields under their names, or a list of its
kind and its fields in their order. The kind is given by its name or by its place among the kinds.
Either way a statement has at most two fields, so both forms are read by one function each, for every
kind: `Json.fields` takes two fields out of an object, `Json.positions` out of a list. `Kind` says what
the value of a field may be; decoding a field's value and decoding a statement call each other, on ever
smaller parts of the value.

`Json.toStatement`, `Json.toBranch` and `Json.toScript?` are the decoders that are derived from the
declarations of `Statement`, `Branch` and `Script`, for a value that has been read already.

Which error is reported: of the members of an object the first that repeats a field or doesn't
decode, then the first missing field.
-/
namespace JsWriter

/-- What the value of a field may be. -/
inductive Kind where
  | text
  | optionalText
  | block
  | optionalBlock
  | branches
  deriving DecidableEq, Repr

@[reducible] def Kind.Value : Kind → Type
  | text => String
  | optionalText => Option String
  | block => List Statement
  | optionalBlock => Option (List Statement)
  | branches => List Branch

/-- A field of a statement or a branch: its name, what its value may be, and what it is when absent,
if it may be absent. -/
structure Field where
  key : String
  kind : Kind
  fallback : Option kind.Value

namespace Field

@[reducible] def text (key : String) : Field := ⟨key, .text, none⟩

/-- A text that may be absent. -/
@[reducible] def optionalText (key : String) : Field := ⟨key, .optionalText, some none⟩

/-- A block that is empty when absent. -/
@[reducible] def block (key : String) : Field := ⟨key, .block, some []⟩

/-- A block that may be absent. -/
@[reducible] def optionalBlock (key : String) : Field := ⟨key, .optionalBlock, some none⟩

@[reducible] def branches (key : String) : Field := ⟨key, .branches, none⟩

/-- The value of a field after all members have been seen. -/
def value (field : Field) (found : Option field.kind.Value) :
    Except Mismatch field.kind.Value :=
  match found <|> field.fallback with
  | some value => .ok value
  | none => .error (.missingField field.key)

end Field

/-- The fields of a kind of statement, and the statement that their values make. -/
inductive Form where
  | one (key : String) (make : String → Statement)
  | two (a b : Field) (make : a.kind.Value → b.kind.Value → Statement)

@[reducible] def Branch.conditionField : Field := .text "condition"

@[reducible] def Branch.bodyField : Field := .block "body"

namespace Op

/-- The fields of each kind of statement, in the order in which they are declared. -/
def form : Op → Form
  | var => .two (.text "name") (.optionalText "value") .var
  | assign => .two (.text "name") (.text "value") .assign
  | raw => .one "text" .raw
  | line => .one "text" .line
  | scope => .two (.optionalText "args") (.block "body") .scope
  | cond => .two (.branches "branches") (.optionalBlock "else") .cond
  | function => .two (.text "header") (.block "body") .function

def named (name : String) : Except Mismatch Op :=
  match ofName? name with
  | some op => .ok op
  | none => .error (.unknownOp name)

/-- The kind that a decoded value asks for, by name or by number. -/
def ofJson : Json → Except Mismatch Op
  | .scalar (.string name) => named name
  | .scalar (.number (.int (.ofNat index))) =>
    match all[index]? with
    | some op => .ok op
    | none => .error (.unknownIndex index)
  | value => .error (.invalidType value.shape .op)

/-- The kind under `op` in an object. -/
def ofMembers (found : Option Op) : List (String × Json) → Except Mismatch Op
  | [] =>
    match found with
    | some op => .ok op
    | none => .error (.missingField "op")
  | (key, value) :: members =>
    if key = "op" then
      if found.isSome then .error (.duplicateField "op")
      else (ofJson value).bind fun op => ofMembers (some op) members
    else ofMembers found members

end Op

namespace Json

def toText : Json → Except Mismatch String
  | .scalar (.string text) => .ok text
  | value => .error (.invalidType value.shape .text)

/-- The one field of a statement that is a text, from an object. -/
def textField (key : String) (found : Option String) :
    List (String × Json) → Except Mismatch String
  | [] =>
    match found with
    | some text => .ok text
    | none => .error (.missingField key)
  | (name, value) :: members =>
    if name = key then
      if found.isSome then .error (.duplicateField key)
      else value.toText.bind fun text => textField key (some text) members
    else textField key found members

/-- The one field of a statement that is a text, from a list. -/
def textPosition (record : Record) : List Json → Except Mismatch String
  | [] => .error (.tooFew 0 record)
  | [value] => value.toText
  | value :: more => value.toText.bind fun _ => .error (.tooMany (more.length + 1) record)

mutual
def toValue (kind : Kind) (value : Json) : Except Mismatch kind.Value :=
  match kind, value with
  | .text, value => value.toText
  | .optionalText, .scalar .null => .ok none
  | .optionalText, value => value.toText.map some
  | .block, .list items => toBlock items
  | .block, value => .error (.invalidType value.shape .sequence)
  | .optionalBlock, .scalar .null => .ok none
  | .optionalBlock, .list items => (toBlock items).map some
  | .optionalBlock, value => .error (.invalidType value.shape .sequence)
  | .branches, .list items => toBranches items
  | .branches, value => .error (.invalidType value.shape .sequence)

/-- Two fields from the members of an object, as far as found. -/
def fields (a b : Field) (foundA : Option a.kind.Value) (foundB : Option b.kind.Value) :
    List (String × Json) → Except Mismatch (a.kind.Value × b.kind.Value)
  | [] => do
    let valueA ← a.value foundA
    let valueB ← b.value foundB
    .ok (valueA, valueB)
  | (key, value) :: members =>
    if key = a.key then
      if foundA.isSome then .error (.duplicateField key)
      else do
        let found ← toValue a.kind value
        fields a b (some found) foundB members
    else if key = b.key then
      if foundB.isSome then .error (.duplicateField key)
      else do
        let found ← toValue b.kind value
        fields a b foundA (some found) members
    else fields a b foundA foundB members

/-- Two fields from a list of their values: the last ones may be left out if they have a default. -/
def positions (record : Record) (a b : Field) :
    List Json → Except Mismatch (a.kind.Value × b.kind.Value)
  | [] =>
    match a.fallback, b.fallback with
    | some valueA, some valueB => .ok (valueA, valueB)
    | none, _ => .error (.tooFew 0 record)
    | _, none => .error (.tooFew 1 record)
  | [first] => do
    let valueA ← toValue a.kind first
    match b.fallback with
    | some valueB => .ok (valueA, valueB)
    | none => .error (.tooFew 1 record)
  | [first, second] => do
    let valueA ← toValue a.kind first
    let valueB ← toValue b.kind second
    .ok (valueA, valueB)
  | first :: second :: _ :: more => do
    let _ ← toValue a.kind first
    let _ ← toValue b.kind second
    .error (.tooMany (more.length + 3) record)

/-- A statement. -/
def toStatement : Json → Except Mismatch Statement
  | .object members => do
    let op ← Op.ofMembers none members
    match op.form with
    | .one key make => (textField key none members).map make
    | .two a b make => (fields a b none none members).map fun (x, y) => make x y
  | .list [] => .error (.missingField "op")
  | .list (first :: values) => do
    let op ← Op.ofJson first
    match op.form with
    | .one _ make => (textPosition (.statement op) values).map make
    | .two a b make => (positions (.statement op) a b values).map fun (x, y) => make x y
  | value => .error (.invalidType value.shape .statement)

def toBlock : List Json → Except Mismatch (List Statement)
  | [] => .ok []
  | value :: values => do
    let statement ← toStatement value
    let statements ← toBlock values
    .ok (statement :: statements)

def toBranch : Json → Except Mismatch Branch
  | .object members =>
    (fields Branch.conditionField Branch.bodyField none none members).map fun (condition, body) =>
      ⟨condition, body⟩
  | .list values =>
    (positions .branch Branch.conditionField Branch.bodyField values).map fun (condition, body) =>
      ⟨condition, body⟩
  | value => .error (.invalidType value.shape .branch)

def toBranches : List Json → Except Mismatch (List Branch)
  | [] => .ok []
  | value :: values => do
    let branch ← toBranch value
    let branches ← toBranches values
    .ok (branch :: branches)
end

/-- The statement of a kind whose fields are among the members of an object. -/
def toStatementOf (op : Op) (members : List (String × Json)) : Except Mismatch Statement :=
  match op.form with
  | .one key make => (textField key none members).map make
  | .two a b make => (fields a b none none members).map fun (x, y) => make x y

/-- The statement of a kind whose fields are the values of a list. -/
def toStatementAt (op : Op) (values : List Json) : Except Mismatch Statement :=
  match op.form with
  | .one _ make => (textPosition (.statement op) values).map make
  | .two a b make => (positions (.statement op) a b values).map fun (x, y) => make x y

theorem toStatement_object (members : List (String × Json)) :
    toStatement (.object members) = (Op.ofMembers none members).bind (toStatementOf · members) := by
  rw [toStatement]; rfl

theorem toStatement_list (first : Json) (values : List Json) :
    toStatement (.list (first :: values)) = (Op.ofJson first).bind (toStatementAt · values) := by
  rw [toStatement]; rfl

/-- The statements under `statements` in an object: there is exactly one such member. -/
def documentBody? (found : Option (List Statement)) :
    List (String × Json) → Option (List Statement)
  | [] => found
  | (key, value) :: members =>
    if key = "statements" then
      match found, value with
      | none, .list items =>
        match toBlock items with
        | .ok statements => documentBody? (some statements) members
        | .error _ => none
      | _, _ => none
    else documentBody? found members

/-- A script of either form. -/
def toScript? : Json → Option Script
  | .list items => (toBlock items).toOption.map .statements
  | .object members => (documentBody? none members).map .document
  | _ => none

end Json
end JsWriter
