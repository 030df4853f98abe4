import JsWriter.Proofs.Script.Grammar
import Mathlib.Data.List.Forall2

/-!
# Why a JSON value is no statement

The law by which one of several faults is reported, read off the value and without a decoder of
statements. Of an object it looks at three things, one after another:

1. what stands under `op`, wherever it stands (`Op.Unclear`);
2. the members with the name of a field, in their order: the first that is a repeat or has a value that
   doesn't decode;
3. the fields that must be given, in the order in which they are declared.

Of a list it looks at the first element, at the others in their order, and at their number. A value that
holds statements or branches has the fault of the first one that has a fault.

At the top a statement may have to name its kind, where one inside a value may give its number, too;
`Op.Naming` is the difference.
-/
namespace JsWriter

/-! ## Kinds of statements -/

namespace Op

/-- Why a value isn't the name of a kind: it is another string, or none. -/
inductive NoName : Json → Mismatch → Prop
  | unknown {name : String} (h : ∀ op : Op, name ≠ op.name) :
      NoName (.scalar (.string name)) (.unknownOp name)
  | noString {tag : Json} (h : tag.string? = none) : NoName tag (.invalidType tag.shape .op)

/-- Why a value is neither the name of a kind nor its number: it is a number behind the last one, or no
number and no name. -/
inductive NoTag : Json → Mismatch → Prop
  | index {index : Nat} (h : all.length ≤ index) :
      NoTag (.scalar (.number (.int index))) (.unknownIndex index)
  | noIndex {tag : Json} {mismatch : Mismatch}
      (h : ∀ index : Nat, tag ≠ .scalar (.number (.int index))) (hn : NoName tag mismatch) :
      NoTag tag mismatch

/-- How a statement gives its kind: the values that do, and why others don't. -/
structure Naming where
  gives : Op → Json → Prop
  refuses : Json → Mismatch → Prop

def byName : Naming := ⟨IsName, NoName⟩

def byTag : Naming := ⟨IsTag, NoTag⟩

/-- Why the values under `op` in an object don't give a kind: there is none, the first doesn't give one,
or it does and there are more. -/
inductive Unclear (naming : Naming) : List Json → Mismatch → Prop
  | missing : Unclear naming [] (.missingField "op")
  | refused {tag : Json} {more : List Json} {mismatch : Mismatch}
      (h : naming.refuses tag mismatch) : Unclear naming (tag :: more) mismatch
  | repeated {op : Op} {tag again : Json} {more : List Json} (h : naming.gives op tag) :
      Unclear naming (tag :: again :: more) (.duplicateField "op")

end Op

/-! ## Fields -/

def Kind.Decodes (kind : Kind) (json : Json) : Prop :=
  ∃ value, Json.toValue kind json = .ok value

def Kind.want : Kind → Want
  | text | optionalText => .text
  | block | optionalBlock | branches => .sequence

/-- A value that looks like this may be of the kind. -/
def Kind.Admits : Kind → Shape → Prop
  | text, shape => ∃ s, shape = .scalar (.string s)
  | optionalText, shape => shape = .scalar .null ∨ ∃ s, shape = .scalar (.string s)
  | block, shape => shape = .list
  | optionalBlock, shape => shape = .scalar .null ∨ shape = .list
  | branches, shape => shape = .list

/-- The members give each field at most once, with a value that decodes. -/
def Field.Settled (fields : List Field) (members : List (String × Json)) : Prop :=
  ∀ field ∈ fields, ∃ found : Option Json,
    Json.under members field.key = found.toList ∧ ∀ json ∈ found, field.kind.Decodes json

/-- The values are values of the fields, one each. -/
def Field.InOrder (fields : List Field) (values : List Json) : Prop :=
  List.Forall₂ (fun field value => field.kind.Decodes value) fields values

/-! ## Statements and branches -/

mutual
/-- The value isn't one of the kind, for this reason. -/
inductive Kind.Refuses : Kind → Json → Mismatch → Prop
  /-- It is of another type. -/
  | type {kind : Kind} {json : Json} (h : ¬ kind.Admits json.shape) :
      Kind.Refuses kind json (.invalidType json.shape kind.want)
  /-- The first element of a block that is no statement. -/
  | statement {kind : Kind} {before after : List Json} {json : Json} {mismatch : Mismatch}
      (hk : kind = .block ∨ kind = .optionalBlock)
      (hb : ∀ other ∈ before, ∃ statement, other.toStatement = .ok statement)
      (h : Statement.Refused Op.byTag json mismatch) :
      Kind.Refuses kind (.list (before ++ json :: after)) mismatch
  /-- The first element of a conditional that is no branch. -/
  | branch {before after : List Json} {json : Json} {mismatch : Mismatch}
      (hb : ∀ other ∈ before, ∃ branch, other.toBranch = .ok branch)
      (h : Branch.Refused json mismatch) :
      Kind.Refuses .branches (.list (before ++ json :: after)) mismatch

/-- The members don't give the fields, for this reason. -/
inductive Field.RefusedAmong : List Field → List (String × Json) → Mismatch → Prop
  /-- A second member of one name, whatever its value. -/
  | repeated {fields : List Field} {field : Field} {before after : List (String × Json)} {json : Json}
      (hf : field ∈ fields) (hb : Field.Settled fields before)
      (hu : Json.under before field.key ≠ []) :
      Field.RefusedAmong fields (before ++ (field.key, json) :: after) (.duplicateField field.key)
  /-- A first member of a name, whose value doesn't decode. -/
  | value {fields : List Field} {field : Field} {before after : List (String × Json)} {json : Json}
      {mismatch : Mismatch} (hf : field ∈ fields) (hb : Field.Settled fields before)
      (hu : Json.under before field.key = []) (h : Kind.Refuses field.kind json mismatch) :
      Field.RefusedAmong fields (before ++ (field.key, json) :: after) mismatch
  /-- Nothing of the kind, and no member for a field that must be given; those declared before it are
  given or needn't be. -/
  | missing {front back : List Field} {field : Field} {members : List (String × Json)}
      (hs : Field.Settled (front ++ field :: back) members)
      (hf : ∀ other ∈ front, other.fallback = none → Json.under members other.key ≠ [])
      (hn : field.fallback = none) (hu : Json.under members field.key = []) :
      Field.RefusedAmong (front ++ field :: back) members (.missingField field.key)

/-- The values in a list don't give the fields, for this reason. -/
inductive Field.RefusedInOrder : Record → List Field → List Json → Mismatch → Prop
  /-- The first value that doesn't decode. -/
  | value {record : Record} {front back : List Field} {field : Field} {before after : List Json}
      {json : Json} {mismatch : Mismatch} (hb : Field.InOrder front before)
      (h : Kind.Refuses field.kind json mismatch) :
      Field.RefusedInOrder record (front ++ field :: back) (before ++ json :: after) mismatch
  /-- All fields have a value, and there are more values. -/
  | tooMany {record : Record} {fields : List Field} {before after : List Json} {json : Json}
      (hb : Field.InOrder fields before) :
      Field.RefusedInOrder record fields (before ++ json :: after)
        (.tooMany (before ++ json :: after).length record)
  /-- There is no value for a field that must be given. -/
  | tooFew {record : Record} {front absent back : List Field} {field : Field} {values : List Json}
      (hb : Field.InOrder front values) (ha : ∀ other ∈ absent, other.fallback ≠ none)
      (hn : field.fallback = none) :
      Field.RefusedInOrder record (front ++ (absent ++ field :: back)) values
        (.tooFew (front ++ absent).length record)

/-- The value is no statement, for this reason. -/
inductive Statement.Refused : Op.Naming → Json → Mismatch → Prop
  | type {naming : Op.Naming} {value : Scalar} :
      Statement.Refused naming (.scalar value) (.invalidType (.scalar value) .statement)
  /-- Its kind. -/
  | kind {naming : Op.Naming} {members : List (String × Json)} {mismatch : Mismatch}
      (h : Op.Unclear naming (Json.under members "op") mismatch) :
      Statement.Refused naming (.object members) mismatch
  /-- The fields of its kind. -/
  | members {naming : Op.Naming} {op : Op} {tag : Json} {members : List (String × Json)}
      {mismatch : Mismatch} (ht : naming.gives op tag) (hu : Json.under members "op" = [tag])
      (h : Field.RefusedAmong op.fields members mismatch) :
      Statement.Refused naming (.object members) mismatch
  /-- A list without a kind. -/
  | noKind {naming : Op.Naming} : Statement.Refused naming (.list []) (.missingField "op")
  /-- A list whose first element gives no kind. -/
  | first {naming : Op.Naming} {tag : Json} {values : List Json} {mismatch : Mismatch}
      (h : naming.refuses tag mismatch) : Statement.Refused naming (.list (tag :: values)) mismatch
  /-- The fields of its kind in a list. -/
  | values {naming : Op.Naming} {op : Op} {tag : Json} {values : List Json} {mismatch : Mismatch}
      (ht : naming.gives op tag)
      (h : Field.RefusedInOrder (.statement op) op.fields values mismatch) :
      Statement.Refused naming (.list (tag :: values)) mismatch

/-- The value is no branch, for this reason. -/
inductive Branch.Refused : Json → Mismatch → Prop
  | type {value : Scalar} : Branch.Refused (.scalar value) (.invalidType (.scalar value) .branch)
  | members {members : List (String × Json)} {mismatch : Mismatch}
      (h : Field.RefusedAmong [Branch.conditionField, Branch.bodyField] members mismatch) :
      Branch.Refused (.object members) mismatch
  | values {values : List Json} {mismatch : Mismatch}
      (h : Field.RefusedInOrder .branch [Branch.conditionField, Branch.bodyField] values mismatch) :
      Branch.Refused (.list values) mismatch
end

end JsWriter
