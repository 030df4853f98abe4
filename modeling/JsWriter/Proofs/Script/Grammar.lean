import JsWriter.Script.Decode

/-!
# Which JSON values present a statement

The grammar of build scripts, read off the statements and without a decoder. `Json.Gives` covers both
forms that fields can be given in: an object gives them by name, in any order and among members of no
interest, a list by place. Every kind of statement then has one rule (`Statement.PresentedBy`), and
there is one for a branch and one for each form of a script.

How a statement may say of which kind it is, `asks`, is a parameter: `Op.IsName` is its name,
`Op.IsTag` its name or its number.
-/
namespace JsWriter

/-! ## Fields -/

namespace Json

/-- The values of the members with a key, in their order. -/
def under (members : List (String × Json)) (key : String) : List Json :=
  (members.filter fun member => member.1 = key).map Prod.snd

/-- The values stand in the places of fields: each in its own and none left over. Only fields behind
the last value are without one. -/
def InPlaces : List Json → List (Option Json) → Prop
  | [], found => ∀ value ∈ found, value = none
  | _ :: _, [] => False
  | value :: values, place :: found => place = some value ∧ InPlaces values found

/-- The fields `keys` have the values `found`. In an object each field occurs at most once, and other
members may be anything; in a list the fields stand in their order, nothing is left over, and only the
last ones may be without a value. -/
def Gives (json : Json) (keys : List String) (found : List (Option Json)) : Prop :=
  match json with
  | .object members => keys.map (under members) = found.map Option.toList
  | .list values => found.length = keys.length ∧ InPlaces values found
  | .scalar _ => False

def IsText (found : Option Json) (text : String) : Prop :=
  found = some (.scalar (.string text))

/-- What stands for an absent value: nothing, or a null. -/
def IsAbsent (found : Option Json) : Prop :=
  found = none ∨ found = some (.scalar .null)

def IsOptionalText (found : Option Json) : Option String → Prop
  | none => IsAbsent found
  | some text => IsText found text

/-- A list with a property. -/
def IsList (found : Option Json) (property : List Json → Prop) : Prop :=
  ∃ items, found = some (.list items) ∧ property items

end Json

/-! ## Kinds of statements -/

namespace Op

/-- The value is the name of the kind. -/
def IsName (op : Op) (tag : Json) : Prop :=
  tag = .scalar (.string op.name)

/-- The value is the name of the kind, or its place among the kinds. -/
def IsTag (op : Op) (tag : Json) : Prop :=
  op.IsName tag ∨ ∃ index : Nat, tag = .scalar (.number (.int index)) ∧ all[index]? = some op

/-- The fields of a kind, in the order in which they are declared. -/
def fields (op : Op) : List Field :=
  match op.form with
  | .one key _ => [.text key]
  | .two a b _ => [a, b]

end Op

/-! ## Statements, branches and scripts -/

mutual
/-- The value presents the statement. -/
def Statement.PresentedBy (asks : Op → Json → Prop) : Statement → Json → Prop
  | .var name value, json => ∃ tag a b, asks .var tag ∧
      json.Gives ["op", "name", "value"] [some tag, a, b] ∧
      Json.IsText a name ∧ Json.IsOptionalText b value
  | .assign name value, json => ∃ tag a b, asks .assign tag ∧
      json.Gives ["op", "name", "value"] [some tag, a, b] ∧ Json.IsText a name ∧ Json.IsText b value
  | .raw text, json => ∃ tag a, asks .raw tag ∧
      json.Gives ["op", "text"] [some tag, a] ∧ Json.IsText a text
  | .line text, json => ∃ tag a, asks .line tag ∧
      json.Gives ["op", "text"] [some tag, a] ∧ Json.IsText a text
  | .scope args body, json => ∃ tag a b, asks .scope tag ∧
      json.Gives ["op", "args", "body"] [some tag, a, b] ∧ Json.IsOptionalText a args ∧
      (b = none ∧ body = [] ∨ Json.IsList b (Statement.AllPresentedBy asks body))
  | .cond branches none, json => ∃ tag a b, asks .cond tag ∧
      json.Gives ["op", "branches", "else"] [some tag, a, b] ∧
      Json.IsList a (Branch.AllPresentedBy asks branches) ∧ Json.IsAbsent b
  | .cond branches (some block), json => ∃ tag a b, asks .cond tag ∧
      json.Gives ["op", "branches", "else"] [some tag, a, b] ∧
      Json.IsList a (Branch.AllPresentedBy asks branches) ∧
      Json.IsList b (Statement.AllPresentedBy asks block)
  | .function header body, json => ∃ tag a b, asks .function tag ∧
      json.Gives ["op", "header", "body"] [some tag, a, b] ∧ Json.IsText a header ∧
      (b = none ∧ body = [] ∨ Json.IsList b (Statement.AllPresentedBy asks body))

def Statement.AllPresentedBy (asks : Op → Json → Prop) : List Statement → List Json → Prop
  | [], [] => True
  | [], _ :: _ => False
  | _ :: _, [] => False
  | statement :: statements, value :: values =>
      statement.PresentedBy asks value ∧ Statement.AllPresentedBy asks statements values

def Branch.PresentedBy (asks : Op → Json → Prop) : Branch → Json → Prop
  | ⟨condition, body⟩, json => ∃ a b, json.Gives ["condition", "body"] [a, b] ∧
      Json.IsText a condition ∧
      (b = none ∧ body = [] ∨ Json.IsList b (Statement.AllPresentedBy asks body))

def Branch.AllPresentedBy (asks : Op → Json → Prop) : List Branch → List Json → Prop
  | [], [] => True
  | [], _ :: _ => False
  | _ :: _, [] => False
  | branch :: branches, value :: values =>
      branch.PresentedBy asks value ∧ Branch.AllPresentedBy asks branches values
end

/-- The value presents the script: a list of its statements, or an object with exactly one member
`statements`, which is such a list. -/
def Script.PresentedBy (asks : Op → Json → Prop) (script : Script) (json : Json) : Prop :=
  match script, json with
  | .statements ss, .list items => Statement.AllPresentedBy asks ss items
  | .document ss, .object members => ∃ items,
      Json.under members "statements" = [.list items] ∧ Statement.AllPresentedBy asks ss items
  | _, _ => False

end JsWriter
