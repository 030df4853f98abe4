import JsWriter.Json.Reader
import JsWriter.Number.Decimal
import JsWriter.Script.Statement
import JsWriter.Text.Quoted

/-!
# Why a JSON value is no build script

A `Mismatch` says why a well-formed value is no statement or no branch; a `ReadError` is what reading a
text may end in.
-/
namespace JsWriter

/-- What a value was expected to be. -/
inductive Want where
  | text
  | sequence
  | op
  | statement
  | branch
  deriving DecidableEq, Repr

/-- Why a value is not what was expected. -/
inductive Mismatch where
  /-- No statement has this name. -/
  | unknownOp (name : String)
  /-- No statement has this number. -/
  | unknownIndex (index : Nat)
  /-- The value is of another type. -/
  | invalidType (got : Shape) (want : Want)
  /-- A field without a default is absent. -/
  | missingField (key : String)
  /-- A field is given twice. -/
  | duplicateField (key : String)
  /-- A list holds fewer values than there are fields without a default. -/
  | tooFew (count : Nat) (record : Record)
  /-- A list holds more values than there are fields. -/
  | tooMany (count : Nat) (record : Record)
  deriving DecidableEq, Repr

/-- Floating-point numbers in messages: the fewest digits, a half going to the even one, without an
exponent from `10 ^ (-5)` to below `10 ^ 16`, whole numbers with a `.0`. -/
def Mismatch.floatLayout : FloatLayout := ⟨some (-5, 15), true, .even⟩

def Shape.message : Shape → String
  | scalar .null => "null"
  | scalar (.bool true) => "boolean `true`"
  | scalar (.bool false) => "boolean `false`"
  | scalar (.number (.int n)) => "integer `" ++ toString n ++ "`"
  | scalar (.number (.float x)) => "floating point `" ++ Mismatch.floatLayout.text x ++ "`"
  | scalar (.string s) => "string " ++ Quoted.text s
  | list => "sequence"
  | object => "map"

def Want.message : Want → String
  | text => "a string"
  | sequence => "a sequence"
  | op => "variant identifier"
  | statement => "internally tagged enum Statement"
  | branch => "struct Branch"

def Mismatch.elementCount (n : Nat) : String :=
  toString n ++ (if n = 1 then " element" else " elements")

def Mismatch.message : Mismatch → String
  | unknownOp name =>
    "unknown variant `" ++ name ++ "`, expected one of " ++
      String.intercalate ", " (Op.all.map fun op => "`" ++ op.name ++ "`")
  | unknownIndex index =>
    "invalid value: integer `" ++ toString index ++ "`, expected variant index 0 <= i < " ++
      toString Op.all.length
  | invalidType got want => "invalid type: " ++ got.message ++ ", expected " ++ want.message
  | missingField key => "missing field `" ++ key ++ "`"
  | duplicateField key => "duplicate field `" ++ key ++ "`"
  | tooFew count record =>
    "invalid length " ++ toString count ++ ", expected " ++ record.title ++ " with " ++
      elementCount record.arity
  | tooMany count record =>
    "invalid length " ++ toString count ++ ", expected " ++ elementCount record.arity ++
      " in sequence"

/-- Why a text can't be read. -/
inductive ReadError where
  /-- The text is not JSON. -/
  | malformed (fault : Fault)
  /-- A value in it is not what was expected. Only what is wrong is kept here: of the message, the line and
  the column that are put behind it when the value is read from a text directly are left out. -/
  | data (mismatch : Mismatch)
  /-- Its value is no script of either form. -/
  | noScript
  deriving DecidableEq, Repr

instance : OfFault ReadError := ⟨.malformed⟩

/-- The wording of an error of `text`. -/
def ReadError.message (text : List Char) : ReadError → String
  | malformed fault => fault.message text
  | data mismatch => mismatch.message
  | noScript => "data did not match any variant of untagged enum Script"

end JsWriter
