import JsWriter.Number.Binary64

/-!
# JSON values and faults

Objects keep their members in the order of the text, repeated keys included, because decoding depends
on both. Numbers keep the distinction that their spelling makes: a whole number of at most 64 bits is
an integer, every other one a floating-point number. `Json.shape` is a value seen from outside: a
scalar, or only the fact that it is a list or an object.

A fault is a cause and a place. Reading works on what is left of the text, so the place is the rest
that was unread when the fault was noticed, and the number of bytes of that rest which the reported
position counts as read: one for a byte that was looked at and refused. `Fault.position` turns the
place into a line and a column of the whole text, counted in bytes of UTF-8.
-/
namespace JsWriter

/-- A number as its spelling classifies it. -/
inductive Number where
  | int (value : Int)
  | float (value : Binary64)
  deriving DecidableEq, Repr, Inhabited

/-- A value without parts. -/
inductive Scalar where
  | null
  | bool (value : Bool)
  | number (value : Number)
  | string (text : String)
  deriving DecidableEq, Repr, Inhabited

/-- What a value is, as far as its first token tells. -/
inductive Shape where
  | scalar (value : Scalar)
  | list
  | object
  deriving DecidableEq, Repr, Inhabited

inductive Json where
  | scalar (value : Scalar)
  | list (items : List Json)
  | object (members : List (String × Json))
  deriving Inhabited, Repr

namespace Json

def shape : Json → Shape
  | scalar value => .scalar value
  | list _ => .list
  | object _ => .object

/-- The string that the value is, if it is one. -/
def string? : Json → Option String
  | scalar (.string text) => some text
  | _ => none

end Json

/-! ## Faults in a text -/

/-- What is wrong with a text as JSON. -/
inductive Cause where
  | endInValue
  | endInList
  | endInObject
  | endInString
  | noValue
  | noColon
  | noListSeparator
  | noObjectSeparator
  | keyNotString
  | trailingComma
  | trailingCharacters
  | misspeltWord
  | badNumber
  | numberOutOfRange
  | badEscape
  | controlCharacter
  | loneSurrogate
  | brokenPair
  | tooDeep
  deriving DecidableEq, Repr

def Cause.message : Cause → String
  | endInValue => "EOF while parsing a value"
  | endInList => "EOF while parsing a list"
  | endInObject => "EOF while parsing an object"
  | endInString => "EOF while parsing a string"
  | noValue => "expected value"
  | noColon => "expected `:`"
  | noListSeparator => "expected `,` or `]`"
  | noObjectSeparator => "expected `,` or `\x7d`"
  | keyNotString => "key must be a string"
  | trailingComma => "trailing comma"
  | trailingCharacters => "trailing characters"
  | misspeltWord => "expected ident"
  | badNumber => "invalid number"
  | numberOutOfRange => "number out of range"
  | badEscape => "invalid escape"
  | controlCharacter => "control character (\\u0000-\\u001F) found while parsing a string"
  | loneSurrogate => "lone leading surrogate in hex escape"
  | brokenPair => "unexpected end of hex escape"
  | tooDeep => "recursion limit exceeded"

/-- A line, counted from one, and a column: the bytes of that line which lie before the position. -/
structure Position where
  line : Nat
  column : Nat
  deriving DecidableEq, Repr

/-- The position behind a piece of text, given as bytes. -/
def Position.after (read : List UInt8) : Position where
  line := 1 + read.count 10
  column := (read.reverse.takeWhile (· ≠ 10)).length

/-- A cause with its place: the unread rest of the text, and how many bytes of it count as read. -/
structure Fault where
  cause : Cause
  rest : List Char
  ahead : Nat
  deriving DecidableEq, Repr

namespace Fault

/-- A fault noticed behind what was read. -/
def here {α : Type} (cause : Cause) (rest : List Char) : Except Fault α :=
  .error ⟨cause, rest, 0⟩

/-- A fault at the next byte. -/
def next {α : Type} (cause : Cause) (rest : List Char) : Except Fault α :=
  .error ⟨cause, rest, 1⟩

/-- The bytes that the position counts as read. -/
def read (fault : Fault) (text : List Char) : List UInt8 :=
  (text.take (text.length - fault.rest.length)).flatMap String.utf8EncodeChar ++
    (fault.rest.flatMap String.utf8EncodeChar).take fault.ahead

def position (fault : Fault) (text : List Char) : Position :=
  .after (fault.read text)

def message (fault : Fault) (text : List Char) : String :=
  let place := fault.position text
  fault.cause.message ++ " at line " ++ toString place.line ++ " column " ++ toString place.column

end Fault

end JsWriter
