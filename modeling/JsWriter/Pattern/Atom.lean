import JsWriter.Json.Text
import JsWriter.Text.CharClass

/-!
# Atoms of a pattern

A pattern describes texts: a regular expression, without counts and names in braces, as a closing
brace can't stand in it. Its smallest parts are characters, kinds of characters and places between
characters, spelt raw or by an escape. Which of them can be used depends on the modes: beyond ASCII
nothing is known about kinds of characters, and about which of them are the same letter.
-/
namespace JsWriter.Pattern

/-- What can be switched inside of a pattern. -/
structure Modes where
  /-- Blanks and comments are passed over. -/
  spaced : Bool
  /-- Small and capital letters are the same. -/
  caseless : Bool
  /-- A pattern speaks of all characters, not of ASCII alone. -/
  wide : Bool
  deriving DecidableEq, Repr

namespace Modes

def initial : Modes := ⟨false, false, true⟩

/-- Whether switches can be understood: none comes twice, and a hyphen has some to switch off. -/
def areSwitches (switches : List Char) : Bool :=
  switches.all (· ∈ "imsURux-".toList) && decide switches.Nodup &&
    decide (switches.getLast? ≠ some '-')

/-- Applies switches: those before a hyphen switch on, those after it off. -/
def switch (modes : Modes) (switches : List Char) : Modes :=
  let on := switches.takeWhile (· ≠ '-')
  let set (c : Char) (old : Bool) : Bool := if c ∈ switches then c ∈ on else old
  ⟨set 'x' modes.spaced, set 'i' modes.caseless, set 'u' modes.wide⟩

/-- Drops blanks, and comments from a number sign to the end of the line. -/
def skipSpace (inComment : Bool) : List Char → List Char
  | [] => []
  | c :: r =>
    if inComment then skipSpace (c ≠ '\n') r
    else if Blank.contains c then skipSpace false r
    else if c = '#' then skipSpace true r
    else c :: r

/-- Drops what is passed over. -/
def skip (modes : Modes) (s : List Char) : List Char :=
  if modes.spaced then skipSpace false s else s

end Modes

/-- A smallest part of a pattern. -/
inductive Atom where
  /-- A character, which may be spelt by the number of a byte. -/
  | char (c : Char) (asByte : Bool)
  /-- The digits, blanks or word characters, or all characters but these. -/
  | kind (negated : Bool)
  /-- A place where a word begins or ends, or one where none does. -/
  | boundary
  /-- The start or the end of the text. -/
  | edge
  deriving DecidableEq, Repr

namespace Atom

/-- A character by its number, of which so many hexadecimal digits come next. -/
def hex (modes : Modes) : (digits : Nat) → (number : Nat) → List Char → Option (Char × List Char)
  | 0, number, s => if number.isValidChar then some (Char.ofNat number, s) else none
  | _ + 1, _, [] => none
  | digits + 1, number, c :: r =>
    (Json.Text.hexDigit? c).bind fun d => hex modes digits (number * 16 + d) (modes.skip r)

def control? : Char → Option Char
  | 'a' => some '\x07'
  | 't' => some '\t'
  | 'n' => some '\n'
  | 'v' => some '\x0b'
  | 'f' => some '\x0c'
  | 'r' => some '\r'
  | _ => none

def letter? (c : Char) : Option Atom :=
  if c ∈ "dsw".toList then some (.kind false)
  else if c ∈ "DSW".toList then some (.kind true)
  else if c ∈ "bB<>".toList then some .boundary
  else if c ∈ "Az".toList then some .edge
  else if c ≤ '\x7f' ∧ !c.isAlphanum then some (.char c false)
  else (control? c).map fun c => .char c false

/-- An escape, after its backslash. -/
def escape (modes : Modes) : List Char → Option (Atom × List Char)
  | [] => none
  | 'x' :: r => (hex modes 2 0 (modes.skip r)).map fun (c, r) => (.char c true, r)
  | 'u' :: r => (hex modes 4 0 (modes.skip r)).map fun (c, r) => (.char c false, r)
  | 'U' :: r => (hex modes 8 0 (modes.skip r)).map fun (c, r) => (.char c false, r)
  | c :: r => (letter? c).map fun atom => (atom, r)

/-- The atom that begins with a character. -/
def next (modes : Modes) (c : Char) (r : List Char) : Option (Atom × List Char) :=
  if c = '\\' then escape modes r else some (.char c false, r)

/-- Whether an atom can stand on its own. -/
def stands (modes : Modes) : Atom → Bool
  | char c asByte => if modes.wide then !modes.caseless else !asByte || decide (c ≤ '\x7f')
  | kind negated => !modes.wide && !negated
  | boundary => !modes.wide
  | edge => true

/-- Whether an atom can be a member of a bracket. -/
def isMember (modes : Modes) : Atom → Bool
  | char c _ => if modes.wide then !modes.caseless else decide (c ≤ '\x7f')
  | kind negated => !modes.wide && !negated
  | boundary => false
  | edge => false

end Atom
end JsWriter.Pattern
