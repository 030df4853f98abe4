import JsWriter.Json.Basic
import JsWriter.Json.Numeral

/-!
# How JSON values are spelt

The grammar of JSON texts, as a relation between a value and the texts that spell it: what
may be chosen freely, such as blanks or escapes, makes that several. It says nothing of reading.

A text spells a value without blanks around it. A numeral that is out of range spells no number, so no
value. `Json.depth` counts how deeply lists and objects are nested.
-/
namespace JsWriter

/-! ## Blanks -/

namespace Json

/-- Space, tab, line feed and carriage return, any number of them. -/
def AreBlanks (text : List Char) : Prop :=
  ∀ c ∈ text, c = ' ' ∨ c = '\t' ∨ c = '\n' ∨ c = '\r'

/-- What stands before an element or a member: blanks, and among them a comma unless it is the
`first`. -/
def IsSeparator (first : Bool) (text : List Char) : Prop :=
  if first then AreBlanks text
  else ∃ before after, AreBlanks before ∧ AreBlanks after ∧ text = before ++ ',' :: after

end Json

/-! ## Strings -/

namespace Json.Text

def IsHexDigit (value : Nat) (digit : Char) : Prop :=
  digit = value.digitChar ∨ digit = value.digitChar.toUpper

def IsHex4 (value : Nat) (text : List Char) : Prop :=
  ∃ a b c d, text = [a, b, c, d] ∧ IsHexDigit (value / 0x1000) a ∧
    IsHexDigit (value / 0x100 % 0x10) b ∧ IsHexDigit (value / 0x10 % 0x10) c ∧
    IsHexDigit (value % 0x10) d

/-- The characters that have a short escape, with the letter of the escape. -/
def shortEscapes : List (Char × Char) :=
  [('"', '"'), ('\\', '\\'), ('/', '/'), ('\x08', 'b'), ('\x0c', 'f'), ('\n', 'n'), ('\r', 'r'),
    ('\t', 't')]

/-- The surrogates that a character above U+FFFF is split into. -/
def surrogates (c : Char) : Nat × Nat :=
  (0xD800 + (c.toNat - 0x10000) / 0x400, 0xDC00 + (c.toNat - 0x10000) % 0x400)

inductive CharSpeltAs (c : Char) : List Char → Prop
  | raw : 0x20 ≤ c.toNat → c ≠ '"' → c ≠ '\\' → CharSpeltAs c [c]
  | short (letter : Char) : (c, letter) ∈ shortEscapes → CharSpeltAs c ['\\', letter]
  | unit (digits : List Char) :
      c.toNat ≤ 0xFFFF → IsHex4 c.toNat digits → CharSpeltAs c ('\\' :: 'u' :: digits)
  | pair (high low : List Char) :
      0xFFFF < c.toNat → IsHex4 (surrogates c).1 high → IsHex4 (surrogates c).2 low →
        CharSpeltAs c ('\\' :: 'u' :: high ++ '\\' :: 'u' :: low)

inductive CharsSpeltAs : List Char → List Char → Prop
  | nil : CharsSpeltAs [] []
  | cons {c : Char} {cs a b : List Char} :
      CharSpeltAs c a → CharsSpeltAs cs b → CharsSpeltAs (c :: cs) (a ++ b)

/-- A string is spelt between quotes. -/
def SpeltAs (string : String) (text : List Char) : Prop :=
  ∃ inside, CharsSpeltAs string.toList inside ∧ text = '"' :: inside ++ ['"']

theorem CharsSpeltAs.raw {cs : List Char} (h : ∀ c ∈ cs, 0x20 ≤ c.toNat ∧ c ≠ '"' ∧ c ≠ '\\') :
    CharsSpeltAs cs cs := by
  induction cs with
  | nil => exact .nil
  | cons c cs ih =>
    obtain ⟨low, quote, backslash⟩ := h c (by simp)
    exact .cons (.raw low quote backslash) (ih fun d hd => h d (by simp [hd]))

end Json.Text

/-! ## Numbers -/

namespace Numeral

/-- At least one decimal digit. -/
def IsDigits (digits : List Char) : Prop := digits ≠ [] ∧ ∀ d ∈ digits, d.isDigit

/-- A minus sign, or nothing. -/
def SignSpeltAs (negative : Bool) (text : List Char) : Prop :=
  text = if negative then ['-'] else []

/-- A zero alone, or digits that don't begin with one. -/
def WholeSpeltAs (digits text : List Char) : Prop :=
  text = digits ∧ (digits = ['0'] ∨ IsDigits digits ∧ digits.head? ≠ some '0')

/-- A point with digits, or nothing. -/
def FractionSpeltAs (digits text : List Char) : Prop :=
  digits = [] ∧ text = [] ∨ IsDigits digits ∧ text = '.' :: digits

/-- An `e` of either case with a sign and digits, or nothing. The sign of a positive exponent may be
left out. -/
def ExponentSpeltAs : Option (Bool × List Char) → List Char → Prop
  | none, text => text = []
  | some (negative, digits), text => ∃ mark sign, (mark = 'e' ∨ mark = 'E') ∧
      (if negative then sign = ['-'] else sign = ['+'] ∨ sign = []) ∧ IsDigits digits ∧
      text = mark :: sign ++ digits

/-- The parts of a numeral, one after another. -/
def SpeltAs (n : Numeral) (text : List Char) : Prop :=
  ∃ sign whole fraction exponent, SignSpeltAs n.negative sign ∧ WholeSpeltAs n.whole whole ∧
    FractionSpeltAs n.fraction fraction ∧ ExponentSpeltAs n.exponent exponent ∧
    text = sign ++ (whole ++ (fraction ++ exponent))

end Numeral

/-- A number is spelt by the numerals that it is the number of. -/
def Number.SpeltAs (number : Number) (text : List Char) : Prop :=
  ∃ numeral : Numeral, numeral.number = .ok number ∧ numeral.SpeltAs text

/-! ## Values -/

def Scalar.SpeltAs : Scalar → List Char → Prop
  | .null, text => text = ['n', 'u', 'l', 'l']
  | .bool true, text => text = ['t', 'r', 'u', 'e']
  | .bool false, text => text = ['f', 'a', 'l', 's', 'e']
  | .number value, text => value.SpeltAs text
  | .string value, text => Json.Text.SpeltAs value text

namespace Json

mutual
def SpeltAs : Json → List Char → Prop
  | scalar value, text => value.SpeltAs text
  | list items, text => ∃ inside, ItemsSpeltAs true items inside ∧ text = '[' :: inside
  | object members, text => ∃ inside, MembersSpeltAs true members inside ∧ text = '\x7b' :: inside

/-- The spellings of the items of a list, or of those after the `first`, up to the closing bracket. -/
def ItemsSpeltAs (first : Bool) : List Json → List Char → Prop
  | [], text => ∃ blanks, AreBlanks blanks ∧ text = blanks ++ [']']
  | item :: items, text => ∃ separator a b, IsSeparator first separator ∧ item.SpeltAs a ∧
      ItemsSpeltAs false items b ∧ text = separator ++ (a ++ b)

/-- The spellings of the members of an object, or of those after the `first`, up to the closing
brace. -/
def MembersSpeltAs (first : Bool) : List (String × Json) → List Char → Prop
  | [], text => ∃ blanks, AreBlanks blanks ∧ text = blanks ++ ['\x7d']
  | (key, value) :: members, text => ∃ separator name before after a b,
      IsSeparator first separator ∧ Text.SpeltAs key name ∧ AreBlanks before ∧ AreBlanks after ∧
      value.SpeltAs a ∧ MembersSpeltAs false members b ∧
      text = separator ++ (name ++ (before ++ ':' :: (after ++ (a ++ b))))
end

mutual
/-- How deeply lists and objects are nested in a value. -/
def depth : Json → Nat
  | scalar _ => 0
  | list items => itemsDepth items + 1
  | object members => membersDepth members + 1

def itemsDepth : List Json → Nat
  | [] => 0
  | item :: items => max item.depth (itemsDepth items)

def membersDepth : List (String × Json) → Nat
  | [] => 0
  | (_, value) :: members => max value.depth (membersDepth members)
end

theorem membersDepth_append (front back : List (String × Json)) :
    membersDepth (front ++ back) = max (membersDepth front) (membersDepth back) := by
  induction front with
  | nil => simp [membersDepth]
  | cons member front ih =>
    obtain ⟨key, value⟩ := member
    rw [List.cons_append, membersDepth, membersDepth, ih, Nat.max_assoc]

theorem depth_le_membersDepth {members : List (String × Json)} {member : String × Json}
    (h : member ∈ members) : member.2.depth ≤ membersDepth members := by
  induction members with
  | nil => cases h
  | cons first members ih =>
    rw [membersDepth]
    rcases List.mem_cons.mp h with rfl | h
    · exact Nat.le_max_left _ _
    · exact Nat.le_trans (ih h) (Nat.le_max_right _ _)

theorem depth_le_itemsDepth {value : Json} {items : List Json} (h : value ∈ items) :
    value.depth ≤ itemsDepth items := by
  induction items with
  | nil => cases h
  | cons first items ih =>
    rw [itemsDepth]
    rcases List.mem_cons.mp h with rfl | h
    · exact Nat.le_max_left _ _
    · exact Nat.le_trans (ih h) (Nat.le_max_right _ _)

/-- A whole text has the value: blanks may stand around it. -/
def HasText (json : Json) (text : String) : Prop :=
  ∃ before value after, AreBlanks before ∧ json.SpeltAs value ∧ AreBlanks after ∧
    text.toList = before ++ (value ++ after)

/-! ## Without blanks -/

theorem areBlanks_nil : AreBlanks [] := fun _ h => by cases h

/-- A string without escapes. -/
theorem Text.speltAs_quoted {s : String} (h : ∀ c ∈ s.toList, 0x20 ≤ c.toNat ∧ c ≠ '"' ∧ c ≠ '\\') :
    Text.SpeltAs s ('"' :: s.toList ++ ['"']) :=
  ⟨_, .raw h, rfl⟩

section Compact

variable {item value : Json} {items : List Json} {members : List (String × Json)} {key : String}
  {name text more : List Char}

theorem itemsSpeltAs_end (first : Bool) : ItemsSpeltAs first [] [']'] := by
  rw [ItemsSpeltAs]
  exact ⟨[], areBlanks_nil, rfl⟩

theorem itemsSpeltAs_first (h : item.SpeltAs text) (hm : ItemsSpeltAs false items more) :
    ItemsSpeltAs true (item :: items) (text ++ more) := by
  rw [ItemsSpeltAs]
  exact ⟨[], text, more, areBlanks_nil, h, hm, rfl⟩

theorem itemsSpeltAs_further (h : item.SpeltAs text) (hm : ItemsSpeltAs false items more) :
    ItemsSpeltAs false (item :: items) (',' :: (text ++ more)) := by
  rw [ItemsSpeltAs]
  exact ⟨[','], text, more, ⟨[], [], areBlanks_nil, areBlanks_nil, rfl⟩, h, hm, rfl⟩

theorem list_speltAs (h : ItemsSpeltAs true items text) : SpeltAs (.list items) ('[' :: text) := by
  rw [SpeltAs]
  exact ⟨text, h, rfl⟩

theorem object_speltAs_one (hn : Text.SpeltAs key name) (h : value.SpeltAs text) :
    SpeltAs (.object [(key, value)]) ('\x7b' :: (name ++ ':' :: (text ++ ['\x7d']))) := by
  rw [SpeltAs]
  refine ⟨_, ?_, rfl⟩
  rw [MembersSpeltAs]
  refine ⟨[], name, [], [], text, ['\x7d'], areBlanks_nil, hn, areBlanks_nil, areBlanks_nil, h, ?_, rfl⟩
  rw [MembersSpeltAs]
  exact ⟨[], areBlanks_nil, rfl⟩

theorem SpeltAs.hasText (h : value.SpeltAs text) : value.HasText (String.ofList text) :=
  ⟨[], text, [], areBlanks_nil, h, areBlanks_nil, by simp⟩

end Compact

end Json
end JsWriter
