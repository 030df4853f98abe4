import JsWriter.Json.Basic
import JsWriter.Number.Decimal

/-!
# Numbers of a JSON text

A numeral is the spelling of a number: sign, whole part, fraction and exponent. `Numeral.read` takes
one off the front of a text, `Numeral.number?` says which number it is. A whole numeral of at most 64
bits is an integer. Any other gives a floating-point number: its digits make a significand as long as
that fits into 64 bits, later digits only move the point, and the significand is scaled by the power
of ten. Where that is infinite there is no number.
-/
namespace JsWriter

/-- The spelling of a number. An absent fraction is empty. -/
structure Numeral where
  negative : Bool
  whole : List Char
  fraction : List Char
  exponent : Option (Bool × List Char)
  deriving DecidableEq, Repr

namespace Numeral

/-- Exponents are 32-bit integers: the largest one. -/
def exponentLimit : Nat := Nat.pow 2 31 - 1

/-- Significands are below this bound. -/
def significandLimit : Nat := Nat.pow 2 64

/-! ## Reading -/

/-- The digits at the front of a text, and the rest. -/
def span (s : List Char) : List Char × List Char :=
  (s.takeWhile Char.isDigit, s.dropWhile Char.isDigit)

/-- At least one digit. `atEnd` is the cause to report when the text ends instead. -/
def digits (atEnd : Cause) (s : List Char) : Except Fault (List Char × List Char) :=
  match s with
  | [] => Fault.here atEnd []
  | c :: _ => if c.isDigit then .ok (span s) else Fault.next .badNumber s

/-- The whole part: a zero, or digits that don't begin with one. -/
def readWhole (atEnd : Cause) (s : List Char) : Except Fault (List Char × List Char) :=
  match s with
  | '0' :: c :: r => if c.isDigit then Fault.next .badNumber (c :: r) else .ok (['0'], c :: r)
  | s => digits atEnd s

/-- A point with digits, if a point comes next. -/
def readFraction (atEnd : Cause) (s : List Char) : Except Fault (List Char × List Char) :=
  match s with
  | '.' :: r => digits atEnd r
  | s => .ok ([], s)

/-- The digits of an exponent after its sign, if it has one: whether it is negative comes with
them. -/
def readPower (atEnd : Cause) (s : List Char) : Except Fault ((Bool × List Char) × List Char) :=
  match s with
  | '-' :: r => (digits atEnd r).map fun (ds, r) => ((true, ds), r)
  | '+' :: r => (digits atEnd r).map fun (ds, r) => ((false, ds), r)
  | s => (digits atEnd s).map fun (ds, r) => ((false, ds), r)

def readExponent (atEnd : Cause) (s : List Char) :
    Except Fault (Option (Bool × List Char) × List Char) :=
  match s with
  | 'e' :: r => (readPower atEnd r).map fun (e, r) => (some e, r)
  | 'E' :: r => (readPower atEnd r).map fun (e, r) => (some e, r)
  | s => .ok (none, s)

def readUnsigned (atEnd : Cause) (negative : Bool) (s : List Char) :
    Except Fault (Numeral × List Char) := do
  let (whole, s) ← readWhole atEnd s
  let (fraction, s) ← readFraction atEnd s
  let (exponent, s) ← readExponent atEnd s
  .ok (⟨negative, whole, fraction, exponent⟩, s)

/-- The numeral at the front of a text that begins with a digit or a minus sign. -/
def read (atEnd : Cause) (s : List Char) : Except Fault (Numeral × List Char) :=
  match s with
  | '-' :: r => readUnsigned atEnd true r
  | s => readUnsigned atEnd false s

/-! ### Every numeral takes something -/

theorem span_length (s : List Char) : (span s).2.length ≤ s.length :=
  (List.dropWhile_sublist Char.isDigit).length_le

theorem digits_length {atEnd : Cause} {s ds r : List Char} (h : digits atEnd s = .ok (ds, r)) :
    r.length < s.length := by
  unfold digits at h
  split at h
  · cases h
  · split at h
    · rename_i c t hc
      simp only [span, Except.ok.injEq, Prod.mk.injEq, List.dropWhile_cons_of_pos hc] at h
      obtain ⟨_, rfl⟩ := h
      have := span_length t
      simp only [span] at this
      simp only [List.length_cons]; omega
    · cases h

theorem readWhole_length {atEnd : Cause} {s ds r : List Char}
    (h : readWhole atEnd s = .ok (ds, r)) : r.length < s.length := by
  unfold readWhole at h
  split at h
  · split at h <;> cases h
    simp
  · exact digits_length h

theorem readFraction_length {atEnd : Cause} {s ds r : List Char}
    (h : readFraction atEnd s = .ok (ds, r)) : r.length ≤ s.length := by
  unfold readFraction at h
  split at h
  · have := digits_length h; simp only [List.length_cons]; omega
  · cases h; exact Nat.le_refl _

theorem readPower_length {atEnd : Cause} {s r : List Char} {e : Bool × List Char}
    (h : readPower atEnd s = .ok (e, r)) : r.length < s.length := by
  have key : ∀ {t : List Char} {b : Bool},
      (digits atEnd t).map (fun (ds, r) => ((b, ds), r)) = .ok (e, r) → r.length < t.length := by
    intro t b h
    cases h' : digits atEnd t with
    | error f => simp [h', Except.map] at h
    | ok p =>
      have := digits_length (r := p.2) h'
      simp only [h', Except.map] at h
      cases h; exact this
  unfold readPower at h
  split at h
  · have := key h; simp only [List.length_cons]; omega
  · have := key h; simp only [List.length_cons]; omega
  · exact key h

theorem readExponent_length {atEnd : Cause} {s r : List Char} {e : Option (Bool × List Char)}
    (h : readExponent atEnd s = .ok (e, r)) : r.length ≤ s.length := by
  have key : ∀ {t : List Char},
      (readPower atEnd t).map (fun (e, r) => (some e, r)) = .ok (e, r) → r.length < t.length := by
    intro t h
    cases h' : readPower atEnd t with
    | error f => simp [h', Except.map] at h
    | ok p =>
      have := readPower_length (e := p.1) (r := p.2) h'
      simp only [h', Except.map] at h
      cases h; exact this
  unfold readExponent at h
  split at h
  · have := key h; simp only [List.length_cons]; omega
  · have := key h; simp only [List.length_cons]; omega
  · cases h; exact Nat.le_refl _

theorem readUnsigned_length {atEnd : Cause} {negative : Bool} {s r : List Char} {n : Numeral}
    (h : readUnsigned atEnd negative s = .ok (n, r)) : r.length < s.length := by
  unfold readUnsigned at h
  cases hw : readWhole atEnd s with
  | error f => simp [hw, bind, Except.bind] at h
  | ok w =>
    have lw := readWhole_length (r := w.2) hw
    cases hf : readFraction atEnd w.2 with
    | error f => simp [hw, hf, bind, Except.bind] at h
    | ok f =>
      have lf := readFraction_length (r := f.2) hf
      cases he : readExponent atEnd f.2 with
      | error f => simp [hw, hf, he, bind, Except.bind] at h
      | ok e =>
        have le := readExponent_length (e := e.1) (r := e.2) he
        simp only [hw, hf, he, bind, Except.bind, Except.ok.injEq, Prod.mk.injEq] at h
        obtain ⟨_, rfl⟩ := h
        omega

theorem read_length {atEnd : Cause} {s r : List Char} {n : Numeral}
    (h : read atEnd s = .ok (n, r)) : r.length < s.length := by
  unfold read at h
  split at h
  · have := readUnsigned_length h; simp only [List.length_cons]; omega
  · exact readUnsigned_length h

/-! ## Value -/

/-- A significand with the power of ten that its digits leave over. -/
structure Scaled where
  significand : Nat
  exponent : Int
  deriving DecidableEq, Repr

/-- A significand continued by a digit, if it stays below the bound. -/
def push? (significand : Nat) (digit : Char) : Option Nat :=
  let longer := significand * 10 + (digit.toNat - '0'.toNat)
  if longer < significandLimit then some longer else none

/-- The significand of the whole part: from the first digit that doesn't fit on, digits count only as
places. -/
def scaleWhole (significand : Nat) : (digits : List Char) → Scaled
  | [] => ⟨significand, 0⟩
  | d :: ds =>
    match push? significand d with
    | some longer => scaleWhole longer ds
    | none => ⟨significand, (d :: ds).length⟩

/-- The significand continued by the digits of the fraction: those from the first that doesn't fit
on are dropped. -/
def scaleFraction (start : Scaled) : (digits : List Char) → Scaled
  | [] => start
  | d :: ds =>
    match push? start.significand d with
    | some longer => scaleFraction ⟨longer, start.exponent - 1⟩ ds
    | none => start

/-- The digits as a significand and a power of ten, before the exponent is counted. -/
def scaled (n : Numeral) : Scaled :=
  scaleFraction (scaleWhole 0 n.whole) n.fraction

/-- The digits of an exponent that come after the one with which it passes its limit. -/
def excess (value : Nat) : (digits : List Char) → Option (List Char)
  | [] => none
  | d :: ds =>
    let larger := value * 10 + (d.toNat - '0'.toNat)
    if exponentLimit < larger then some ds else excess larger ds

/-- The magnitude with its exponent. An exponent beyond the limit makes zero when it is negative or
the significand is zero; otherwise there is no number, and the exponent's digits that were not
needed to see that are given. -/
def magnitude (n : Numeral) : Except (List Char) Nat :=
  let start := n.scaled
  let finite (exponent : Int) : Except (List Char) Nat :=
    match Binary64.ofScaled? start.significand exponent with
    | some units => .ok units
    | none => .error []
  match n.exponent with
  | none => finite start.exponent
  | some (negative, digits) =>
    match excess 0 digits with
    | some unneeded =>
      if negative ∨ start.significand = 0 then .ok 0 else .error unneeded
    | none =>
      let power : Int := Decimal.ofDigits digits
      finite (if negative then start.exponent - power else start.exponent + power)

/-- The integer that a numeral is, if it has neither fraction nor exponent and fits into 64 bits.
A minus sign before a zero makes it a floating-point number. -/
def int? (n : Numeral) : Option Int :=
  let value := Decimal.ofDigits n.whole
  if n.fraction ≠ [] ∨ n.exponent ≠ none then none
  else if n.negative then
    if 0 < value ∧ value ≤ Nat.pow 2 63 then some (-(value : Int)) else none
  else if value < significandLimit then some value
  else none

def number (n : Numeral) : Except (List Char) Number :=
  match n.int? with
  | some value => .ok (.int value)
  | none => n.magnitude.map fun units => .float (.finite n.negative units)

end Numeral

/-- Reads a number. One out of range is noticed behind its last digit that was needed. -/
def Number.read (s : List Char) : Except Fault (Number × List Char) := do
  let (n, r) ← Numeral.read .endInValue s
  match n.number with
  | .ok number => .ok (number, r)
  | .error unneeded => Fault.here .numberOutOfRange (unneeded ++ r)

theorem Number.read_length {s r : List Char} {n : Number} (h : Number.read s = .ok (n, r)) :
    r.length < s.length := by
  unfold Number.read at h
  cases hn : Numeral.read .endInValue s with
  | error f => simp [hn, bind, Except.bind] at h
  | ok p =>
    have := Numeral.read_length (n := p.1) (r := p.2) hn
    simp only [hn, bind, Except.bind] at h
    split at h
    · simp only [Except.ok.injEq, Prod.mk.injEq] at h
      obtain ⟨_, rfl⟩ := h
      exact this
    · cases h

end JsWriter
