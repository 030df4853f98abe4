import JsWriter.Number.Binary64

/-!
# Decimal forms of binary numbers

A decimal is a whole number of powers of ten. `Decimal.shortest` finds the decimal with the fewest
digits that rounds to a given magnitude, and of those the nearest; where two are equally near, the
caller says which one. `Decimal.ofText?` reads a decimal, `Binary64.ofText?` the number nearest to it.
-/
namespace JsWriter

/-- The number `digits * 10 ^ exponent`. -/
structure Decimal where
  digits : Nat
  exponent : Int
  deriving DecidableEq, Repr, Inhabited

/-- Which of two equally near decimals is taken. -/
inductive Tie where
  | up
  | even
  deriving DecidableEq, Repr

namespace Decimal

/-- The numerator and the denominator of `10 ^ exponent`. -/
def powerRatio : (exponent : Int) → Nat × Nat
  | .ofNat e => (Nat.pow 10 e, 1)
  | .negSucc e => (1, Nat.pow 10 (e + 1))

/-- Every positive magnitude is at least `10 ^ (-reach)`. -/
def reach : Nat := 324

/-- The exponent of the leading decimal digit of a positive magnitude: its product by `10 ^ reach`
has digits before the point, and they tell. -/
def leadingExponent (units : Nat) : Int :=
  ((Nat.toDigits 10 (units * Nat.pow 10 reach / Binary64.one)).length : Int) - 1 - reach

/-- The decimals that round to a magnitude: those between its neighbours' midpoints, which belong to
it when its last bit is even. A magnitude just above a power of two has its lower neighbour at half
the step. Both ends are given in quarters of a unit. -/
def roundsTo (units : Nat) (d : Decimal) : Bool :=
  let step := Nat.pow 2 (Binary64.stepBits units)
  let below := if units = Nat.pow 2 52 * step ∧ 1 < step then step else 2 * step
  let low := 4 * units - below
  let high := 4 * units + 2 * step
  let (num, den) := powerRatio d.exponent
  let at4 := d.digits * num * (4 * Binary64.one)
  if units / step % 2 = 0 then decide (low * den ≤ at4 ∧ at4 ≤ high * den)
  else decide (low * den < at4 ∧ at4 < high * den)

/-- The nearer of the two neighbours of a magnitude on the grid of `10 ^ exponent`, when it rounds to
that magnitude; else the other one, when that does. -/
def onGrid? (tie : Tie) (units : Nat) (exponent : Int) : Option Decimal :=
  let (num, den) := powerRatio exponent
  let below := units * den / (num * Binary64.one)
  let twice := 2 * (units * den)
  let middle := (2 * below + 1) * (num * Binary64.one)
  let nearerAbove :=
    match tie with
    | .up => decide (middle ≤ twice)
    | .even => decide (middle < twice) || (decide (middle = twice) && decide (below % 2 = 1))
  let candidates :=
    if nearerAbove then [below + 1, below] else [below, below + 1]
  (candidates.map fun digits => (⟨digits, exponent⟩ : Decimal)).find? (roundsTo units)

/-- The decimal with the fewest digits that rounds to a positive magnitude, nearest first. Seventeen
digits always suffice. -/
def shortest (tie : Tie) (units : Nat) : Decimal :=
  let lead := leadingExponent units
  ((List.range 17).findSome? fun n : Nat => onGrid? tie units (lead - n)).getD ⟨0, 0⟩

/-- The digits of a number as text, without the zeros at its end, and how many those were. -/
def trimmed (digits : Nat) : List Char × Nat :=
  let reversed := (Nat.toDigits 10 digits).reverse
  ((reversed.dropWhile (· = '0')).reverse, (reversed.takeWhile (· = '0')).length)

end Decimal

/-! ## Layouts -/

/-- How a finite number is written: which leading exponents are written without an exponent (all of
them when no range is given), whether a whole number so written keeps a `.0`, and how ties go. -/
structure FloatLayout where
  positional : Option (Int × Int)
  wholeMark : Bool
  tie : Tie

namespace FloatLayout

/-- Decimal digits with the point put `places` digits after the first one's left. -/
def placePoint (wholeMark : Bool) (digits : List Char) (places : Int) : List Char :=
  if places ≤ 0 then '0' :: '.' :: (List.replicate places.natAbs '0' ++ digits)
  else
    let whole := digits.take places.toNat
    let fraction := digits.drop places.toNat
    let padded := whole ++ List.replicate (places.toNat - whole.length) '0'
    if fraction = [] then (if wholeMark then padded ++ ['.', '0'] else padded)
    else padded ++ '.' :: fraction

/-- One digit before the point, the others behind it, and the exponent with its sign. -/
def scientific (digits : List Char) (lead : Int) : List Char :=
  let mantissa :=
    match digits with
    | [] => []
    | [d] => [d]
    | d :: ds => d :: '.' :: ds
  mantissa ++ 'e' :: (if lead < 0 then '-' else '+') :: Nat.toDigits 10 lead.natAbs

def magnitude (layout : FloatLayout) (units : Nat) : List Char :=
  if units = 0 then (if layout.wholeMark then ['0', '.', '0'] else ['0'])
  else
    let d := Decimal.shortest layout.tie units
    let (digits, zeros) := Decimal.trimmed d.digits
    let lead := d.exponent + zeros + digits.length - 1
    let plain :=
      match layout.positional with
      | none => true
      | some (lowest, highest) => decide (lowest ≤ lead ∧ lead ≤ highest)
    if plain then placePoint layout.wholeMark digits (lead + 1) else scientific digits lead

def text (layout : FloatLayout) : Binary64 → String
  | .finite negative units =>
    String.ofList ((if negative then ['-'] else []) ++ layout.magnitude units)
  | .infinite negative => if negative then "-inf" else "inf"
  | .nan => "NaN"

end FloatLayout

/-! ## Reading -/

namespace Decimal

def ofDigits (digits : List Char) : Nat :=
  digits.foldl (fun n c => n * 10 + (c.toNat - '0'.toNat)) 0

/-- An exponent with an optional sign: at least one digit and nothing else. -/
def exponentOfText? : List Char → Option Int
  | '-' :: cs => (digitsOnly? cs).map fun n => -(n : Int)
  | '+' :: cs => (digitsOnly? cs).map fun n => (n : Int)
  | cs => (digitsOnly? cs).map fun n => (n : Int)
where
  digitsOnly? (cs : List Char) : Option Nat :=
    if cs ≠ [] ∧ cs.all Char.isDigit then some (ofDigits cs) else none

/-- Digits with an optional point and an optional exponent; at least one digit. -/
def ofText? (cs : List Char) : Option Decimal :=
  let whole := cs.takeWhile Char.isDigit
  let afterWhole := cs.dropWhile Char.isDigit
  let (fraction, rest) :=
    match afterWhole with
    | '.' :: r => (r.takeWhile Char.isDigit, r.dropWhile Char.isDigit)
    | r => ([], r)
  let digits := whole ++ fraction
  if digits = [] then none
  else
    let exponent :=
      match rest with
      | [] => some 0
      | 'e' :: r => exponentOfText? r
      | 'E' :: r => exponentOfText? r
      | _ => none
    exponent.map fun e => ⟨ofDigits digits, e - fraction.length⟩

end Decimal

namespace Binary64

/-- The number nearest to a decimal that may have a sign; `inf`, `infinity` and `nan` in any case
are read too. -/
def ofText? (text : String) : Option Binary64 :=
  let unsigned (negative : Bool) (cs : List Char) : Option Binary64 :=
    let word := cs.map Char.toLower
    if word = "inf".toList ∨ word = "infinity".toList then some (.infinite negative)
    else if word = "nan".toList then some .nan
    else (Decimal.ofText? cs).map fun d =>
      match ofDecimal? d.digits d.exponent with
      | some units => .finite negative units
      | none => .infinite negative
  match text.toList with
  | '-' :: cs => unsigned true cs
  | '+' :: cs => unsigned false cs
  | cs => unsigned false cs

end Binary64
end JsWriter
