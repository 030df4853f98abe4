/-!
# Binary floating-point numbers of double precision (IEEE 754 binary64)

A finite magnitude is a whole number of the least positive one, `2 ^ -1074`: it has at most 53
significant bits, so that between two magnitudes of one exponent lies a fixed step. Arithmetic is
done exactly on natural numbers and rounded once, to the nearest magnitude, a tie going to the one
whose last bit is even. `roundRatio` is that rounding; `ofDecimal?`, `scale10?` and `ofScaled?` are
stated through it.
-/
namespace JsWriter

/-- A number of double precision: a sign with a finite magnitude in units of `2 ^ -1074`, an
infinity of either sign, or not a number. -/
inductive Binary64 where
  | finite (negative : Bool) (units : Nat)
  | infinite (negative : Bool)
  | nan
  deriving DecidableEq, Repr, Inhabited

namespace Binary64

/-- How many units make one. -/
def one : Nat := Nat.pow 2 1074

/-- The first magnitude that is too large to be finite: `2 ^ 1024`, in units. -/
def limit : Nat := Nat.pow 2 1024 * one

def bitLength (n : Nat) : Nat := if n = 0 then 0 else n.log2 + 1

/-- The step between neighbouring magnitudes at `units`, as an exponent of two. -/
def stepBits (units : Nat) : Nat := bitLength units - 53

/-- The quotient `num / den` rounded to a whole number, a half going to the even neighbour. -/
def divHalfEven (num den : Nat) : Nat :=
  let q := num / den
  let r := num % den
  if 2 * r < den then q
  else if den < 2 * r then q + 1
  else q + q % 2

/-- The magnitude nearest to `num / den` units, or nothing when that is infinite. -/
def roundRatio (num den : Nat) : Option Nat :=
  let step := Nat.pow 2 (stepBits (num / den))
  let units := divHalfEven num (den * step) * step
  if units < limit then some units else none

/-- The magnitude nearest to `significand * 10 ^ exponent`. Of a large exponent no power is taken: ten
to it is infinite if it is above 308, and no significand short of `2 ^ (3 * e - 1075)` makes more than
half a unit of ten to minus `e`. -/
def ofDecimal? (significand : Nat) (exponent : Int) : Option Nat :=
  if significand = 0 then some 0
  else
    match exponent with
    | .ofNat e => if 308 < e then none else roundRatio (significand * Nat.pow 10 e * one) 1
    | .negSucc e =>
      if bitLength significand + 1075 ≤ 3 * (e + 1) then some 0
      else roundRatio (significand * one) (Nat.pow 10 (e + 1))

/-- The nearest magnitude to `10 ^ e`, for `e ≤ 308`. -/
def power10 (e : Nat) : Nat := (ofDecimal? 1 e).getD 0

def mul? (a b : Nat) : Option Nat := roundRatio (a * b) one

def div? (a b : Nat) : Option Nat := roundRatio (a * one) b

/-- The magnitude `units` divided `times` times by the magnitude of `10 ^ 308`, each quotient rounded. -/
def shrink : (times units : Nat) → Option Nat
  | 0, units => some units
  | times + 1, units =>
    if units = 0 then some 0 else (div? units (power10 308)).bind (shrink times)

/-- The product `units * 10 ^ exponent`, by one rounded product, or by rounded quotients by powers of
ten that are themselves magnitudes; nothing when it is infinite. Zero stays zero whatever the
exponent. -/
def scale10? (units : Nat) : (exponent : Int) → Option Nat
  | .ofNat e =>
    if e ≤ 308 then mul? units (power10 e)
    else if units = 0 then some 0
    else none
  | .negSucc e =>
    (shrink (e / 308) units).bind (div? · (power10 (e % 308 + 1)))

/-- The number `significand * 10 ^ exponent` as it comes out when the significand is rounded first and then
scaled: within a few units in the last place of the nearest magnitude. -/
def ofScaled? (significand : Nat) (exponent : Int) : Option Nat :=
  (roundRatio (significand * one) 1).bind (scale10? · exponent)

example : ofScaled? 15 (-1) = some (3 * 2 ^ 1073) := by decide +kernel
example : ofScaled? 1 400 = none := by decide +kernel
example : ofScaled? 0 400 = some 0 := by decide +kernel
example : ofDecimal? 1 (-99999999999) = some 0 := by decide +kernel

end Binary64
end JsWriter
