import FeltLowering.Power
import FeltLowering.Text

/-
Binary floating point with 53 significant bits.

Only finite values far from the ends of the exponent range occur here (durations and
quotients of small counts), so the exponent is unbounded.  Every operation is the
exact one followed by one rounding to the nearest value, a tie going to the even
mantissa.
-/
namespace FeltLowering

/-- The number `mantissa * 2 ^ exponent`. -/
structure Binary64 where
  mantissa : Int
  exponent : Int
  deriving DecidableEq, Repr

/-- The integer nearest to `num / den`, a tie going to the even one. -/
def roundDiv (num : Nat) (den : Nat) : Nat :=
  let q := num / den
  let r := num % den
  if 2 * r < den then q
  else if 2 * r > den then q + 1
  else if q % 2 = 0 then q else q + 1

namespace Binary64

def zero : Binary64 := ⟨0, 0⟩

def roundPositive (num den : Nat) : Binary64 :=
  let guess : Int := (num.log2 : Int) - den.log2 - 52
  let scaled (e : Int) : Nat × Nat :=
    if 0 ≤ e then (num, den * twoPow e.toNat) else (num * twoPow (-e).toNat, den)
  let e := if (scaled guess).1 < (scaled guess).2 * twoPow 52 then guess - 1 else guess
  ⟨roundDiv (scaled e).1 (scaled e).2, e⟩

/-- The nearest value to `num / den`. -/
def ofFraction (num : Int) (den : Nat) : Binary64 :=
  match num with
  | .ofNat 0 => zero
  | .ofNat n => roundPositive n den
  | .negSucc n =>
    let v := roundPositive (n + 1) den
    ⟨-v.mantissa, v.exponent⟩

def ofInt (n : Int) : Binary64 := ofFraction n 1

def toFraction (x : Binary64) : Int × Nat :=
  if 0 ≤ x.exponent then (x.mantissa * twoPow x.exponent.toNat, 1)
  else (x.mantissa, twoPow (-x.exponent).toNat)

def add (x y : Binary64) : Binary64 :=
  let (a, b) := x.toFraction
  let (c, d) := y.toFraction
  ofFraction (a * d + c * b) (b * d)

def divNat (x : Binary64) (n : Nat) : Binary64 :=
  let (a, b) := x.toFraction
  ofFraction a (b * n)

def le (x y : Binary64) : Bool :=
  let (a, b) := x.toFraction
  let (c, d) := y.toFraction
  a * d ≤ c * b

/-- The value with a fixed number of decimal places, the exact value rounded to the
nearest and a tie to the even digit.  A negative value keeps its sign even when only
zeros are left. -/
def toFixed (places : Nat) (x : Binary64) : Text :=
  let (a, b) := x.toFraction
  let digits := Text.ofNat (roundDiv (a.natAbs * tenPow places) b)
  let padded := Text.fill (places + 1 - digits.length) 0x30 ++ digits
  let whole := padded.take (padded.length - places)
  let part := padded.drop (padded.length - places)
  (if a < 0 then [0x2D] else []) ++ whole ++ (if places = 0 then [] else 0x2E :: part)

end Binary64
end FeltLowering
