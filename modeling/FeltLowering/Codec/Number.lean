import FeltLowering.Binary64
import FeltLowering.Decimal

/-
Numbers as data formats write them: integers in several bases, and decimal fractions.
-/
namespace FeltLowering
namespace Number

inductive Floating where
  | finite (x : Binary64)
  | infinite (negative : Bool)
  | notANumber
  deriving DecidableEq, Repr

/-! ## Integers -/

def digitsValue? (base : Nat) (ds : Text) : Option Nat :=
  ds.foldlM (fun n d => do
    let v ← Text.hexValue? d
    if v < base then some (n * base + v) else none) 0

/-- The base that the start of a number shows, and its digits.  A zero in front of other
digits shows base eight. -/
def baseAndDigits : Text → Nat × Text
  | 0x30 :: mark :: d :: ds =>
    if mark = 0x62 || mark = 0x42 then (2, d :: ds)
    else if mark = 0x6F || mark = 0x4F then (8, d :: ds)
    else if mark = 0x78 || mark = 0x58 then (16, d :: ds)
    else (8, mark :: d :: ds)
  | 0x30 :: ds => (8, ds)
  | ds => (10, ds)

def natural? (t : Text) : Option Nat :=
  if t.isEmpty then none else digitsValue? (baseAndDigits t).1 (baseAndDigits t).2

/-- A number with an optional sign, whose digits `read` reads. -/
def signed? (read : Text → Option Nat) : Text → Option Int
  | 0x2D :: ds => (read ds).map fun n => -(n : Int)
  | 0x2B :: ds => (read ds).map Int.ofNat
  | ds => (read ds).map Int.ofNat

def digits? (base : Nat) (t : Text) : Option Nat := if t.isEmpty then none else digitsValue? base t

def fitsInt64 (n : Int) : Bool := -(twoPow 63 : Int) ≤ n && n < twoPow 63

/-- An integer of 64 bits, signed, or unsigned if it is written without a sign. -/
def integer? (signed unsigned : Text → Option Nat) (t : Text) : Option Int :=
  ((signed? signed t).filter fitsInt64).or
    (((unsigned t).filter (· < twoPow 64)).map Int.ofNat)

/-- An integer behind a base mark that the sign follows. -/
def markedInteger? (base : Nat) (mark : UInt8) (t : Text) : Option Int :=
  match t with
  | 0x30 :: m :: ds => if m = mark then integer? (digits? base) (digits? base) ds else none
  | 0x2D :: 0x30 :: m :: ds =>
    if m = mark then (signed? (digits? base) (0x2D :: ds)).filter fitsInt64 else none
  | _ => none

/-! ## Floating point -/

/-- The value of decimal digits times a power of ten; one beyond the finite values is
none. -/
def scaled? (negative : Bool) (digits : Nat) (exponent : Int) : Option Floating :=
  let length : Int := (Nat.toDigits 10 digits).length
  let sign (n : Nat) : Int := if negative then -(n : Int) else n
  if digits = 0 || length + exponent < -400 then some (.finite .zero)
  else if 400 < length + exponent then none
  else
    let x :=
      if 0 ≤ exponent then Binary64.ofFraction (sign (digits * tenPow exponent.toNat)) 1
      else Binary64.ofFraction (sign digits) (tenPow (-exponent).toNat)
    if x.toFraction.1.natAbs < twoPow 1024 * x.toFraction.2 then some (.finite x) else none

def exponent? : Text → Option Int
  | [] => some 0
  | mark :: t =>
    if mark = 0x65 || mark = 0x45 then
      signed? (fun ds => if ds.isEmpty || !ds.all Text.isDigit then none else some (Decimal.ofDigits 0 ds)) t
    else none

/-- The whole digits, the digits behind the point and the rest of a number. -/
def splitPoint (t : Text) : Text × Text × Text :=
  let whole := t.takeWhile Text.isDigit
  match t.dropWhile Text.isDigit with
  | 0x2E :: rest => (whole, rest.takeWhile Text.isDigit, rest.dropWhile Text.isDigit)
  | rest => (whole, [], rest)

def real? (t : Text) : Option Floating := do
  let negative := t.head? = some 0x2D
  let unsigned := if negative || t.head? = some 0x2B then t.tail else t
  let (whole, part, rest) := splitPoint unsigned
  if whole.isEmpty && part.isEmpty then none
  else
    let e ← exponent? rest
    scaled? negative (Decimal.ofDigits 0 (whole ++ part)) (e - part.length)

/-- Whether every underscore stands between two digits. -/
def underscoresFit : (before : Bool) → Text → Bool
  | _, [] => true
  | before, b :: rest =>
    if b = 0x5F then before && (rest.head?.any Text.isDigit) && underscoresFit false rest
    else underscoresFit (Text.isDigit b) rest

def withoutUnderscores (t : Text) : Text := t.filter (· != 0x5F)

/-- The number that a floating-point number gives as an unsigned 64-bit integer.  The
fraction is cut off, a number below zero counts back from the end of the range, and one
too low for that gives the middle of the range. -/
def Floating.toWord? : Floating → Option UInt64
  | .notANumber => none
  | .infinite negative => if negative then some 0x8000000000000000 else none
  | .finite x =>
    let n := x.toFraction.1.tdiv x.toFraction.2
    if x.le ⟨1, 64⟩ then
      if n < -(twoPow 63 : Int) then some 0x8000000000000000
      else some (UInt64.ofNat (n % twoPow 64).toNat)
    else none

end Number
end FeltLowering
