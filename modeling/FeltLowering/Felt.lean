import FeltLowering.Decimal
import FeltLowering.Text.Quoted

/-
The prime field of the STARK curve.

Field elements are kept as canonical representatives.  The two bit widths belong to
the lowered code: at `width` the difference of two canonical elements is exact as a
signed number, and at `wideWidth` their product is.
-/
namespace FeltLowering
namespace Felt

def prime : Nat := twoPow 251 + 17 * twoPow 192 + 1

/-- One bit more than the modulus has. -/
def width : Nat := 253

/-- The width values are sign-extended to before they are reduced. -/
def wideWidth : Nat := 506

theorem prime_pos : 0 < prime := by decide

end Felt

/-- A field element: its representative in `[0, prime)`. -/
structure Felt where
  val : Nat
  val_lt : val < Felt.prime
  deriving DecidableEq

namespace Felt

def ofInt (v : Int) : Felt where
  val := (v % (prime : Int)).toNat
  val_lt := by
    have h : (0 : Int) < prime := by exact_mod_cast prime_pos
    have := Int.emod_lt_of_pos v h
    have := Int.emod_nonneg v (Int.ne_of_gt h)
    omega

def toInt (x : Felt) : Int := x.val

def add (x y : Felt) : Felt := ofInt (x.toInt + y.toInt)

def sub (x y : Felt) : Felt := ofInt (x.toInt - y.toInt)

def mul (x y : Felt) : Felt := ofInt (x.toInt * y.toInt)

instance : Add Felt := ⟨add⟩

instance : Sub Felt := ⟨sub⟩

instance : Mul Felt := ⟨mul⟩

def text (x : Felt) : Text := Text.ofNat x.val

def ofDecimal? (lit : Text) : Option Felt := (Decimal.parse? lit).map ofInt

def literalMessage (lit : Text) : Text := "invalid decimal literal " ++ lit.quoted

end Felt
end FeltLowering
