import FeltLowering.Power
import FeltLowering.Text

/-
Signed decimal literals.

A literal is an optional single sign followed by one or more ASCII digits.
-/
namespace FeltLowering
namespace Decimal

/-- The number a list of digits stands for, read after the digits of `acc`. -/
def ofDigits (acc : Nat) (ds : Text) : Nat := ds.foldl (fun n d => n * 10 + Text.digitValue d) acc

def parseNat? (t : Text) : Option Nat :=
  if t.isEmpty || !t.all Text.isDigit then none else some (ofDigits 0 t)

def parse? (t : Text) : Option Int :=
  match t with
  | 0x2D :: ds => (parseNat? ds).map fun n => -(n : Int)
  | 0x2B :: ds => (parseNat? ds).map fun n => (n : Int)
  | ds => (parseNat? ds).map fun n => (n : Int)

def parseInt64? (t : Text) : Option Int := do
  let v ← parse? t
  if -(twoPow 63 : Int) ≤ v && v < twoPow 63 then some v else none

end Decimal
end FeltLowering
