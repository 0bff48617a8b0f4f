import FeltLowering.Text

/-
Types of the intermediate representation.

The code computes on integers of fixed width only.  Every other type is known by its
text, which is all that is ever asked of it.
-/
namespace FeltLowering
namespace Ir

inductive Ty where
  | int (width : Nat)
  | other (text : Text)
  deriving DecidableEq, Repr

namespace Ty

def text : Ty → Text
  | .int w => "i" ++ Text.ofNat w
  | .other t => t

def width? : Ty → Option Nat
  | .int w => some w
  | .other _ => none

def size (t : Ty) : Nat := t.width?.getD 0

def functionText (result : Ty) (params : List Ty) : Text :=
  result.text ++ " (" ++ Text.join ", " (params.map text) ++ ")"

end Ty
end Ir
end FeltLowering
