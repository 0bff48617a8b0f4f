import FeltLowering.Text.Utf8

/-
White space.

The characters with the White_Space property of Unicode, and trimming a text at
both ends of them.
-/
namespace FeltLowering
namespace Text

def isBlank (c : Nat) : Bool :=
  (0x09 ≤ c && c ≤ 0x0D) || c = 0x20 || c = 0x85 || c = 0xA0 || c = 0x1680 ||
    (0x2000 ≤ c && c ≤ 0x200A) || c = 0x2028 || c = 0x2029 || c = 0x202F || c = 0x205F || c = 0x3000

def Piece.isBlank : Piece → Bool
  | .scalar c => Text.isBlank c.toNat
  | .stray _ => false

def trim (t : Text) : Text :=
  (((t.pieces.dropWhile Piece.isBlank).reverse.dropWhile Piece.isBlank).reverse).flatMap Piece.bytes

def isBlankText (t : Text) : Bool := t.trim.isEmpty

end Text
end FeltLowering
