import FeltLowering.Text.Utf8

/-
Lower case for comparison with ASCII words.

Keywords and file extensions are compared in lower case.  Besides the ASCII capitals
two further characters have an ASCII letter as their lower case, the Kelvin sign and
the dotted capital I; every other character is kept, which decides no comparison with
an ASCII word.
-/
namespace FeltLowering
namespace Text

def Piece.lower : Piece → Text
  | .stray b => [b]
  | .scalar c =>
    if c.toNat = 0x212A then ofString "k"
    else if c.toNat = 0x130 then ofString "i"
    else ofChar c.toLower

/-- The text with every character that has an ASCII lower case replaced by it. -/
def lower (t : Text) : Text := t.pieces.flatMap Piece.lower

end Text
end FeltLowering
