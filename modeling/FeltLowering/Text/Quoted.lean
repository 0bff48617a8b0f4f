import FeltLowering.Text.Utf8
import FeltLowering.Text.Printable

/-
Quoted texts.

A text is shown between double quotes with everything escaped that is not
printable, so a message shows every byte of a name and stays on one line.
-/
namespace FeltLowering
namespace Text

def letterEscape? (c : Nat) : Option Text :=
  match c with
  | 0x07 => some "\\a"
  | 0x08 => some "\\b"
  | 0x0C => some "\\f"
  | 0x0A => some "\\n"
  | 0x0D => some "\\r"
  | 0x09 => some "\\t"
  | 0x0B => some "\\v"
  | 0x5C => some "\\\\"
  | 0x22 => some "\\\""
  | _ => none

def Piece.quoted : Piece → Text
  | .stray b => "\\x" ++ hexLower 2 b.toNat
  | .scalar c =>
    let n := c.toNat
    match letterEscape? n with
    | some e => e
    | none =>
      if isPrintable n then ofChar c
      else if n < 0x80 then "\\x" ++ hexLower 2 n
      else if n < 0x10000 then "\\u" ++ hexLower 4 n
      else "\\U" ++ hexLower 8 n

def quoted (t : Text) : Text := "\"" ++ t.pieces.flatMap Piece.quoted ++ "\""

/-- Whether a piece can stand between raw quotes, where nothing is escaped. -/
def Piece.isRaw : Piece → Bool
  | .stray _ => false
  | .scalar c =>
    (0x20 ≤ c.toNat || c.toNat = 0x09) && c.toNat ≠ 0x60 && c.toNat ≠ 0x7F && c.toNat ≠ 0xFEFF

/-- The text between raw quotes if it can stand there, and in double quotes otherwise. -/
def rawQuoted (t : Text) : Text :=
  if t.pieces.all Piece.isRaw then "\x60" ++ t ++ "\x60" else t.quoted

/-- A character between single quotes, where only they need an escape. -/
def quotedChar (c : Char) : Text :=
  let shown : Text :=
    if c.toNat = 0x27 then ofString "\\'"
    else if c.toNat = 0x22 then ofChar c
    else Piece.quoted (.scalar c)
  "'" ++ shown ++ "'"

end Text
end FeltLowering
