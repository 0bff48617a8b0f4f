/-
Text as bytes.

Names, literals and file contents are kept byte for byte.  A program may carry
names that are not valid UTF-8, so a string type would lose some of them; a list
of bytes loses none and appends, splits and compares by the list lemmas.
-/
namespace FeltLowering

/-- A text is a list of bytes, usually but not always valid UTF-8. -/
abbrev Text := List UInt8

namespace Text

def ofString (s : String) : Text := s.toList.flatMap String.utf8EncodeChar

instance : Coe String Text := ⟨ofString⟩

def ofChar (c : Char) : Text := String.utf8EncodeChar c

def ofNat (n : Nat) : Text := (Nat.toDigits 10 n).flatMap String.utf8EncodeChar

def ofInt : Int → Text
  | .ofNat n => ofNat n
  | .negSucc n => 0x2D :: ofNat (n + 1)

def join (sep : Text) : List Text → Text
  | [] => []
  | [t] => t
  | t :: rest => t ++ sep ++ join sep rest

def when (b : Bool) (t : Text) : Text := if b then t else []

def fill (n : Nat) (b : UInt8) : Text := List.replicate n b

def spaces (n : Nat) : Text := fill n 0x20

def padLeft (width : Nat) (t : Text) : Text := spaces (width - t.length) ++ t

def padRight (width : Nat) (t : Text) : Text := t ++ spaces (width - t.length)

def isDigit (b : UInt8) : Bool := 0x30 ≤ b && b ≤ 0x39

def isLower (b : UInt8) : Bool := 0x61 ≤ b && b ≤ 0x7A

def isUpper (b : UInt8) : Bool := 0x41 ≤ b && b ≤ 0x5A

def isLetter (b : UInt8) : Bool := isLower b || isUpper b

def digitValue (b : UInt8) : Nat := b.toNat - 0x30

def hexValue? (b : UInt8) : Option Nat :=
  if isDigit b then some (b.toNat - 0x30)
  else if 0x61 ≤ b && b ≤ 0x66 then some (b.toNat - 0x57)
  else if 0x41 ≤ b && b ≤ 0x46 then some (b.toNat - 0x37)
  else none

def hexDigitLower (n : Nat) : UInt8 :=
  if n < 10 then (0x30 + n).toUInt8 else (0x57 + n).toUInt8

def hexDigitUpper (n : Nat) : UInt8 :=
  if n < 10 then (0x30 + n).toUInt8 else (0x37 + n).toUInt8

def hexLower : (width : Nat) → (n : Nat) → Text
  | 0, _ => []
  | width + 1, n => hexLower width (n / 16) ++ [hexDigitLower (n % 16)]

def hexUpper : (width : Nat) → (n : Nat) → Text
  | 0, _ => []
  | width + 1, n => hexUpper width (n / 16) ++ [hexDigitUpper (n % 16)]

def startsWith (t start : Text) : Bool := start.isPrefixOf t

def endsWith (t tail : Text) : Bool := tail.isSuffixOf t

/-- The text before the first `b` and the text after it. -/
def cut (b : UInt8) (t : Text) : Option (Text × Text) :=
  match t.dropWhile (· != b) with
  | [] => none
  | _ :: after => some (t.takeWhile (· != b), after)

/-- The pieces of a text between occurrences of `b`; a text without `b` is one piece. -/
def splitOn (b : UInt8) : Text → List Text
  | [] => [[]]
  | c :: rest =>
    match splitOn b rest with
    | [] => [[c]]
    | piece :: pieces => if c == b then [] :: piece :: pieces else (c :: piece) :: pieces

end Text
end FeltLowering
