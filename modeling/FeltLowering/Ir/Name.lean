import FeltLowering.Decimal

/-
Names of functions, blocks and local values.

A written identifier must not read as a number, since numbers name the values that
have no name.  A name of digits is therefore quoted, and so is a name with a byte
outside letters, digits and a few signs.
-/
namespace FeltLowering
namespace Ir
namespace Name

/-- The name a function or block goes by in reports and look-ups.  A name that reads as
a signed 64-bit number is that number in quotes, and the absent name is number zero. -/
def display (name : Text) : Text :=
  if name.isEmpty then "0"
  else
    match Decimal.parseInt64? name with
    | some v => "\"" ++ Text.ofInt v ++ "\""
    | none => name

def isPlain (b : UInt8) : Bool :=
  Text.isLetter b || Text.isDigit b || b == 0x24 || b == 0x2E || b == 0x5F || b == 0x2D

def isSafe (b : UInt8) : Bool := 0x20 ≤ b && b ≤ 0x7E && b != 0x22 && b != 0x5C

/-- A byte between quotes: itself, or a backslash and its two upper-case digits. -/
def escapeByte (b : UInt8) : Text := if isSafe b then [b] else 0x5C :: Text.hexUpper 2 b.toNat

def escape (t : Text) : Text := t.flatMap escapeByte

def quote (t : Text) : Text := "\"" ++ escape t ++ "\""

def isNumber (name : Text) : Bool :=
  match Decimal.parseNat? name with
  | some n => n < twoPow 64
  | none => false

/-- The written form of a name behind its sigil. -/
def written (name : Text) : Text :=
  if name.isEmpty then "0"
  else if isNumber name then "\"" ++ name ++ "\""
  else if name.all isPlain then name
  else quote name

def ofFunction (name : Text) : Text := "@" ++ written name

def ofValue (name : Text) : Text := "%" ++ written name

end Name
end Ir
end FeltLowering
