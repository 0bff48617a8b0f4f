import FeltLowering.Text

/-
Bytes as text of 64 letters: three bytes are four letters of six bits each, and equals
signs fill up the last group.
-/
namespace FeltLowering
namespace Base64

def letter (n : Nat) : UInt8 :=
  if n < 26 then (0x41 + n).toUInt8
  else if n < 52 then (0x61 + (n - 26)).toUInt8
  else if n < 62 then (0x30 + (n - 52)).toUInt8
  else if n = 62 then 0x2B
  else 0x2F

def bits? (b : UInt8) : Option Nat :=
  if Text.isUpper b then some (b.toNat - 0x41)
  else if Text.isLower b then some (b.toNat - 0x61 + 26)
  else if Text.isDigit b then some (b.toNat - 0x30 + 52)
  else if b = 0x2B then some 62
  else if b = 0x2F then some 63
  else none

def encode : Text → Text
  | a :: b :: c :: rest =>
    let n := a.toNat * 65536 + b.toNat * 256 + c.toNat
    letter (n / 262144) :: letter (n / 4096 % 64) :: letter (n / 64 % 64) :: letter (n % 64) :: encode rest
  | [a, b] =>
    let n := a.toNat * 65536 + b.toNat * 256
    [letter (n / 262144), letter (n / 4096 % 64), letter (n / 64 % 64), 0x3D]
  | [a] =>
    let n := a.toNat * 65536
    [letter (n / 262144), letter (n / 4096 % 64), 0x3D, 0x3D]
  | [] => []

def groups? : Text → Option Text
  | [] => some []
  | [a, b, 0x3D, 0x3D] => do
    let n := (← bits? a) * 64 + (← bits? b)
    return [(n / 16).toUInt8]
  | [a, b, c, 0x3D] => do
    let n := (← bits? a) * 4096 + (← bits? b) * 64 + (← bits? c)
    return [(n / 1024).toUInt8, (n / 4).toUInt8]
  | a :: b :: c :: d :: rest => do
    let n := (← bits? a) * 262144 + (← bits? b) * 4096 + (← bits? c) * 64 + (← bits? d)
    return (n / 65536).toUInt8 :: (n / 256).toUInt8 :: n.toUInt8 :: (← groups? rest)
  | _ => none

/-- The bytes of a text, in which line breaks do not count. -/
def decode? (t : Text) : Option Text := groups? (t.filter fun b => b != 0x0A && b != 0x0D)

end Base64
end FeltLowering
