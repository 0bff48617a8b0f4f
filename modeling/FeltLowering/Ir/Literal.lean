import FeltLowering.Binary64

/-
Integer literals.

A literal is decimal unless its hexadecimal digits are clearly more regular: few
distinct digits for its length, and a markedly lower share of distinct digits than in
decimal.
-/
namespace FeltLowering
namespace Ir
namespace Literal

def distinct (ds : List Char) : Nat := ds.eraseDups.length

/-- The greatest number of distinct digits at which hexadecimal digits count as regular,
by the number of digits.  Below four digits none is. -/
def regularLimit (n : Nat) : Nat :=
  if n < 4 then 0 else if n ≤ 6 then 2 else if n ≤ 10 then 3 else 4

/-- The share of distinct digits among as many digits as the base allows to differ. -/
def share (ds : List Char) (base : Nat) : Binary64 :=
  Binary64.ofFraction (distinct ds) (min ds.length base)

def prefersHex (n : Nat) : Bool :=
  let hex := Nat.toDigits 16 n
  let dec := Nat.toDigits 10 n
  4096 ≤ n && distinct hex ≤ regularLimit hex.length &&
    Binary64.le ((share hex 16).add (Binary64.ofFraction 1 5)) (share dec 10)

def text (width : Nat) (v : Int) : Text :=
  if width = 1 then (if v = 0 then "false" else "true")
  else if 0 ≤ v && prefersHex v.toNat then
    "u0x" ++ (Nat.toDigits 16 v.toNat).flatMap fun c => Text.ofChar c.toUpper
  else Text.ofInt v

end Literal
end Ir
end FeltLowering
