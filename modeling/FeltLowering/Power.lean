/-
Powers of two and of ten: how many values a number of bits or of digits has.
-/
namespace FeltLowering

def twoPow (n : Nat) : Nat := Nat.pow 2 n

def tenPow (n : Nat) : Nat := Nat.pow 10 n

end FeltLowering
