import FeltLowering.Text.Utf8

/-
Comparison without regard to case, with words of ASCII letters.
-/
namespace FeltLowering
namespace Text

/-- A character with its case removed.  Besides the ASCII letters two further characters
fold to an ASCII letter, the Kelvin sign and the long s. -/
def foldChar (c : Char) : Char :=
  if c.toNat = 0x212A then 'K' else if c.toNat = 0x17F then 'S' else c.toUpper

def folded (t : Text) : List Char := t.chars.map foldChar

/-- The entry of a list under a key: the one spelled the same, or else the first that
differs from it in case only. -/
def findFolded? {α : Type} (entries : List (Text × α)) (key : Text) : Option (Text × α) :=
  (entries.find? fun e => e.1 = key).or (entries.find? fun e => e.1.folded = key.folded)

end Text
end FeltLowering
