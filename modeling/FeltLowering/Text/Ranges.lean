/-
Tables of code points.

The tables are sorted and their ranges do not overlap, so a look-up halves the
table.
-/
namespace FeltLowering
namespace Text

/-- The row of `table` between `lo` and `hi` whose range holds the code point. -/
def findRangeBetween? {α : Type} (table : Array (Nat × Nat × α)) (c lo hi : Nat) : Option α :=
  if lo < hi then
    let mid := (lo + hi) / 2
    match table[mid]? with
    | none => none
    | some (first, last, value) =>
      if c < first then findRangeBetween? table c lo mid
      else if last < c then findRangeBetween? table c (mid + 1) hi
      else some value
  else none
termination_by hi - lo
decreasing_by all_goals omega

def findRange? {α : Type} (table : Array (Nat × Nat × α)) (c : Nat) : Option α :=
  findRangeBetween? table c 0 table.size

def findKeyBetween? {α : Type} (table : Array (Nat × α)) (c lo hi : Nat) : Option α :=
  if lo < hi then
    let mid := (lo + hi) / 2
    match table[mid]? with
    | none => none
    | some (key, value) =>
      if c < key then findKeyBetween? table c lo mid
      else if key < c then findKeyBetween? table c (mid + 1) hi
      else some value
  else none
termination_by hi - lo
decreasing_by all_goals omega

def findKey? {α : Type} (table : Array (Nat × α)) (c : Nat) : Option α :=
  findKeyBetween? table c 0 table.size

def inRangesBetween (table : Array (Nat × Nat)) (c lo hi : Nat) : Bool :=
  if lo < hi then
    let mid := (lo + hi) / 2
    match table[mid]? with
    | none => false
    | some (first, last) =>
      if c < first then inRangesBetween table c lo mid
      else if last < c then inRangesBetween table c (mid + 1) hi
      else true
  else false
termination_by hi - lo
decreasing_by all_goals omega

def inRanges (table : Array (Nat × Nat)) (c : Nat) : Bool :=
  inRangesBetween table c 0 table.size

end Text
end FeltLowering
