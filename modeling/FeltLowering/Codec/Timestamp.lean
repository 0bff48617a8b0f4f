import FeltLowering.Text

/-
Dates and times as data formats write them.

A number of two digits may have one digit only where a format allows that; the hour may
in all of them.
-/
namespace FeltLowering
namespace Timestamp

/-- A number of two digits, or of one if it may be short, and what follows it. -/
def number? (short : Bool) : Text → Option (Nat × Text)
  | a :: b :: rest =>
    if !Text.isDigit a then none
    else if Text.isDigit b then some (Text.digitValue a * 10 + Text.digitValue b, rest)
    else if short then some (Text.digitValue a, b :: rest)
    else none
  | [a] => if short && Text.isDigit a then some (Text.digitValue a, []) else none
  | [] => none

def after? (b : UInt8) : Text → Option Text
  | c :: rest => if c = b then some rest else none
  | [] => none

def isLeap (year : Nat) : Bool := year % 4 = 0 && (year % 100 ≠ 0 || year % 400 = 0)

def daysIn (year month : Nat) : Nat :=
  if month = 2 then (if isLeap year then 29 else 28)
  else if [4, 6, 9, 11].contains month then 30
  else 31

def afterDate? (short : Bool) (t : Text) : Option Text := do
  let digits := t.take 4
  if digits.length ≠ 4 || !digits.all Text.isDigit then none
  else
    let year := digits.foldl (fun n d => n * 10 + Text.digitValue d) 0
    let t ← after? 0x2D (t.drop 4)
    let (month, t) ← number? short t
    let t ← after? 0x2D t
    let (day, t) ← number? short t
    if 1 ≤ month && month ≤ 12 && 1 ≤ day && day ≤ daysIn year month then some t else none

/-- The text behind a fraction of a second, which may be left out. -/
def afterFraction (t : Text) : Text :=
  match t with
  | mark :: d :: rest =>
    if (mark = 0x2E || mark = 0x2C) && Text.isDigit d then rest.dropWhile Text.isDigit else t
  | _ => t

def afterTime? (short : Bool) (t : Text) : Option Text := do
  let (hour, t) ← number? true t
  let t ← after? 0x3A t
  let (minute, t) ← number? short t
  let t ← after? 0x3A t
  let (second, t) ← number? short t
  if hour < 24 && minute < 60 && second < 60 then some (afterFraction t) else none

def isZone : Text → Bool
  | [0x5A] => true
  | [sign, h1, h2, 0x3A, m1, m2] =>
    (sign = 0x2B || sign = 0x2D) && [h1, h2, m1, m2].all Text.isDigit &&
      Text.digitValue h1 * 10 + Text.digitValue h2 ≤ 24 && Text.digitValue m1 * 10 + Text.digitValue m2 ≤ 60
  | _ => false

end Timestamp
end FeltLowering
