import FeltLowering.Power
import FeltLowering.Trace.Level

/-
Trace events.

An event opens a span, closes one or marks a point.  The pairs that a span collects are
shared by its end events, so an end event refers to them instead of holding them.
-/
namespace FeltLowering
namespace Trace

inductive Kind where
  | begin
  | finish
  | point
  | unnamed (code : Nat)
  deriving DecidableEq, Repr

namespace Kind

def ofCode : Nat → Kind
  | 1 => .begin
  | 2 => .finish
  | 3 => .point
  | n => .unnamed n

def text : Kind → Text
  | .begin => "begin"
  | .finish => "end"
  | .point => "point"
  | .unnamed _ => "unknown"

end Kind

/-- An instant: nanoseconds since 1970 in a zone some seconds east of Greenwich. -/
structure Timestamp where
  nanos : Int
  zone : Int := 0
  deriving DecidableEq, Repr

namespace Timestamp

/-- The first instant of the year 1, the time of an event that was given none. -/
def unset : Timestamp := ⟨-62135596800 * tenPow 9, 0⟩

/-- Year, month and day of a day counted from 1970-01-01.  The count is shifted to
1 March of the year 0, so that a leap day is the last of its year. -/
def civil (day : Int) : Int × Nat × Nat :=
  let z := day + 719468
  let era := z / 146097
  let doe := (z % 146097).toNat
  let yoe := (doe - doe / 1460 + doe / 36524 - doe / 146096) / 365
  let doy := doe - (365 * yoe + yoe / 4 - yoe / 100)
  let mp := (5 * doy + 2) / 153
  let month := if mp < 10 then mp + 3 else mp - 9
  ((yoe : Int) + era * 400 + (if month ≤ 2 then 1 else 0), month, doy - (153 * mp + 2) / 5 + 1)

def digits (width n : Nat) : Text :=
  let t := Text.ofNat n
  Text.fill (width - t.length) 0x30 ++ t

/-- The offset from Greenwich in whole minutes, cut toward zero. -/
def zoneText (zone : Int) : Text :=
  if zone = 0 then "Z"
  else
    let minutes := zone.tdiv 60
    Text.ofString (if minutes < 0 then "-" else "+") ++ digits 2 (minutes.natAbs / 60) ++ ":" ++
      digits 2 (minutes.natAbs % 60)

/-- Four digits or more; a year before the year 0 has a sign in front of them. -/
def yearText (year : Int) : Text := Text.ofString (if year < 0 then "-" else "") ++ digits 4 year.natAbs

/-- Date and time to the microsecond, later digits cut off. -/
def text (t : Timestamp) : Text :=
  let seconds := t.nanos / tenPow 9 + t.zone
  let (year, month, day) := civil (seconds / 86400)
  let s := (seconds % 86400).toNat
  let micros := ((t.nanos % tenPow 9) / 1000).toNat
  yearText year ++ "-" ++ digits 2 month ++ "-" ++ digits 2 day ++ "T" ++
    digits 2 (s / 3600) ++ ":" ++ digits 2 (s / 60 % 60) ++ ":" ++ digits 2 (s % 60) ++
    "." ++ digits 6 micros ++ zoneText t.zone

end Timestamp

/-- Pairs in the order their keys were first set. -/
abbrev Pairs := List (Text × Text)

namespace Pairs

/-- Sets a key, in its place if it has one. -/
def put (ps : Pairs) (key value : Text) : Pairs :=
  if ps.any (·.1 = key) then ps.map fun p => if p.1 = key then (key, value) else p
  else ps ++ [(key, value)]

def keyLe (x y : Text × Text) : Bool := !(List.lex y.1 x.1 (· < ·))

def sorted (ps : Pairs) : Pairs := ps.mergeSort keyLe

end Pairs

/-- The pairs of an event: none, its own, or those of a span, by their position among
the pairs of all spans. -/
inductive Extra where
  | none
  | own (pairs : Pairs)
  | span (position : Nat)
  deriving DecidableEq, Repr

structure Event where
  time : Timestamp := .unset
  seq : Nat := 0
  kind : Kind
  scope : Scope
  /-- The span an event opens or closes; zero for a point. -/
  span : Nat := 0
  /-- The enclosing span; zero at the root. -/
  parent : Nat := 0
  name : Text
  detail : Text := []
  extra : Extra := .none
  deriving DecidableEq, Repr

namespace Event

/-- The event with the pairs of its span, as they are now, in place of the reference. -/
def resolve (pairs : List Pairs) (e : Event) : Event :=
  match e.extra with
  | .span i => { e with extra := .own (pairs[i]?.getD []) }
  | _ => e

def ownPairs (e : Event) : Pairs :=
  match e.extra with
  | .own ps => ps
  | _ => []

end Event
end Trace
end FeltLowering
