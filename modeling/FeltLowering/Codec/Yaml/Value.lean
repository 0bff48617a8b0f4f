import FeltLowering.Codec.Base64
import FeltLowering.Codec.Number
import FeltLowering.Codec.Timestamp

/-
What a scalar stands for.

A scalar without a tag and without quotes may be a null, a truth value, a number or a
date; everything else is a text.  A tag asks for a kind, and a scalar that is of another
kind is refused.
-/
namespace FeltLowering
namespace Yaml

open Number

inductive Value where
  | null
  | boolean
  | integer (n : Int)
  | real (x : Floating)
  | timestamp
  | text (t : Text)
  deriving DecidableEq, Repr

namespace Value

def tag : Value → Text
  | .null => "!!null"
  | .boolean => "!!bool"
  | .integer _ => "!!int"
  | .real _ => "!!float"
  | .timestamp => "!!timestamp"
  | .text _ => "!!str"

/-! ## Plain scalars -/

def named? (t : Text) : Option Value :=
  let among (ts : List String) : Bool := ts.any fun s => Text.ofString s = t
  if among ["true", "True", "TRUE", "false", "False", "FALSE"] then some .boolean
  else if among ["", "~", "null", "Null", "NULL"] then some .null
  else if among [".nan", ".NaN", ".NAN"] then some (.real .notANumber)
  else if among [".inf", ".Inf", ".INF", "+.inf", "+.Inf", "+.INF"] then some (.real (.infinite false))
  else if among ["-.inf", "-.Inf", "-.INF"] then some (.real (.infinite true))
  else none

def number? (t : Text) : Option Value :=
  let plain := withoutUnderscores t
  ((integer? natural? natural? plain).map Value.integer).or <|
    ((real? plain).map Value.real).or <|
      ((markedInteger? 2 0x62 plain).or (markedInteger? 8 0x6F plain)).map Value.integer

/-- Whether a text is a date, alone, with a time of day after a letter and with a zone,
or with a time after spaces and without one. -/
def isTimestamp (t : Text) : Bool :=
  match Timestamp.afterDate? true t with
  | none => false
  | some [] => true
  | some (mark :: rest) =>
    if mark = 0x54 || mark = 0x74 then (Timestamp.afterTime? true rest).any Timestamp.isZone
    else mark = 0x20 && (Timestamp.afterTime? true (rest.dropWhile (· = 0x20))).any List.isEmpty

/-- What a scalar without quotes stands for; `dated` says whether it may be a date. -/
def ofPlain (dated : Bool) (t : Text) : Value :=
  (named? t).getD <|
    match t with
    | [] => .text t
    | b :: _ =>
      if b = 0x2E then
        if underscoresFit false t then ((real? (withoutUnderscores t)).map Value.real).getD (.text t)
        else .text t
      else if Text.isDigit b || b = 0x2B || b = 0x2D then
        if dated && isTimestamp t then .timestamp else (number? t).getD (.text t)
      else .text t

def kindTags : List Text := ["!!bool", "!!int", "!!float", "!!null", "!!timestamp"]

/-- What a scalar under a tag stands for.  An integer will do for a floating-point
number, and a tag of no known kind leaves the text as it is. -/
def ofScalar? (tag t : Text) : Option Value :=
  if tag.isEmpty then some (ofPlain true t)
  else if tag = Text.ofString "!!binary" then (Base64.decode? t).map .text
  else if !kindTags.contains tag then some (.text t)
  else
    let v := ofPlain (tag = Text.ofString "!!timestamp") t
    if v.tag = tag then some v
    else
      match v with
      | .integer n =>
        if tag = Text.ofString "!!float" && fitsInt64 n then some (.real (.finite (Binary64.ofInt n)))
        else none
      | _ => none

def toId? : Value → Option UInt64
  | .integer n => if 0 ≤ n && n < twoPow 64 then some n.toNat.toUInt64 else none
  | .real x => x.toWord?
  | _ => none

end Value
end Yaml
end FeltLowering
