import FeltLowering.Codec.Json
import FeltLowering.Trace.Event

/-
Written events: one line of text, or one JSON object a line.
-/
namespace FeltLowering
namespace Trace

inductive Format where
  /-- Chosen by the name of the file the trace goes to. -/
  | auto
  | text
  | ndjson
  deriving DecidableEq, Repr

namespace Format

def code : Format → Nat
  | .auto => 0
  | .text => 1
  | .ndjson => 2

def parse? (t : Text) : Option Format :=
  let word := t.lower
  if word.isEmpty || word = Text.ofString "auto" then some .auto
  else if word = Text.ofString "text" then some .text
  else if word = Text.ofString "ndjson" || word = Text.ofString "json" then some .ndjson
  else none

def parseMessage (t : Text) : Text :=
  "invalid trace format: " ++ t.quoted ++ " (expected: auto|text|ndjson)"

def resolve (f : Format) (path : Text) : Format :=
  match f with
  | .auto => if path.endsWith ".ndjson" || path.endsWith ".jsonl" then .ndjson else .text
  | f => f

end Format

namespace Event

def arrow : Kind → Text
  | .begin => "→ "
  | .finish => "← "
  | .point => "• "
  | .unnamed _ => []

def pairsText (ps : Pairs) : Text :=
  " \x7b" ++ Text.join ", " (ps.sorted.map fun p => (p.1 ++ "=" ++ p.2 : Text)) ++ "\x7d"

def line (e : Event) : Text :=
  "[" ++ Text.padLeft 6 (Text.ofNat e.seq) ++ "] " ++ Text.padRight 6 e.scope.text ++ " " ++
    arrow e.kind ++ e.name ++
    Text.when (!e.detail.isEmpty) (" (" ++ e.detail ++ ")") ++
    Text.when (!e.ownPairs.isEmpty) (pairsText e.ownPairs) ++ "\n"

/-- The event as a JSON object; zero ids, an empty detail and empty pairs are left out. -/
def toJson (e : Event) : Json :=
  .object ([(("time" : Text), .string e.time.text), ("seq", .ofNat e.seq),
      ("kind", .string e.kind.text), ("scope", .string e.scope.text)] ++
    (if e.span = 0 then [] else [(Text.ofString "span_id", .ofNat e.span)]) ++
    (if e.parent = 0 then [] else [(Text.ofString "parent_id", .ofNat e.parent)]) ++
    [(Text.ofString "name", .string e.name)] ++
    (if e.detail.isEmpty then [] else [(Text.ofString "detail", .string e.detail)]) ++
    (if e.ownPairs.isEmpty then []
      else [(Text.ofString "extra", .object (e.ownPairs.sorted.map fun p => (p.1, .string p.2)))]))

/-- The written form of an event that holds its pairs itself. -/
def render (f : Format) (e : Event) : Text :=
  match f with
  | .ndjson => e.toJson.compact ++ [0x0A]
  | _ => e.line

end Event
end Trace
end FeltLowering
