import FeltLowering.Text.Utf8

/-
The characters of a YAML stream.

A byte order mark tells the encoding, which is UTF-8 without one.  Control characters
other than tab and line breaks are refused.
-/
namespace FeltLowering
namespace Yaml

def isAllowed (c : Char) : Bool :=
  let n := c.toNat
  n = 0x09 || n = 0x0A || n = 0x0D || (0x20 ≤ n && n ≤ 0x7E) || n = 0x85 ||
    (0xA0 ≤ n && n ≤ 0xD7FF) || (0xE000 ≤ n && n ≤ 0xFFFD) || 0x10000 ≤ n

/-- The 16-bit units of a text; `big` says that the high byte of each comes first. -/
def units? (big : Bool) : Text → Option (List Nat)
  | [] => some []
  | a :: b :: rest => do
    let unit := if big then a.toNat * 256 + b.toNat else b.toNat * 256 + a.toNat
    return unit :: (← units? big rest)
  | [_] => none

def ofUnits? : List Nat → Option (List Char)
  | [] => some []
  | u :: rest =>
    if 0xDC00 ≤ u && u ≤ 0xDFFF then none
    else if 0xD800 ≤ u && u ≤ 0xDBFF then
      match rest with
      | v :: rest =>
        if 0xDC00 ≤ v && v ≤ 0xDFFF then do
          let c := Char.ofNat (0x10000 + (u - 0xD800) * 1024 + (v - 0xDC00))
          return c :: (← ofUnits? rest)
        else none
      | [] => none
    else do return Char.ofNat u :: (← ofUnits? rest)

def characters? (t : Text) : Option (List Char) := do
  let cs ←
    match t with
    | 0xFF :: 0xFE :: rest => (units? false rest).bind ofUnits?
    | 0xFE :: 0xFF :: rest => (units? true rest).bind ofUnits?
    | 0xEF :: 0xBB :: 0xBF :: rest => Text.chars? rest
    | _ => Text.chars? t
  if cs.all isAllowed then some cs else none

end Yaml
end FeltLowering
