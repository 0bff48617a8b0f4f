import FeltLowering.Codec.Number
import FeltLowering.Codec.Timestamp
import FeltLowering.Codec.Toml

/-
Texts, numbers and dates of a TOML document.
-/
namespace FeltLowering
namespace Toml

def isBlank (c : Char) : Bool := c = ' ' || c = '\t'

def isBreak (c : Char) : Bool := c = '\n' || c = '\r'

/-! ## Texts -/

def hexNumber? (ds : List Char) : Option Nat :=
  ds.foldlM (fun n d => (Text.hexValue? d.toNat.toUInt8).map (n * 16 + ·)) 0

def codePoint? (n : Nat) (cs : List Char) : Option (Char × List Char) :=
  if cs.length < n || !(cs.take n).all (fun c => c.toNat < 0x80) then none
  else do
    let v ← hexNumber? (cs.take n)
    let c ← Text.scalar? v
    return (c, cs.drop n)

def escape? : List Char → Option (Char × List Char)
  | 'b' :: rest => some ('\x08', rest)
  | 't' :: rest => some ('\t', rest)
  | 'n' :: rest => some ('\n', rest)
  | 'f' :: rest => some ('\x0c', rest)
  | 'r' :: rest => some ('\r', rest)
  | '"' :: rest => some ('"', rest)
  | '\\' :: rest => some ('\\', rest)
  | 'u' :: rest => codePoint? 4 rest
  | 'U' :: rest => codePoint? 8 rest
  | _ => none

def unescape? : (fuel : Nat) → List Char → Option (List Char)
  | _, [] => some []
  | 0, _ => none
  | fuel + 1, '\\' :: rest => do
    let (c, rest) ← escape? rest
    return c :: (← unescape? fuel rest)
  | fuel + 1, c :: rest => do return c :: (← unescape? fuel rest)

/-- The characters to the quote that ends a text on one line, and what follows it.  A
character behind a backslash ends no text that has escapes. -/
def lineText? (escapes : Bool) (quote : Char) : List Char → Option (List Char × List Char)
  | [] => none
  | c :: cs =>
    if c = quote then some ([], cs)
    else if isBreak c then none
    else if escapes && c = '\\' then
      match cs with
      | [] => none
      | e :: rest =>
        if isBreak e then none
        else (lineText? escapes quote rest).map fun (t, r) => (c :: e :: t, r)
    else (lineText? escapes quote cs).map fun (t, r) => (c :: t, r)

/-- The characters to the three quotes that end a text over several lines.  One or two
quotes more belong to the text, and three more are an error, which a backslash in front
of them hides.  `seen` holds the characters before, the latest first. -/
def blockText? (escapes : Bool) (quote : Char) (seen : List Char) :
    List Char → Option (List Char × List Char)
  | [] => none
  | c :: cs =>
    if escapes && c = '\\' then
      match cs with
      | [] => none
      | e :: rest => blockText? escapes quote (e :: c :: seen) rest
    else if c = quote && cs.take 2 = [quote, quote] then
      if cs[2]? = some quote then
        if seen.take 2 = [quote, quote] && !(escapes && seen[2]? = some '\\') then none
        else blockText? escapes quote (c :: seen) cs
      else some (seen.reverse, cs.drop 2)
    else blockText? escapes quote (c :: seen) cs

/-- A line break at the start of a text over several lines does not count. -/
def withoutFirstBreak : List Char → List Char
  | '\n' :: cs => cs
  | '\r' :: '\n' :: cs => cs
  | cs => cs

/-- Leaves out a backslash at the end of a line, and what is blank behind it. -/
def joinLines : (fuel : Nat) → List Char → List Char
  | 0, cs => cs
  | _, [] => []
  | fuel + 1, '\\' :: cs =>
    match cs with
    | '\\' :: rest => '\\' :: '\\' :: joinLines fuel rest
    | _ =>
      let gap := cs.takeWhile fun c => isBlank c || isBreak c
      if gap.contains '\n' then joinLines fuel (cs.drop gap.length) else '\\' :: joinLines fuel cs
  | fuel + 1, c :: cs => c :: joinLines fuel cs

def text? (multiline : Bool) (quote : Char) (cs : List Char) : Option (Text × List Char) := do
  let escapes := quote = '"'
  if multiline then
    let (raw, rest) ← blockText? escapes quote [] cs
    let raw := withoutFirstBreak raw
    if escapes then
      let t ← unescape? (raw.length + 1) (joinLines (raw.length + 1) raw)
      return (Text.ofChars t, rest)
    else return (Text.ofChars raw, rest)
  else
    let (raw, rest) ← lineText? escapes quote cs
    if escapes then return (Text.ofChars (← unescape? (raw.length + 1) raw), rest)
    else return (Text.ofChars raw, rest)

def quoted? (cs : List Char) : Option (Text × List Char) :=
  match cs with
  | q :: rest => if rest.take 2 = [q, q] then text? true q (rest.drop 2) else text? false q rest
  | [] => none

/-! ## Numbers -/

def isHexDigit (c : Char) : Bool :=
  ('0' ≤ c && c ≤ '9') || ('a' ≤ c && c ≤ 'f') || ('A' ≤ c && c ≤ 'F')

/-- Whether every underscore stands behind a digit and a digit stands at the end. -/
def underscoresFit : (digit : Bool) → List Char → Bool
  | digit, [] => digit
  | digit, c :: cs => (c ≠ '_' || digit) && underscoresFit (isHexDigit c) cs

def hasLeadingZero : List Char → Bool
  | '0' :: c :: _ => c ≠ 'b' && c ≠ 'o' && c ≠ 'x'
  | '+' :: '0' :: _ :: _ => true
  | '-' :: '0' :: _ :: _ => true
  | _ => false

def withoutUnderscores (cs : List Char) : Text := Text.ofChars (cs.filter (· ≠ '_'))

def isInteger (cs : List Char) : Bool :=
  underscoresFit false cs && !hasLeadingZero cs &&
    ((Number.signed? Number.natural? (withoutUnderscores cs)).any Number.fitsInt64)

/-- The stretches of a number between points and exponent marks. -/
def stretches (cs : List Char) : List (List Char) :=
  (cs.splitOnP fun c => c = '.' || c = 'e' || c = 'E').filter (!·.isEmpty)

def pointsFit : List Char → Bool
  | [] => true
  | '.' :: cs => cs.head?.any Char.isDigit && pointsFit cs
  | _ :: cs => pointsFit cs

def isFloat (cs : List Char) : Bool :=
  (stretches cs).all (underscoresFit false) && !hasLeadingZero ((stretches cs).headD []) &&
    pointsFit cs && (Number.real? (withoutUnderscores cs)).isSome

/-- Splits off a number in a base behind its mark, which a digit must follow. -/
def based? (isDigit : Char → Bool) (cs : List Char) : Option (List Char) :=
  let ds := (cs.drop 2).takeWhile fun c => isDigit c || c = '_'
  if ds.head?.any isDigit && isInteger (cs.take 2 ++ ds) then some (cs.drop (2 + ds.length)) else none

def decimal? (cs : List Char) : Option (List Char) :=
  let sign := (cs.takeWhile fun c => c = '+' || c = '-').take 1
  let whole := (cs.drop sign.length).takeWhile fun c => c.isDigit || c = '_'
  let rest := cs.drop (sign.length + whole.length)
  if !whole.head?.any Char.isDigit then none
  else if rest.head?.any fun c => c = '.' || c = 'e' || c = 'E' then
    let tail := rest.takeWhile fun c => c.isDigit || "_.-+eE".toList.contains c
    if isFloat (sign ++ whole ++ tail) then some (rest.drop tail.length) else none
  else if isInteger (sign ++ whole) then some rest
  else none

/-! ## Dates -/

/-- Whether a text is a date, a time of day, or both with a letter between them; with
both there may be a zone. -/
def isDate (t : Text) : Bool :=
  let timed := (Timestamp.afterTime? false t).any List.isEmpty
  timed ||
    match Timestamp.afterDate? false t with
    | none => false
    | some [] => true
    | some (mark :: rest) =>
      mark = 0x54 &&
        (Timestamp.afterTime? false rest).any fun zone => zone.isEmpty || Timestamp.isZone zone

/-- The letters of a date in upper case; a space stands for one. -/
def dateChar (c : Char) : Char :=
  if c = 'z' then 'Z' else if c = 't' || c = ' ' then 'T' else c

def date? (cs : List Char) : Option (List Char) :=
  let token := cs.takeWhile fun c => c.isDigit || "-:Tt .Zz+".toList.contains c
  let trimmed := (token.reverse.dropWhile (· = ' ')).reverse
  if isDate (Text.ofChars (trimmed.map dateChar)) then some (cs.drop token.length) else none

def number? (cs : List Char) : Option (List Char) :=
  let digits := cs.takeWhile Char.isDigit
  let next := (cs.drop digits.length).head?
  match cs with
  | '0' :: 'x' :: _ => based? isHexDigit cs
  | '0' :: 'o' :: _ => based? (fun c => '0' ≤ c && c ≤ '7') cs
  | '0' :: 'b' :: _ => based? (fun c => c = '0' || c = '1') cs
  | '+' :: 'i' :: 'n' :: 'f' :: rest => some rest
  | '-' :: 'i' :: 'n' :: 'f' :: rest => some rest
  | '+' :: 'n' :: 'a' :: 'n' :: rest => some rest
  | '-' :: 'n' :: 'a' :: 'n' :: rest => some rest
  | 'i' :: 'n' :: 'f' :: rest => some rest
  | 'n' :: 'a' :: 'n' :: rest => some rest
  | _ =>
    if (next = some '-' || next = some ':') && !digits.isEmpty && digits ≠ ['0'] then date? cs
    else decimal? cs

end Toml
end FeltLowering
