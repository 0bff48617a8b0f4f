import FeltLowering.Codec.Yaml.Cursor
import FeltLowering.Codec.Yaml.Value
import FeltLowering.Program

/-
Programs laid out as YAML.

A text is written without quotes where it reads back as the same text.  Otherwise it
goes into single quotes, into a block if it holds line feeds, or into double quotes if
it holds characters that need an escape.  Columns are multiples of four, apart from the
entries of a list, which lie two columns behind the dash.
-/
namespace FeltLowering
namespace Yaml

/-! ## Texts -/

def isPrintable (c : Char) : Bool :=
  let n := c.toNat
  n = 0x0A || (0x20 ≤ n && n ≤ 0x7E) || (0xA0 ≤ n && n ≤ 0xD7FF) ||
    (0xE000 ≤ n && n ≤ 0xFFFD && n ≠ 0xFEFF)

/-- Words that an older version of the format reads as truth values. -/
def isOldBoolean (t : Text) : Bool :=
  ["y", "Y", "yes", "Yes", "YES", "on", "On", "ON", "n", "N", "no", "No", "NO", "off", "Off",
    "OFF"].any fun s => Text.ofString s = t

/-- Whether the pieces behind the first colon are sixtieths: one digit, or two of which
the first is below six.  The last may have a fraction. -/
def areSixtieths : List Text → Bool
  | [] => false
  | [last] =>
    let ds := last.takeWhile Text.isDigit
    let part := last.dropWhile Text.isDigit
    isSixtieth ds && (part.isEmpty || (part.head? = some 0x2E && part.tail.all isDigitOrLine))
  | p :: rest => isSixtieth p && areSixtieths rest
where
  isSixtieth : Text → Bool
    | [d] => Text.isDigit d
    | [t, d] => 0x30 ≤ t && t ≤ 0x35 && Text.isDigit d
    | _ => false
  isDigitOrLine (b : UInt8) : Bool := Text.isDigit b || b = 0x5F

/-- Numbers in base sixty, which an older version of the format has. -/
def isSexagesimal (t : Text) : Bool :=
  let unsigned := if t.head? = some 0x2B || t.head? = some 0x2D then t.tail else t
  match Text.splitOn 0x3A unsigned with
  | first :: rest =>
    first.head?.any Text.isDigit && first.all areSixtieths.isDigitOrLine && areSixtieths rest
  | [] => false

def readsAsText (t : Text) : Bool :=
  (match Value.ofPlain true t with
    | .text _ => true
    | _ => false) && !isSexagesimal t && !isOldBoolean t

/-- Whether a marker, or an indicator at the start or inside, keeps characters from
being a plain scalar. -/
def hasIndicators (cs : List Char) : Bool :=
  cs.take 3 = ['-', '-', '-'] || cs.take 3 = ['.', '.', '.'] || startsBadly cs || inside cs
where
  startsBadly : List Char → Bool
    | [] => false
    | c :: rest =>
      "#,[]\x7b\x7d&*!|>'\"%@\x60".toList.contains c ||
        ("?:-".toList.contains c && rest.head?.all isBlank)
  inside : List Char → Bool
    | a :: b :: rest =>
      (b = ':' && rest.head?.all isBlank) || (b = '#' && isGap a) || inside (b :: rest)
    | _ => false

def anyNeighbours (p : Char → Char → Bool) : List Char → Bool
  | a :: b :: rest => p a b || anyNeighbours p (b :: rest)
  | _ => false

def spaceBeforeBreak (cs : List Char) : Bool := anyNeighbours (fun a b => a = ' ' && isBreak b) cs

def spaceAfterBreak (cs : List Char) : Bool := anyNeighbours (fun a b => isBreak a && b = ' ') cs

def hasSpecial (cs : List Char) : Bool := cs.any fun c => c ≠ '\t' && !isPrintable c

def isEdge (c : Char) : Bool := c = ' ' || isBreak c

def canBePlain (cs : List Char) : Bool :=
  !(cs.head?.any isEdge || cs.getLast?.any isEdge || cs.contains '\t' || hasSpecial cs ||
    cs.any isBreak || hasIndicators cs)

def canBeSingleQuoted (cs : List Char) : Bool :=
  !(spaceBeforeBreak cs || spaceAfterBreak cs || cs.contains '\t' || hasSpecial cs)

def canBeBlock (cs : List Char) : Bool :=
  !(cs.getLast? = some ' ' || spaceBeforeBreak cs || hasSpecial cs)

def writeEscaped (c : Char) : Text :=
  let n := c.toNat
  if isPrintable c && !isBreak c && c ≠ '"' && c ≠ '\\' then Text.ofChar c
  else
    0x5C :: (match n with
      | 0x00 => "0"
      | 0x07 => "a"
      | 0x08 => "b"
      | 0x09 => "t"
      | 0x0A => "n"
      | 0x0B => "v"
      | 0x0C => "f"
      | 0x0D => "r"
      | 0x1B => "e"
      | 0x22 => "\""
      | 0x5C => "\\"
      | 0x85 => "N"
      | 0x2028 => "L"
      | 0x2029 => "P"
      | _ =>
        if n ≤ 0xFF then "x" ++ Text.hexUpper 2 n
        else if n ≤ 0xFFFF then "u" ++ Text.hexUpper 4 n
        else "U" ++ Text.hexUpper 8 n)

def writeDoubleQuoted (cs : List Char) : Text := "\"" ++ cs.flatMap writeEscaped ++ "\""

/-- Lines of characters, each indented.  `fresh` says that a line has just begun. -/
def writeLines (indent : Nat) (write : Char → Text) : (fresh : Bool) → List Char → Text
  | _, [] => []
  | fresh, c :: cs =>
    if isBreak c then Text.ofChar c ++ writeLines indent write true cs
    else Text.when fresh (Text.spaces indent) ++ write c ++ writeLines indent write false cs

/-- A text in single quotes.  Of the line breaks only separators occur in it. -/
def writeSingleQuoted (indent : Nat) (cs : List Char) : Text :=
  "'" ++ writeLines indent (fun c => if c = '\'' then "''" else Text.ofChar c) false cs ++ "'"

/-- The marks of a block: the indentation where the text starts with a space or a break,
and what the end of the text is like. -/
def blockHints (cs : List Char) : Text :=
  Text.when (cs.head?.any isEdge) "4" ++
    match cs.reverse with
    | [] => "-"
    | last :: before =>
      if !isBreak last then "-" else Text.when (before.head?.all isBreak) "+"

/-- A text as a block.  A break at the start of the text ends the line of the marks. -/
def writeBlock (indent : Nat) (cs : List Char) : Text :=
  "|" ++ blockHints cs ++ Text.when (!cs.head?.any isBreak) "\n" ++
    writeLines indent Text.ofChar true cs

/-- Bytes that are no text, in lines of seventy letters if they do not fit on one. -/
def encodeBytes (t : Text) : Text :=
  let letters := Base64.encode t
  if letters.length < 70 then letters else lines letters.length letters
where
  lines : Nat → Text → Text
    | 0, _ => []
    | _, [] => []
    | fuel + 1, t => t.take 70 ++ [0x0A] ++ lines fuel (t.drop 70)

/-- A text that is written without quotes if it may be, in the given column. -/
def writeStyled (indent : Nat) (plain : Bool) (cs : List Char) : Text :=
  if cs.contains '\n' then
    if canBeBlock cs then writeBlock indent cs else writeDoubleQuoted cs
  else if !plain then writeDoubleQuoted cs
  else if canBePlain cs then Text.ofChars cs
  else if canBeSingleQuoted cs then writeSingleQuoted indent cs
  else writeDoubleQuoted cs

def writeText (indent : Nat) (t : Text) : Text :=
  if t.isValid then writeStyled indent (readsAsText t) t.chars
  else "!!binary " ++ writeStyled indent true (encodeBytes t).chars

/-! ## Layout -/

inductive Layout where
  | number (n : Nat)
  | text (t : Text)
  | list (items : List Layout)
  | record (fields : List (Text × Layout))

namespace Layout

def deeper (indent : Nat) : Nat := 4 * ((indent + 4) / 4)

/-- Ends a line, unless a line break of the text has ended it. -/
def endLine (t : Text) : Text := if t.chars.getLast?.any isBreak then t else t ++ "\n"

mutual

/-- What stands behind a key of a record in column `indent`, to the end of the line. -/
def writeValue (indent : Nat) : Layout → Text
  | .number n => " " ++ Text.ofNat n ++ "\n"
  | .text t => endLine (" " ++ writeText (deeper indent) t)
  | .list [] => " []\n"
  | .list (x :: xs) => "\n" ++ writeItems (deeper indent) (x :: xs)
  | .record [] => " \x7b\x7d\n"
  | .record (f :: fs) => "\n" ++ writeFields (deeper indent) true (f :: fs)

/-- What stands behind the dash of an entry in column `indent`, to the end of the line. -/
def writeItem (indent : Nat) : Layout → Text
  | .number n => Text.ofNat n ++ "\n"
  | .text t => endLine (writeText (indent + 2) t)
  | .list [] => "[]\n"
  | .list (x :: xs) => "\n" ++ writeItems (indent + 2) (x :: xs)
  | .record [] => "\x7b\x7d\n"
  | .record (f :: fs) => writeFields (indent + 2) false (f :: fs)

def writeItems (indent : Nat) : List Layout → Text
  | [] => []
  | x :: xs => Text.spaces indent ++ "- " ++ writeItem indent x ++ writeItems indent xs

def writeFields (indent : Nat) (fresh : Bool) : List (Text × Layout) → Text
  | [] => []
  | (k, v) :: fs =>
    Text.when fresh (Text.spaces indent) ++ k ++ ":" ++ writeValue indent v ++ writeFields indent true fs

end

/-! ## Programs -/

def ofIdent (i : Ident) : Layout :=
  .record (("id", .number i.id.toNat) ::
    if i.debugName.isEmpty then [] else [("debug_name", .text i.debugName)])

def ofArg (a : GenericArg) : Layout :=
  .record ((a.value.map fun t => (Text.ofString "value", Layout.text t)).toList ++
    (a.type.map fun i => (Text.ofString "type", ofIdent i)).toList ++
    (a.userType.map fun t => (Text.ofString "user_type", Layout.text t)).toList ++
    (a.libfunc.map fun i => (Text.ofString "libfunc", ofIdent i)).toList)

def ofDeclaration (d : Declaration) : Layout :=
  .record [("id", ofIdent d.id), ("long_id", .record (("generic_id", .text d.genericId) ::
    match d.argList with
    | [] => []
    | args => [("generic_args", .list (args.map ofArg))]))]

def ofProgram (p : Program) : List (Text × Layout) :=
  [("type_declarations", .list (p.typeList.map ofDeclaration)),
   ("libfunc_declarations", .list (p.libfuncList.map ofDeclaration))]

end Layout

def encodeProgram (p : Program) : Text := Layout.writeFields 0 true (Layout.ofProgram p)

end Yaml
end FeltLowering
