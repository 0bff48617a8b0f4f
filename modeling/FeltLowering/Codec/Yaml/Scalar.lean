import FeltLowering.Codec.Yaml.Cursor

/-
Scalars.

Inside a quoted or a plain scalar a run of blanks and line breaks is folded: blanks
alone are kept, a single line break becomes a space, and of several breaks the first is
dropped.  A block scalar keeps its lines, or folds those that start with no blank.
-/
namespace FeltLowering
namespace Yaml

/-! ## Folding -/

structure Gap where
  /-- The blanks in front of the first line break. -/
  blanks : List Char := []
  /-- The first line break, or nothing for one that was escaped. -/
  first : Option (List Char) := none
  /-- The line breaks after the first. -/
  later : List Char := []

namespace Gap

def folded (g : Gap) : List Char :=
  match g.first with
  | none => g.blanks
  | some ['\n'] => if g.later.isEmpty then [' '] else g.later
  | some first => first ++ g.later

end Gap

namespace Cursor

/-- Reads a run of blanks and breaks behind what `g` holds.  On a continuation line a
tab in front of the column `tabLimit` is refused. -/
def gap (tabLimit : Nat) : (fuel : Nat) → Gap → Cursor → Option (Gap × Cursor)
  | 0, g, c => some (g, c)
  | fuel + 1, g, c =>
    match c.rest with
    | [] => some (g, c)
    | ch :: _ =>
      if isBlank ch then
        if g.first.isSome && ch = '\t' && c.column < tabLimit then none
        else gap tabLimit fuel (if g.first.isNone then { g with blanks := g.blanks ++ [ch] } else g) c.skip
      else if isBreak ch then
        let (t, c) := c.readBreak
        if g.first.isNone then gap tabLimit fuel { first := some t } c
        else gap tabLimit fuel { g with later := g.later ++ t } c
      else some (g, c)

/-! ## Plain scalars -/

/-- Whether a plain scalar ends in front of a character, given the one after it. -/
def endsPlain (flow : Bool) (ch : Char) (next : Option Char) : Bool :=
  (ch = ':' && next.all isGap) ||
    (flow && (ch = ',' || ch = '?' || ch = '[' || ch = ']' || ch = '\x7b' || ch = '\x7d'))

def plainWord (flow : Bool) : List Char → List Char
  | [] => []
  | ch :: rest =>
    if isGap ch || endsPlain flow ch rest.head? then [] else ch :: plainWord flow rest

/-- Reads the words of a plain scalar.  `indent` is the least column of a continuation
line in block context.  The flag tells whether the scalar was followed by a line
break. -/
def plainWords (flow : Bool) (indent : Nat) :
    (fuel : Nat) → (text : List Char) → Gap → Cursor → Option (List Char × Bool × Cursor)
  | 0, text, g, c => some (text, g.first.isSome, c)
  | fuel + 1, text, g, c =>
    if c.isDocumentMarker || c.isAt '#' then some (text, g.first.isSome, c)
    else
      let word := plainWord flow c.rest
      let text := if word.isEmpty then text else text ++ g.folded ++ word
      let g := if word.isEmpty then g else {}
      let c := c.skipMany word.length
      if !c.test 0 isGap then some (text, g.first.isSome, c)
      else
        match gap indent (c.rest.length + 1) g c with
        | none => none
        | some (g, c) =>
          if !flow && c.column < indent then some (text, g.first.isSome, c)
          else plainWords flow indent fuel text g c

def plainScalar (flow : Bool) (indent : Nat) (c : Cursor) : Option (List Char × Bool × Cursor) :=
  plainWords flow indent (c.rest.length + 1) [] {} c

/-! ## Quoted scalars -/

def hexDigit? (ch : Char) : Option Nat :=
  if ch.toNat < 0x80 then Text.hexValue? ch.toNat.toUInt8 else none

def hexNumber? (n : Nat) (cs : List Char) : Option Nat :=
  let ds := cs.take n
  if ds.length = n then ds.foldlM (fun v ch => (hexDigit? ch).map (v * 16 + ·)) 0 else none

inductive Escape where
  | char (c : Char)
  /-- As many hexadecimal digits give the code point. -/
  | digits (n : Nat)

def escape? (ch : Char) : Option Escape :=
  match ch with
  | '0' => some (.char (Char.ofNat 0))
  | 'a' => some (.char (Char.ofNat 7))
  | 'b' => some (.char (Char.ofNat 8))
  | 't' => some (.char '\t')
  | '\t' => some (.char '\t')
  | 'n' => some (.char '\n')
  | 'v' => some (.char (Char.ofNat 0x0B))
  | 'f' => some (.char (Char.ofNat 0x0C))
  | 'r' => some (.char '\r')
  | 'e' => some (.char (Char.ofNat 0x1B))
  | ' ' => some (.char ' ')
  | '"' => some (.char '"')
  | '\'' => some (.char '\'')
  | '\\' => some (.char '\\')
  | 'N' => some (.char (Char.ofNat 0x85))
  | '_' => some (.char (Char.ofNat 0xA0))
  | 'L' => some (.char (Char.ofNat 0x2028))
  | 'P' => some (.char (Char.ofNat 0x2029))
  | 'x' => some (.digits 2)
  | 'u' => some (.digits 4)
  | 'U' => some (.digits 8)
  | _ => none

/-- Reads a quoted scalar up to the next blank, break, closing quote or end.  The flag
tells whether an escaped line break was read last. -/
def quotedWord (single : Bool) : (fuel : Nat) → (text : List Char) → Cursor →
    Option (List Char × Bool × Cursor)
  | 0, text, c => some (text, false, c)
  | fuel + 1, text, c =>
    match c.rest with
    | [] => some (text, false, c)
    | ch :: after =>
      if isGap ch then some (text, false, c)
      else if single then
        if ch = '\'' then
          if after.head? = some '\'' then quotedWord single fuel (text ++ ['\'']) (c.skipMany 2)
          else some (text, false, c)
        else quotedWord single fuel (text ++ [ch]) c.skip
      else if ch = '"' then some (text, false, c)
      else if ch = '\\' then
        match after with
        | [] => none
        | e :: digits =>
          if isBreak e then some (text, true, c.skip.skipBreak)
          else
            match escape? e with
            | none => none
            | some (.char v) => quotedWord single fuel (text ++ [v]) (c.skipMany 2)
            | some (.digits n) => do
              let v ← hexNumber? n digits
              let v ← Text.scalar? v
              quotedWord single fuel (text ++ [v]) (c.skipMany (2 + n))
      else quotedWord single fuel (text ++ [ch]) c.skip

def quotedWords (single : Bool) : (fuel : Nat) → (text : List Char) → Cursor → Option (List Char × Cursor)
  | 0, _, _ => none
  | fuel + 1, text, c =>
    if c.isDocumentMarker || c.atEnd then none
    else
      match quotedWord single (c.rest.length + 1) text c with
      | none => none
      | some (text, escaped, c) =>
        if c.isAt (if single then '\'' else '"') then some (text, c.skip)
        else
          match gap 0 (c.rest.length + 1) { first := if escaped then some [] else none } c with
          | none => none
          | some (g, c) => quotedWords single fuel (text ++ g.folded) c

def quotedScalar (single : Bool) (c : Cursor) : Option (List Char × Cursor) :=
  quotedWords single (c.rest.length + 1) [] c.skip

/-! ## Block scalars -/

inductive Chomping where
  | strip
  | clip
  | keep
  deriving DecidableEq, Repr

def chomping? : Char → Option Chomping
  | '+' => some .keep
  | '-' => some .strip
  | _ => none

def chomping (c : Cursor) : Chomping × Cursor :=
  match c.peek?.bind chomping? with
  | some k => (k, c.skip)
  | none => (.clip, c)

/-- An indentation indicator, which may not be zero. -/
def increment (c : Cursor) : Option (Nat × Cursor) :=
  match c.peek? with
  | some ch =>
    if '1' ≤ ch && ch ≤ '9' then some (ch.toNat - '0'.toNat, c.skip)
    else if ch = '0' then none
    else some (0, c)
  | none => some (0, c)

def blockIndicators (c : Cursor) : Option (Chomping × Nat × Cursor) :=
  match c.peek?.bind chomping? with
  | some k => do
    let (n, c) ← increment c.skip
    return (k, n, c)
  | none => do
    let (n, c) ← increment c
    if n = 0 then return (.clip, 0, c)
    let (k, c) := chomping c
    return (k, n, c)

/-- Moves past indentation and empty lines.  An `indent` of zero is yet to be found; the
widest line of blanks is kept in `widest`. -/
def blockBreaks (indent : Nat) : (fuel widest : Nat) → (breaks : List Char) → Cursor →
    Option (Nat × List Char × Cursor)
  | 0, widest, breaks, c => some (widest, breaks, c)
  | fuel + 1, widest, breaks, c =>
    let spaces := (c.rest.takeWhile (· = ' ')).length
    let c := c.skipMany (if indent = 0 then spaces else min spaces (indent - c.column))
    let widest := max widest c.column
    if (indent = 0 || c.column < indent) && c.isAt '\t' then none
    else if c.test 0 isBreak then
      let (t, c) := c.readBreak
      blockBreaks indent fuel widest (breaks ++ t) c
    else some (widest, breaks, c)

/-- Reads the lines of a block scalar at a known indentation.  `lead` is the break that
ended the line before, `breaks` the empty lines since. -/
def blockLines (literal : Bool) (indent : Nat) : (fuel : Nat) → (text lead breaks : List Char) →
    (blankBefore : Bool) → Cursor → Option (List Char × List Char × List Char × Cursor)
  | 0, text, lead, breaks, _, c => some (text, lead, breaks, c)
  | fuel + 1, text, lead, breaks, blankBefore, c =>
    if c.column ≠ indent || c.atEnd then some (text, lead, breaks, c)
    else
      let blank := c.test 0 isBlank
      let joined :=
        if !literal && !blankBefore && !blank && lead.head? = some '\n' then
          if breaks.isEmpty then [' '] else []
        else lead
      let (line, c) := c.span (!isBreak ·)
      let (lead, c) := c.readBreak
      match blockBreaks indent (c.rest.length + 1) 0 [] c with
      | none => none
      | some (_, later, c) =>
        blockLines literal indent fuel (text ++ joined ++ breaks ++ line) lead later blank c

def blockScalar (literal : Bool) (parent : Int) (c : Cursor) : Option (List Char × Cursor) := do
  let (chomp, n, c) ← blockIndicators c.skip
  let c := c.skipWhile isBlank
  let c := if c.isAt '#' then c.skipWhile (!isBreak ·) else c
  if !c.breakOrEnd then none
  let c := c.skipBreak
  let given := if n = 0 then 0 else if 0 ≤ parent then parent.toNat + n else n
  let (widest, breaks, c) ← blockBreaks given (c.rest.length + 1) 0 [] c
  let indent := if given = 0 then max (max widest (parent + 1).toNat) 1 else given
  let (text, lead, breaks, c) ← blockLines literal indent (c.rest.length + 1) [] [] breaks false c
  return (text ++ (if chomp = .strip then [] else lead) ++ (if chomp = .keep then breaks else []), c)

end Cursor
end Yaml
end FeltLowering
