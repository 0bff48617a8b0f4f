import FeltLowering.Codec.Yaml.Scalar

/-
Tokens.

Blocks are told by indentation, so the tokens that open and close them come from the
columns at which other tokens start.  A mapping key without a mark of its own is known
only when the colon behind it is met; until then the places where such a key may start
are remembered, one for each level of nested flow collections.
-/
namespace FeltLowering
namespace Yaml

inductive Token where
  | streamStart
  | streamEnd
  | version (major minor : Nat)
  | tagDirective (handle start : Text)
  | documentStart
  | documentEnd
  | blockSequenceStart
  | blockMappingStart
  | blockEnd
  | flowSequenceStart
  | flowSequenceEnd
  | flowMappingStart
  | flowMappingEnd
  | blockEntry
  | flowEntry
  | key
  | value
  | alias (name : Text)
  | anchor (name : Text)
  | tag (handle suffix : Text)
  | scalar (text : Text) (plain : Bool)
  deriving DecidableEq, Repr

/-- A place where a key without a mark may start. -/
structure SimpleKey where
  possible : Bool := false
  /-- Whether the colon must follow, since the key stands at the indentation of a
  block mapping. -/
  required : Bool := false
  /-- The number of the token the key starts with. -/
  number : Nat := 0
  index : Nat := 0
  line : Nat := 0
  column : Nat := 0
  deriving DecidableEq, Repr

structure Scanner where
  cursor : Cursor
  started : Bool := false
  /-- The column of the current block, or -1 outside of all blocks. -/
  indent : Int := -1
  /-- The columns of the blocks around the current one. -/
  indents : List Int := []
  keyAllowed : Bool := true
  /-- The key of the current flow level, and those of the levels around it. -/
  simpleKey : SimpleKey := {}
  outerKeys : List SimpleKey := []
  /-- Tokens read and not yet taken. -/
  queue : List Token := []
  /-- The number of tokens taken. -/
  taken : Nat := 0
  deriving Repr

namespace Scanner

def maxDepth : Nat := 10000

def inFlow (s : Scanner) : Bool := !s.outerKeys.isEmpty

def push (s : Scanner) (t : Token) : Scanner := { s with queue := s.queue ++ [t] }

def insertAt (s : Scanner) (number : Nat) (t : Token) : Scanner :=
  let place := number - s.taken
  { s with queue := s.queue.take place ++ t :: s.queue.drop place }

/-! ## Keys -/

/-- Forgets the key of the current level; one that was required is an error. -/
def removeKey (s : Scanner) : Option Scanner :=
  if s.simpleKey.possible && s.simpleKey.required then none
  else some { s with simpleKey := { s.simpleKey with possible := false } }

def saveKey (s : Scanner) : Option Scanner :=
  if s.keyAllowed then do
    let s ← s.removeKey
    return { s with
      simpleKey :=
        { possible := true, required := !s.inFlow && s.indent = s.cursor.column,
          number := s.taken + s.queue.length, index := s.cursor.index, line := s.cursor.line,
          column := s.cursor.column } }
  else some s

/-- Whether a key is out of reach: it must be on one line and within 1024 characters. -/
def isStale (s : Scanner) (k : SimpleKey) : Bool :=
  k.line < s.cursor.line || k.index + 1024 < s.cursor.index

/-! ## Blocks -/

/-- Opens a block at a column that lies deeper than the current one.  The token goes in
front of the one with the given number. -/
def openBlock (s : Scanner) (column : Nat) (number : Option Nat) (t : Token) : Option Scanner :=
  if s.inFlow || (column : Int) ≤ s.indent then some s
  else if maxDepth ≤ s.indents.length then none
  else
    let s := { s with indents := s.indent :: s.indents, indent := column }
    some (match number with
      | some n => s.insertAt n t
      | none => s.push t)

def closeBlocks (column : Int) : List Int → Scanner → Scanner
  | [], s => s
  | outer :: indents, s =>
    if s.indent ≤ column then s
    else closeBlocks column indents ({ s with indent := outer, indents }.push .blockEnd)

def unroll (s : Scanner) (column : Int) : Scanner :=
  if s.inFlow then s else closeBlocks column s.indents s

/-! ## Between tokens -/

/-- Moves past a comment, and past comments on the lines below it. -/
def skipComments : (fuel : Nat) → Cursor → Cursor
  | 0, c => c
  | fuel + 1, c =>
    let c := c.skipWhile (!isBreak ·)
    let ahead := (c.rest.take 512).takeWhile isGap
    if c.rest[ahead.length]? = some '#' && ahead.length < 512 then
      skipComments fuel (pastGap (ahead.length + 1) c)
    else c
where
  /-- Moves past blanks and breaks. -/
  pastGap : Nat → Cursor → Cursor
    | 0, c => c
    | fuel + 1, c =>
      if c.test 0 isBreak then pastGap fuel c.skipBreak
      else if c.test 0 isBlank then pastGap fuel c.skip
      else c

/-- Moves to the next token.  A tab is passed over where no key may start. -/
def toNextToken : (fuel : Nat) → Scanner → Scanner
  | 0, s => s
  | fuel + 1, s =>
    let c := s.cursor
    let c := if c.column = 0 && c.test 0 (·.toNat = 0xFEFF) then c.skip else c
    let c := c.skipWhile fun ch => ch = ' ' || ((s.inFlow || !s.keyAllowed) && ch = '\t')
    let c := if c.isAt '#' then skipComments (c.rest.length + 1) c else c
    if c.test 0 isBreak then
      toNextToken fuel { s with cursor := c.skipBreak, keyAllowed := s.keyAllowed || !s.inFlow }
    else { s with cursor := c }

def skipLineComment (s : Scanner) : Scanner :=
  let blanks := ((s.cursor.rest.take 512).takeWhile isBlank).length
  if !s.cursor.afterBreak && s.cursor.rest[blanks]? = some '#' && blanks < 512 then
    { s with cursor := s.cursor.skipWhile (!isBreak ·) }
  else s

/-! ## Directives, anchors and tags -/

def readNumber (c : Cursor) : Option (Nat × Cursor) :=
  let (ds, c) := c.span Char.isDigit
  if ds.isEmpty || 2 < ds.length then none
  else some (ds.foldl (fun n d => n * 10 + (d.toNat - '0'.toNat)) 0, c)

def isUriChar (ch : Char) : Bool := isWord ch || ";/?:@&=+$,.%!~*'()[]".toList.contains ch

/-- The bytes of escapes that together encode one character. -/
def readEscapes : (fuel : Nat) → (bytes : Text) → Cursor → Option (Text × Cursor)
  | 0, _, _ => none
  | fuel + 1, bytes, c =>
    if !c.isAt '%' then none
    else do
      let v ← Cursor.hexNumber? 2 c.rest.tail
      let bytes := bytes ++ [v.toUInt8]
      let c := c.skipMany 3
      let first := (bytes.headD 0).toNat
      let width :=
        if first < 0x80 then 1 else if 0xC0 ≤ first && first < 0xE0 then 2
        else if 0xE0 ≤ first && first < 0xF0 then 3 else if 0xF0 ≤ first && first < 0xF8 then 4 else 0
      if width = 0 || (1 < bytes.length && (v < 0x80 || 0xC0 ≤ v)) then none
      else if bytes.length = width then return (bytes, c)
      else readEscapes fuel bytes c

def readUri : (fuel : Nat) → (text : Text) → Cursor → Option (Text × Cursor)
  | 0, text, c => some (text, c)
  | fuel + 1, text, c =>
    match c.peek? with
    | none => some (text, c)
    | some ch =>
      if !isUriChar ch then some (text, c)
      else if ch = '%' then do
        let (bytes, c) ← readEscapes 4 [] c
        readUri fuel (text ++ bytes) c
      else readUri fuel (text ++ Text.ofChar ch) c.skip

def readHandle (c : Cursor) : Option (Text × Cursor) :=
  if !c.isAt '!' then none
  else
    let (word, c) := c.skip.span isWord
    if c.isAt '!' then some (Text.ofChars ('!' :: word ++ ['!']), c.skip)
    else some (Text.ofChars ('!' :: word), c)

def readTag (c : Cursor) : Option (Token × Cursor) := do
  let (t, c) ←
    if c.peekAt? 1 = some '<' then do
      let c := c.skipMany 2
      let (uri, after) ← readUri (c.rest.length + 1) [] c
      if after.index = c.index || !after.isAt '>' then none
      else some (Token.tag [] uri, after.skip)
    else do
      let (handle, c) ← readHandle c
      if 1 < handle.length && handle.getLast? = some 0x21 then
        let (suffix, after) ← readUri (c.rest.length + 1) [] c
        if after.index = c.index then none else some (Token.tag handle suffix, after)
      else
        let (suffix, c) ← readUri (c.rest.length + 1) (handle.drop 1) c
        if suffix.isEmpty then some (Token.tag [] handle, c) else some (Token.tag "!" suffix, c)
  if c.gapOrEnd 0 then some (t, c) else none

def readAnchor (c : Cursor) : Option (Text × Cursor) :=
  let (name, c) := c.skip.span isWord
  if name.isEmpty || !(c.gapOrEnd 0 || c.test 0 ("?:,]\x7d%@\x60".toList.contains ·)) then none
  else some (Text.ofChars name, c)

def readVersion (c : Cursor) : Option (Token × Cursor) := do
  let (major, c) ← readNumber (c.skipWhile isBlank)
  if !c.isAt '.' then none
  else
    let (minor, c) ← readNumber c.skip
    return (.version major minor, c)

def readTagDirective (c : Cursor) : Option (Token × Cursor) := do
  let (handle, c) ← readHandle (c.skipWhile isBlank)
  if handle ≠ Text.ofString "!" && handle.getLast? ≠ some 0x21 then none
  else if !c.test 0 isBlank then none
  else
    let c := c.skipWhile isBlank
    let (start, after) ← readUri (c.rest.length + 1) [] c
    if after.index = c.index || !after.gapOrEnd 0 then none
    else return (.tagDirective handle start, after)

def readDirective (c : Cursor) : Option (Token × Cursor) := do
  let (name, c) := c.skip.span isWord
  if name.isEmpty || !c.gapOrEnd 0 then none
  else
    let (t, c) ←
      if name = "YAML".toList then readVersion c
      else if name = "TAG".toList then readTagDirective c
      else none
    let c := c.skipWhile isBlank
    let c := if c.isAt '#' then c.skipWhile (!isBreak ·) else c
    if c.breakOrEnd then return (t, c.skipBreak) else none

/-! ## Fetching -/

def move (s : Scanner) (n : Nat) : Scanner := { s with cursor := s.cursor.skipMany n }

/-- Ends all blocks in front of something that belongs to no block. -/
def outsideBlocks (s : Scanner) : Option Scanner := do
  let s ← (s.unroll (-1)).removeKey
  return { s with keyAllowed := false }

def fetchStreamEnd (s : Scanner) : Option Scanner := do
  let c := s.cursor
  let c := if c.column = 0 then c else { c with column := 0, line := c.line + 1 }
  let s ← { s with cursor := c }.outsideBlocks
  return s.push .streamEnd

def fetchDirective (s : Scanner) : Option Scanner := do
  let s ← s.outsideBlocks
  let (t, c) ← readDirective s.cursor
  return { s with cursor := c }.push t

def fetchMarker (s : Scanner) (t : Token) : Option Scanner := do
  let s ← s.outsideBlocks
  return (s.move 3).push t

def fetchFlowStart (s : Scanner) (t : Token) : Option Scanner := do
  let s ← s.saveKey
  if maxDepth ≤ s.outerKeys.length then none
  else
    let s := { s with simpleKey := {}, outerKeys := s.simpleKey :: s.outerKeys, keyAllowed := true }
    return (s.move 1).push t

def fetchFlowEnd (s : Scanner) (t : Token) : Option Scanner := do
  let s ← s.removeKey
  let s :=
    match s.outerKeys with
    | [] => s
    | k :: rest => { s with simpleKey := k, outerKeys := rest }
  return ({ s with keyAllowed := false }.move 1).push t

def fetchFlowEntry (s : Scanner) : Option Scanner := do
  let s ← s.removeKey
  return ({ s with keyAllowed := true }.move 1).push .flowEntry

def fetchBlockEntry (s : Scanner) : Option Scanner := do
  if !s.inFlow && !s.keyAllowed then none
  else
    let s ← s.openBlock s.cursor.column none .blockSequenceStart
    let s ← s.removeKey
    return ({ s with keyAllowed := true }.move 1).push .blockEntry

def fetchKey (s : Scanner) : Option Scanner := do
  if !s.inFlow && !s.keyAllowed then none
  else
    let s ← s.openBlock s.cursor.column none .blockMappingStart
    let s ← s.removeKey
    return ({ s with keyAllowed := !s.inFlow }.move 1).push .key

/-- A colon makes a key of what stands in front of it, if a key may start there. -/
def fetchValue (s : Scanner) : Option Scanner := do
  let k := s.simpleKey
  if k.possible && !s.isStale k then
    let s ← (s.insertAt k.number .key).openBlock k.column (some k.number) .blockMappingStart
    let s := { s with simpleKey := { k with possible := false }, keyAllowed := false }
    return (s.move 1).push .value
  else if k.possible && k.required then none
  else if !s.inFlow && !s.keyAllowed then none
  else
    let s := { s with simpleKey := { k with possible := false } }
    let s ← s.openBlock s.cursor.column none .blockMappingStart
    return ({ s with keyAllowed := !s.inFlow }.move 1).push .value

def fetchAnchor (s : Scanner) (make : Text → Token) : Option Scanner := do
  let s ← s.saveKey
  let (name, c) ← readAnchor s.cursor
  return { s with cursor := c, keyAllowed := false }.push (make name)

def fetchTag (s : Scanner) : Option Scanner := do
  let s ← s.saveKey
  let (t, c) ← readTag s.cursor
  return { s with cursor := c, keyAllowed := false }.push t

def fetchBlockScalar (s : Scanner) (literal : Bool) : Option Scanner := do
  let s ← s.removeKey
  let (text, c) ← Cursor.blockScalar literal s.indent s.cursor
  return { s with cursor := c, keyAllowed := true }.push (.scalar (Text.ofChars text) false)

def fetchQuoted (s : Scanner) (single : Bool) : Option Scanner := do
  let s ← s.saveKey
  let (text, c) ← Cursor.quotedScalar single s.cursor
  return { s with cursor := c, keyAllowed := false }.push (.scalar (Text.ofChars text) false)

def fetchPlain (s : Scanner) : Option Scanner := do
  let s ← s.saveKey
  let (text, broken, c) ← Cursor.plainScalar s.inFlow (s.indent + 1).toNat s.cursor
  return { s with cursor := c, keyAllowed := broken }.push (.scalar (Text.ofChars text) true)

/-- Whether a plain scalar may start with a character.  A dash, a question mark and a
colon may, if no gap follows; the last two in block context only. -/
def startsPlain (s : Scanner) (ch : Char) : Bool :=
  if ch = '-' then !s.cursor.test 1 isBlank
  else if ch = '?' || ch = ':' then !s.inFlow && !s.cursor.gapOrEnd 1
  else !isGap ch && !",[]\x7b\x7d#&*!|>'\"%@\x60".toList.contains ch

def fetchFrom (s : Scanner) (ch : Char) : Option Scanner :=
  let gapNext := s.cursor.gapOrEnd 1
  if ch = '[' then s.fetchFlowStart .flowSequenceStart
  else if ch = '\x7b' then s.fetchFlowStart .flowMappingStart
  else if ch = ']' then s.fetchFlowEnd .flowSequenceEnd
  else if ch = '\x7d' then s.fetchFlowEnd .flowMappingEnd
  else if ch = ',' then s.fetchFlowEntry
  else if ch = '-' && gapNext then s.fetchBlockEntry
  else if ch = '?' && (s.inFlow || gapNext) then s.fetchKey
  else if ch = ':' && (s.inFlow || gapNext) then s.fetchValue
  else if ch = '*' then s.fetchAnchor .alias
  else if ch = '&' then s.fetchAnchor .anchor
  else if ch = '!' then s.fetchTag
  else if ch = '|' && !s.inFlow then s.fetchBlockScalar true
  else if ch = '>' && !s.inFlow then s.fetchBlockScalar false
  else if ch = '\'' then s.fetchQuoted true
  else if ch = '"' then s.fetchQuoted false
  else if s.startsPlain ch then s.fetchPlain
  else none

/-- Reads one more token, and those that its column brings with it. -/
def fetch (s : Scanner) : Option Scanner :=
  if !s.started then some ({ s with started := true }.push .streamStart)
  else
    let s := toNextToken (s.cursor.rest.length + 1) s
    let s := s.unroll s.cursor.column
    match s.cursor.peek? with
    | none => s.fetchStreamEnd
    | some ch =>
      if s.cursor.column = 0 && ch = '%' then s.fetchDirective
      else if s.cursor.isMarker '-' then s.fetchMarker .documentStart
      else if s.cursor.isMarker '.' then s.fetchMarker .documentEnd
      else do
        let s ← s.fetchFrom ch
        return if s.queue.getLast? = some .blockEntry then s else s.skipLineComment

/-- The key that starts at the first token in the queue, if it may still be one. -/
def headKey? (s : Scanner) : Option SimpleKey :=
  (s.simpleKey :: s.outerKeys).find? fun k => k.possible && k.number = s.taken

/-- Reads tokens until the first in the queue can be taken: two more stand behind it,
and it is known whether it starts a key. -/
def fill : (fuel : Nat) → Scanner → Option Scanner
  | 0, _ => none
  | fuel + 1, s =>
    if 2 < s.queue.length then
      match s.headKey? with
      | none => some s
      | some k =>
        if s.isStale k then (if k.required then none else some s)
        else s.fetch.bind (fill fuel)
    else s.fetch.bind (fill fuel)

def peek (s : Scanner) : Option (Token × Scanner) := do
  let s ← fill (s.cursor.rest.length + 8) s
  let t ← s.queue.head?
  return (t, s)

def drop (s : Scanner) : Scanner := { s with queue := s.queue.tail, taken := s.taken + 1 }

end Scanner
end Yaml
end FeltLowering
