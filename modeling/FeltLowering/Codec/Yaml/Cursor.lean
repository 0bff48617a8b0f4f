import FeltLowering.Text.Utf8

/-
A place in a YAML stream: the characters ahead, and the line and column reached.
-/
namespace FeltLowering
namespace Yaml

def isBlank (c : Char) : Bool := c = ' ' || c = '\t'

def isBreak (c : Char) : Bool :=
  c = '\r' || c = '\n' || c.toNat = 0x85 || c.toNat = 0x2028 || c.toNat = 0x2029

def isGap (c : Char) : Bool := isBlank c || isBreak c

def isWord (c : Char) : Bool :=
  ('0' ≤ c && c ≤ '9') || ('A' ≤ c && c ≤ 'Z') || ('a' ≤ c && c ≤ 'z') || c = '_' || c = '-'

structure Cursor where
  rest : List Char
  index : Nat := 0
  line : Nat := 0
  column : Nat := 0
  /-- Whether nothing but blanks has been read since the last line break. -/
  afterBreak : Bool := false
  deriving DecidableEq, Repr

namespace Cursor

def peek? (c : Cursor) : Option Char := c.rest.head?

def peekAt? (c : Cursor) (n : Nat) : Option Char := c.rest[n]?

def isAt (c : Cursor) (ch : Char) : Bool := c.peek? = some ch

def atEnd (c : Cursor) : Bool := c.rest.isEmpty

/-- Whether the character `n` places ahead satisfies a test; the end of the stream does
not. -/
def test (c : Cursor) (n : Nat) (p : Char → Bool) : Bool := (c.peekAt? n).any p

/-- Whether a blank, a line break or the end is `n` places ahead. -/
def gapOrEnd (c : Cursor) (n : Nat) : Bool := (c.peekAt? n).all isGap

def breakOrEnd (c : Cursor) : Bool := c.peek?.all isBreak

def skip (c : Cursor) : Cursor :=
  { c with
    rest := c.rest.tail, index := c.index + 1, column := c.column + 1
    afterBreak := c.afterBreak && c.test 0 isBlank }

def skipMany : Nat → Cursor → Cursor
  | 0, c => c
  | n + 1, c => skipMany n c.skip

def skipWhile (p : Char → Bool) (c : Cursor) : Cursor := skipMany (c.rest.takeWhile p).length c

/-- The characters ahead that satisfy a test, and the place behind them. -/
def span (p : Char → Bool) (c : Cursor) : List Char × Cursor :=
  (c.rest.takeWhile p, c.skipWhile p)

/-- Moves past a line break and gives the break as it counts in a scalar: a line feed,
unless it is a line or paragraph separator. -/
def readBreak (c : Cursor) : List Char × Cursor :=
  let next (n : Nat) : Cursor :=
    { rest := c.rest.drop n, index := c.index + n, line := c.line + 1, column := 0, afterBreak := true }
  match c.rest with
  | '\r' :: '\n' :: _ => (['\n'], next 2)
  | ch :: _ =>
    if !isBreak ch then ([], c)
    else if ch.toNat = 0x2028 || ch.toNat = 0x2029 then ([ch], next 1)
    else (['\n'], next 1)
  | [] => ([], c)

def skipBreak (c : Cursor) : Cursor := c.readBreak.2

def isMarker (c : Cursor) (ch : Char) : Bool :=
  c.column = 0 && c.isAt ch && c.peekAt? 1 = some ch && c.peekAt? 2 = some ch && c.gapOrEnd 3

def isDocumentMarker (c : Cursor) : Bool := c.isMarker '-' || c.isMarker '.'

end Cursor
end Yaml
end FeltLowering
