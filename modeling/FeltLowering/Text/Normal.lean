import FeltLowering.Text.Utf8
import FeltLowering.Text.Normal.CombiningClass
import FeltLowering.Text.Normal.Decomposition
import FeltLowering.Text.Normal.Composition
import FeltLowering.Text.Normal.Modifiers

/-
Canonical composition of a text (normalization form C of Unicode 15).

A text is composed segment by segment.  A segment is a starter with the modifiers
that follow it; it is decomposed, its modifiers are sorted by combining class, and
it is composed again.  A text that is already composed is left as it is, bytes that
are no valid UTF-8 are kept, and a run of more than `maxModifiers` modifiers that
has to be changed is broken by a combining grapheme joiner, so a segment never
grows without bound.
-/
namespace FeltLowering
namespace Text
namespace Normal

def maxModifiers : Nat := 30

/-- The code point that breaks a run of modifiers. -/
def graphemeJoiner : Nat := 0x34F

def isHangul (c : Nat) : Bool := 0xAC00 ≤ c && c ≤ 0xD7A3

def isJamo (c : Nat) : Bool := 0x1100 ≤ c && c ≤ 0x11FF

def decompose (c : Nat) : List Nat :=
  if isHangul c then
    let s := c - 0xAC00
    let l := 0x1100 + s / 588
    let v := 0x1161 + s % 588 / 28
    if s % 28 = 0 then [l, v] else [l, v, 0x11A7 + s % 28]
  else (decomposition? c).getD [c]

structure Info where
  /-- Modifiers at the start of the decomposition. -/
  lead : Nat
  /-- Modifiers at the end of the decomposition. -/
  trail : Nat
  /-- The combining class the decomposition starts with. -/
  rank : Nat
  /-- A composed text may hold the character wherever it stands. -/
  stable : Bool

/-- Characters that combine with the one before them count as modifiers. -/
def isModifier (c : Nat) : Bool := combiningClass c != 0 || combinesBackward c

def Info.of (c : Nat) : Info :=
  if c < 0xA8 then ⟨0, 0, 0, true⟩
  else if isHangul c then ⟨0, if (c - 0xAC00) % 28 = 0 then 1 else 2, 0, true⟩
  else
    let d := decompose c
    let (lead, trail) := (compatibilityModifiers? c).getD
      ((d.takeWhile isModifier).length, (d.reverse.takeWhile isModifier).length)
    let composes := match decomposition? c with
      | none => true
      | some d => match d.getLast? with
        | none => true
        | some last => (((findKey? compositions last).getD []).any fun row => row.2 = c)
    ⟨lead, trail, combiningClass (d.headD c), composes && !combinesBackward c⟩

/-- A stray byte stands for itself and combines with nothing. -/
def Info.ofPiece : Piece → Info
  | .scalar c => .of c.toNat
  | .stray _ => ⟨0, 0, 0, true⟩

def announced (b : UInt8) : Nat :=
  if b < 0xC2 then 1 else if b < 0xE0 then 2 else if b < 0xF0 then 3 else if b < 0xF8 then 4 else 1

/-- The pieces of a text up to an encoding that the end of the text cuts short, and
the text from there on. -/
def complete (t : Text) : List Piece × Text :=
  match _h : next? t with
  | none => ([], [])
  | some (p, rest) =>
    if (t.drop (announced (t.headD 0) - 1)).isEmpty then ([], t)
    else
      let (ps, tail) := complete rest
      (p :: ps, tail)
termination_by t.length
decreasing_by exact next?_length _h

inductive Step where
  | starter
  | modifier
  | overflow

def step (run : Nat) (i : Info) : Step × Nat :=
  if run + i.lead > maxModifiers then (.overflow, 0)
  else if i.lead = 0 then (.starter, i.trail)
  else (.modifier, run + i.lead)

/-- The length of the composed beginning of a text, up to the last starter in front
of the first character that may have to change, and whether that is all of it.
`at'` counts the pieces passed and `start` is the last starter among them. -/
def composedSpan (ps : List Piece) (at' start run rank : Nat) : Nat × Bool :=
  match ps with
  | [] => (at', true)
  | p :: rest =>
    let i := Info.ofPiece p
    let go (start run : Nat) :=
      if i.stable then composedSpan rest (at' + 1) start run i.rank else (start, false)
    match step run i with
    | (.overflow, _) => (start, false)
    | (.starter, run) => go at' run
    | (.modifier, run) => if rank > i.rank then (start, false) else go start run

structure Mark where
  bytes : Text
  code : Nat
  rank : Nat

def Mark.ofCode (c : Nat) : Mark := ⟨ofChar (Char.ofNat c), c, combiningClass c⟩

/-- Inserts a mark behind the marks of lower or equal class; `marks` is in reverse. -/
def insertMark (m : Mark) : List Mark → List Mark
  | [] => [m]
  | last :: before => if m.rank = 0 || last.rank ≤ m.rank then m :: last :: before
    else last :: insertMark m before

def composeHangul? (l v : Nat) : Option Nat :=
  if 0x1100 ≤ l && l < 0x1113 && 0x1161 ≤ v && v < 0x1176 then
    some (0xAC00 + (l - 0x1100) * 588 + (v - 0x1161) * 28)
  else if isHangul l && (l - 0xAC00) % 28 = 0 && 0x11A7 < v && v < 0x11C3 then
    some (l + (v - 0x11A7))
  else none

/-- Composes a segment.  `done` holds, in reverse, the marks after the starter `base`
that could not be composed with it, and `front` the starters before it. -/
def composeMarks (front : List Mark) (base : Mark) (done : List Mark) (hangul : Bool) :
    List Mark → List Mark
  | [] => front.reverse ++ base :: done.reverse
  | m :: rest =>
    let hangul := hangul || isJamo m.code
    let last := done.headD base
    -- A starter that stayed in place becomes the base of what follows it.
    let renew := last.rank = 0 && !done.isEmpty && (hangul || combinesBackward m.code)
    let front := if renew then done.drop 1 ++ base :: front else front
    let base := if renew then last else base
    let done := if renew then [] else done
    let blocked := !done.isEmpty && m.rank ≤ last.rank
    let composite :=
      if blocked then none
      else if hangul then composeHangul? base.code m.code
      else if combinesBackward m.code then compose? base.code m.code
      else none
    match composite with
    | some c => composeMarks front ⟨ofChar (Char.ofNat c), c, 0⟩ done hangul rest
    | none => composeMarks front base (m :: done) hangul rest

def flush (marks : List Mark) : Text :=
  match marks.reverse with
  | [] => []
  | base :: rest => (composeMarks [] base [] false rest).flatMap Mark.bytes

/-- Adds a character to a segment.  A decomposition that holds a second starter closes
the segment before it. -/
def addPiece (out : Text) (marks : List Mark) : Piece → Text × List Mark
  | .stray b => (out, insertMark ⟨[b], 0xFFFD, 0⟩ marks)
  | .scalar c =>
    if isHangul c.toNat then (out, (decompose c.toNat).foldl (fun ms d => Mark.ofCode d :: ms) marks)
    else match decomposition? c.toNat with
      | none => (out, insertMark (.ofCode c.toNat) marks)
      | some d => d.foldl (fun (out, marks) d =>
          if !isModifier d && !marks.isEmpty then (out ++ flush marks, [Mark.ofCode d])
          else (out, insertMark (.ofCode d) marks)) (out, marks)

/-- Composes the first segment: its text, the length of the run it leaves open, and the
pieces after it. -/
def segment (out : Text) (marks : List Mark) (run : Nat) : List Piece → Text × Nat × List Piece
  | [] => (out ++ flush marks, run, [])
  | p :: rest =>
    match step run (.ofPiece p) with
    | (.overflow, run) => (out ++ flush (Mark.ofCode graphemeJoiner :: marks), run, p :: rest)
    | (.starter, run) =>
      if marks.isEmpty then
        let (out, marks) := addPiece out marks p
        segment out marks run rest
      else (out ++ flush marks, run, p :: rest)
    | (.modifier, run) =>
      let (out, marks) := addPiece out marks p
      segment out marks run rest

/-- Composes a text segment by segment, skipping what is composed already.  Two rounds
pass at least one piece, which bounds the rounds by twice the length. -/
def composeAll : (rounds : Nat) → (run : Nat) → List Piece → Text
  | 0, _, ps => ps.flatMap Piece.bytes
  | _ + 1, _, [] => []
  | rounds + 1, run, ps =>
    let (out, run, rest) := segment [] [] run ps
    let span := (composedSpan rest 0 0 0 0).1
    out ++ (rest.take span).flatMap Piece.bytes ++ composeAll rounds run (rest.drop span)

end Normal

def normalize (t : Text) : Text :=
  let (ps, tail) := Normal.complete t
  match Normal.composedSpan ps 0 0 0 0 with
  | (_, true) => t
  | (span, false) =>
    (ps.take span).flatMap Piece.bytes
      ++ Normal.composeAll (2 * ps.length + 2) 0 (ps.drop span) ++ tail

end Text
end FeltLowering
