import FeltLowering.Text

/-
Reading a text as characters.

A text is cut into pieces: the longest valid UTF-8 encoding of one scalar value
where there is one, and otherwise a single stray byte.  Every text has exactly
one such cut, and the pieces joined again give the text back.
-/
namespace FeltLowering
namespace Text

/-- One piece of a text: a scalar value, or a byte that starts no valid encoding. -/
inductive Piece where
  | scalar (c : Char)
  | stray (b : UInt8)
  deriving DecidableEq, Repr

namespace Piece

def bytes : Piece → Text
  | .scalar c => ofChar c
  | .stray b => [b]

end Piece

def continuation? (b : UInt8) : Option Nat :=
  if 0x80 ≤ b && b ≤ 0xBF then some (b.toNat - 0x80) else none

def scalar? (n : Nat) : Option Char :=
  if n < 0xD800 || (0xDFFF < n && n < 0x110000) then some (Char.ofNat n) else none

/-- The scalar value encoded by the first two, three or four bytes, where the
encoding is the shortest one. -/
def multibyte? : Text → Option (Char × Text)
  | b0 :: rest =>
    if 0xC2 ≤ b0 && b0 ≤ 0xDF then
      match rest with
      | b1 :: rest => do
        let x1 ← continuation? b1
        let c ← scalar? ((b0.toNat - 0xC0) * 64 + x1)
        return (c, rest)
      | [] => none
    else if 0xE0 ≤ b0 && b0 ≤ 0xEF then
      match rest with
      | b1 :: b2 :: rest => do
        let x1 ← continuation? b1
        let x2 ← continuation? b2
        let n := (b0.toNat - 0xE0) * 4096 + x1 * 64 + x2
        if n < 0x800 then none
        let c ← scalar? n
        return (c, rest)
      | _ => none
    else if 0xF0 ≤ b0 && b0 ≤ 0xF4 then
      match rest with
      | b1 :: b2 :: b3 :: rest => do
        let x1 ← continuation? b1
        let x2 ← continuation? b2
        let x3 ← continuation? b3
        let n := (b0.toNat - 0xF0) * 262144 + x1 * 4096 + x2 * 64 + x3
        if n < 0x10000 then none
        let c ← scalar? n
        return (c, rest)
      | _ => none
    else none
  | [] => none

def next? : Text → Option (Piece × Text)
  | [] => none
  | b :: rest =>
    if b < 0x80 then some (.scalar (Char.ofNat b.toNat), rest)
    else match multibyte? (b :: rest) with
      | some (c, rest) => some (.scalar c, rest)
      | none => some (.stray b, rest)

theorem multibyte?_length {t rest : Text} {c : Char} (h : multibyte? t = some (c, rest)) :
    rest.length < t.length := by
  match t with
  | [] => simp [multibyte?] at h
  | b0 :: t =>
    simp only [multibyte?] at h
    split at h
    · split at h
      · simp only [Option.bind_eq_bind, Option.bind_eq_some_iff] at h
        obtain ⟨_, _, _, _, h⟩ := h
        cases h
        simp only [List.length_cons]
        omega
      · cases h
    · split at h
      · split at h
        · simp only [Option.bind_eq_bind, Option.bind_eq_some_iff] at h
          obtain ⟨_, _, _, _, h⟩ := h
          split at h
          · simp at h
          · simp only [Option.pure_def, Option.bind_eq_some_iff] at h
            obtain ⟨_, _, h⟩ := h
            cases h
            simp only [List.length_cons]
            omega
        · cases h
      · split at h
        · split at h
          · simp only [Option.bind_eq_bind, Option.bind_eq_some_iff] at h
            obtain ⟨_, _, _, _, _, _, h⟩ := h
            split at h
            · simp at h
            · simp only [Option.pure_def, Option.bind_eq_some_iff] at h
              obtain ⟨_, _, h⟩ := h
              cases h
              simp only [List.length_cons]
              omega
          · cases h
        · cases h

theorem next?_length {t rest : Text} {p : Piece} (h : next? t = some (p, rest)) :
    rest.length < t.length := by
  match t with
  | [] => simp [next?] at h
  | b :: t =>
    simp only [next?] at h
    split at h
    · cases h; simp
    · split at h
      · next hm => cases h; exact multibyte?_length hm
      · cases h; simp

def pieces (t : Text) : List Piece :=
  match _h : next? t with
  | none => []
  | some (p, rest) => p :: pieces rest
termination_by t.length
decreasing_by exact next?_length _h

/-- Whether a text is valid UTF-8, that is, has no stray byte. -/
def isValid (t : Text) : Bool :=
  t.pieces.all fun
    | .scalar _ => true
    | .stray _ => false

/-- The characters of a text, each stray byte shown as the replacement character. -/
def chars (t : Text) : List Char :=
  t.pieces.map fun
    | .scalar c => c
    | .stray _ => Char.ofNat 0xFFFD

def chars? (t : Text) : Option (List Char) :=
  t.pieces.mapM fun
    | .scalar c => some c
    | .stray _ => none

def ofChars (cs : List Char) : Text := cs.flatMap ofChar

end Text
end FeltLowering
