import FeltLowering.Codec.Json

/-
Reading JSON.

The reader takes the first value of a text and leaves what follows it.  Values may be
nested to a fixed depth.  Bytes of a string that are no valid UTF-8, and halves of a
surrogate pair that stand alone, read as the replacement character.
-/
namespace FeltLowering
namespace Json

def maxDepth : Nat := 10000

def isSpace (b : UInt8) : Bool := b = 0x20 || b = 0x09 || b = 0x0D || b = 0x0A

def skipSpace (t : Text) : Text := t.dropWhile isSpace

def hex4? (a b c d : UInt8) : Option Nat := do
  let a ← Text.hexValue? a
  let b ← Text.hexValue? b
  let c ← Text.hexValue? c
  let d ← Text.hexValue? d
  return ((a * 16 + b) * 16 + c) * 16 + d

def unescape? (b : UInt8) : Option UInt8 :=
  match b with
  | 0x22 => some 0x22
  | 0x5C => some 0x5C
  | 0x2F => some 0x2F
  | 0x62 => some 0x08
  | 0x66 => some 0x0C
  | 0x6E => some 0x0A
  | 0x72 => some 0x0D
  | 0x74 => some 0x09
  | _ => none

def replacement : Text := Text.ofChar (Char.ofNat 0xFFFD)

/-- A high surrogate that found no partner. -/
def lone (high : Option Nat) : Text := if high.isSome then replacement else []

/-- Reads the rest of a string after its opening quote.  `high` is a high surrogate just
read, which waits for its partner. -/
def readString (high : Option Nat) : Text → Option (Text × Text)
  | [] => none
  | 0x22 :: rest => some (lone high, rest)
  | 0x5C :: 0x75 :: a :: b :: c :: d :: rest => do
    let n ← hex4? a b c d
    if 0xDC00 ≤ n && n < 0xE000 then
      match high with
      | some h =>
        let (t, rest) ← readString none rest
        return (Text.ofChar (Char.ofNat (0x10000 + (h - 0xD800) * 1024 + (n - 0xDC00))) ++ t, rest)
      | none =>
        let (t, rest) ← readString none rest
        return (replacement ++ t, rest)
    else if 0xD800 ≤ n && n < 0xDC00 then
      let (t, rest) ← readString (some n) rest
      return (lone high ++ t, rest)
    else
      let (t, rest) ← readString none rest
      return (lone high ++ Text.ofChar (Char.ofNat n) ++ t, rest)
  | 0x5C :: e :: rest => do
    let b ← unescape? e
    let (t, rest) ← readString none rest
    return (lone high ++ b :: t, rest)
  | b :: rest =>
    if b < 0x20 || b = 0x5C then none
    else do
      let (t, rest) ← readString none rest
      return (lone high ++ b :: t, rest)

/-- The text with every stray byte replaced. -/
def repair (t : Text) : Text := Text.ofChars t.chars

def readDigits (t : Text) : Option (Text × Text) :=
  match t.span Text.isDigit with
  | ([], _) => none
  | (ds, rest) => some (ds, rest)

/-- The whole part of a number: a zero, or digits that start with none. -/
def readWhole : Text → Option (Text × Text)
  | 0x30 :: rest => some ([0x30], rest)
  | t => readDigits t

def readFraction : Text → Option (Text × Text)
  | 0x2E :: rest => do
    let (ds, rest) ← readDigits rest
    return (0x2E :: ds, rest)
  | t => some ([], t)

def readExponent : Text → Option (Text × Text)
  | e :: rest =>
    if e = 0x65 || e = 0x45 then
      let (sign, rest) := match rest with
        | 0x2B :: rest => ([0x2B], rest)
        | 0x2D :: rest => ([0x2D], rest)
        | rest => (([] : Text), rest)
      do
        let (ds, rest) ← readDigits rest
        return (e :: sign ++ ds, rest)
    else some ([], e :: rest)
  | [] => some ([], [])

def readNumber (t : Text) : Option (Text × Text) := do
  let (sign, t) := match t with
    | 0x2D :: rest => (([0x2D] : Text), rest)
    | t => ([], t)
  let (whole, t) ← readWhole t
  let (fraction, t) ← readFraction t
  let (exponent, t) ← readExponent t
  return (sign ++ whole ++ fraction ++ exponent, t)

def readWord (word : Text) (v : Json) (t : Text) : Option (Json × Text) :=
  if t.startsWith word then some (v, t.drop word.length) else none

mutual

/-- Reads a value at the start of a text.  `depth` counts the levels still allowed. -/
def readValue : (fuel depth : Nat) → Text → Option (Json × Text)
  | 0, _, _ => none
  | fuel + 1, depth, t =>
    match skipSpace t with
    | [] => none
    | b :: rest =>
      if b = 0x7B then
        match depth, skipSpace rest with
        | 0, _ => none
        | _, 0x7D :: rest => some (.object [], rest)
        | depth + 1, rest => do
          let (ms, rest) ← readMembers fuel depth rest
          return (.object ms, rest)
      else if b = 0x5B then
        match depth, skipSpace rest with
        | 0, _ => none
        | _, 0x5D :: rest => some (.array [], rest)
        | depth + 1, rest => do
          let (xs, rest) ← readElements fuel depth rest
          return (.array xs, rest)
      else if b = 0x22 then do
        let (t, rest) ← readString none rest
        return (.string (repair t), rest)
      else if b = 0x74 then readWord "true" (.bool true) (b :: rest)
      else if b = 0x66 then readWord "false" (.bool false) (b :: rest)
      else if b = 0x6E then readWord "null" .null (b :: rest)
      else do
        let (t, rest) ← readNumber (b :: rest)
        return (.number t, rest)

/-- Reads the elements of an array that has some, with the closing bracket. -/
def readElements : (fuel depth : Nat) → Text → Option (List Json × Text)
  | 0, _, _ => none
  | fuel + 1, depth, t => do
    let (x, rest) ← readValue fuel depth t
    match skipSpace rest with
    | 0x5D :: rest => return ([x], rest)
    | 0x2C :: rest =>
      let (xs, rest) ← readElements fuel depth rest
      return (x :: xs, rest)
    | _ => none

def readMembers : (fuel depth : Nat) → Text → Option (List (Text × Json) × Text)
  | 0, _, _ => none
  | fuel + 1, depth, t =>
    match skipSpace t with
    | 0x22 :: rest => do
      let (k, rest) ← readString none rest
      match skipSpace rest with
      | 0x3A :: rest =>
        let (v, rest) ← readValue fuel depth rest
        match skipSpace rest with
        | 0x7D :: rest => return ([(repair k, v)], rest)
        | 0x2C :: rest =>
          let (ms, rest) ← readMembers fuel depth rest
          return ((repair k, v) :: ms, rest)
        | _ => none
      | _ => none
    | _ => none

end

/-- The first value of a text.  Every call of the reader takes a byte before it calls
again at the same depth, so twice the length is fuel enough. -/
def parseFirst? (t : Text) : Option Json :=
  (readValue (2 * t.length + 2) maxDepth t).map Prod.fst

end Json
end FeltLowering
