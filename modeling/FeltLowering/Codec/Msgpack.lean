import FeltLowering.Power
import FeltLowering.Text

/-
MessagePack wire forms.

Writing takes the shortest form of a length.  Reading accepts every form a length or
an integer can take, and `nil` for a zero, for an empty text and for an absent list.
-/
namespace FeltLowering
namespace Msgpack

/-! ## Writing -/

/-- The lowest `n` bytes of a number, the highest of them first. -/
def bigEndian : (n : Nat) → Nat → Text
  | 0, _ => []
  | n + 1, v => bigEndian n (v / 256) ++ [(v % 256).toUInt8]

def nil : Text := [0xC0]

def writeId (v : UInt64) : Text := 0xCF :: bigEndian 8 v.toNat

def textHeader (n : Nat) : Text :=
  if n < 32 then [(0xA0 + n).toUInt8]
  else if n < 256 then 0xD9 :: bigEndian 1 n
  else if n < 65536 then 0xDA :: bigEndian 2 n
  else 0xDB :: bigEndian 4 n

def writeText (t : Text) : Text := textHeader t.length ++ t

def arrayHeader (n : Nat) : Text :=
  if n < 16 then [(0x90 + n).toUInt8]
  else if n < 65536 then 0xDC :: bigEndian 2 n
  else 0xDD :: bigEndian 4 n

def mapHeader (n : Nat) : Text :=
  if n < 16 then [(0x80 + n).toUInt8]
  else if n < 65536 then 0xDE :: bigEndian 2 n
  else 0xDF :: bigEndian 4 n

/-- A record: a map from field names to written values. -/
def writeRecord (fields : List (Text × Text)) : Text :=
  mapHeader fields.length ++ fields.flatMap fun (k, v) => writeText k ++ v

def writeList (elements : List Text) : Text := arrayHeader elements.length ++ elements.flatten

/-! ## Reading -/

abbrev Reader := StateT Text Option

def byte : Reader UInt8 := fun
  | [] => none
  | b :: rest => some (b, rest)

def splitExact : Nat → Text → Option (Text × Text)
  | 0, t => some ([], t)
  | _ + 1, [] => none
  | n + 1, b :: t => (splitExact n t).map fun (front, rest) => (b :: front, rest)

def bytes (n : Nat) : Reader Text := splitExact n

def ofBigEndian (t : Text) : Nat := t.foldl (fun n b => n * 256 + b.toNat) 0

def unsigned (n : Nat) : Reader Nat := ofBigEndian <$> bytes n

def signed (n : Nat) : Reader Int := do
  let v ← unsigned n
  return if v < twoPow (8 * n - 1) then v else (v : Int) - twoPow (8 * n)

/-- An integer of any form, taken modulo 2^64. -/
def readId : Reader UInt64 := do
  let c ← byte
  if c = 0xC0 then return 0
  else if c < 0x80 then return c.toUInt64
  else if 0xE0 ≤ c then return UInt64.ofInt ((c.toNat : Int) - 256)
  else if c = 0xCC then return UInt64.ofNat (← unsigned 1)
  else if c = 0xCD then return UInt64.ofNat (← unsigned 2)
  else if c = 0xCE then return UInt64.ofNat (← unsigned 4)
  else if c = 0xCF then return UInt64.ofNat (← unsigned 8)
  else if c = 0xD0 then return UInt64.ofInt (← signed 1)
  else if c = 0xD1 then return UInt64.ofInt (← signed 2)
  else if c = 0xD2 then return UInt64.ofInt (← signed 4)
  else if c = 0xD3 then return UInt64.ofInt (← signed 8)
  else failure

def textLength (c : UInt8) : Reader Nat :=
  if c = 0xC0 then return 0
  else if 0xA0 ≤ c && c < 0xC0 then return c.toNat - 0xA0
  else if c = 0xD9 || c = 0xC4 then unsigned 1
  else if c = 0xDA || c = 0xC5 then unsigned 2
  else if c = 0xDB || c = 0xC6 then unsigned 4
  else failure

def readText : Reader Text := do
  let c ← byte
  let n ← textLength c
  bytes n

/-- The number of entries of a map with the given code; `nil` has none. -/
def mapLength? (c : UInt8) : Option (Reader (Option Nat)) :=
  if c = 0xC0 then some (return none)
  else if 0x80 ≤ c && c < 0x90 then some (return some (c.toNat - 0x80))
  else if c = 0xDE then some (some <$> unsigned 2)
  else if c = 0xDF then some (some <$> unsigned 4)
  else none

def arrayLength? (c : UInt8) : Option (Reader (Option Nat)) :=
  if c = 0xC0 then some (return none)
  else if 0x90 ≤ c && c < 0xA0 then some (return some (c.toNat - 0x90))
  else if c = 0xDC then some (some <$> unsigned 2)
  else if c = 0xDD then some (some <$> unsigned 4)
  else none

/-- What a value consists of besides its code: the bytes of its header, the bytes that
follow the header, and the values nested in it.  The last two depend on the number that
the header holds. -/
structure Extent where
  header : Nat := 0
  payload : Nat → Nat := fun _ => 0
  nested : Nat → Nat := fun _ => 0

def extent? (c : UInt8) : Option Extent :=
  let n := c.toNat
  if c < 0x80 || 0xE0 ≤ c then some {}
  else if c < 0x90 then some { nested := fun _ => 2 * (n - 0x80) }
  else if c < 0xA0 then some { nested := fun _ => n - 0x90 }
  else if c < 0xC0 then some { payload := fun _ => n - 0xA0 }
  else match n with
    | 0xC0 => some {}
    | 0xC2 => some {}
    | 0xC3 => some {}
    | 0xC4 => some { header := 1, payload := id }
    | 0xC5 => some { header := 2, payload := id }
    | 0xC6 => some { header := 4, payload := id }
    | 0xC7 => some { header := 1, payload := (· + 1) }
    | 0xC8 => some { header := 2, payload := (· + 1) }
    | 0xC9 => some { header := 4, payload := (· + 1) }
    | 0xCA => some { header := 4 }
    | 0xCB => some { header := 8 }
    | 0xCC => some { header := 1 }
    | 0xCD => some { header := 2 }
    | 0xCE => some { header := 4 }
    | 0xCF => some { header := 8 }
    | 0xD0 => some { header := 1 }
    | 0xD1 => some { header := 2 }
    | 0xD2 => some { header := 4 }
    | 0xD3 => some { header := 8 }
    | 0xD4 => some { payload := fun _ => 2 }
    | 0xD5 => some { payload := fun _ => 3 }
    | 0xD6 => some { payload := fun _ => 5 }
    | 0xD7 => some { payload := fun _ => 9 }
    | 0xD8 => some { payload := fun _ => 17 }
    | 0xD9 => some { header := 1, payload := id }
    | 0xDA => some { header := 2, payload := id }
    | 0xDB => some { header := 4, payload := id }
    | 0xDC => some { header := 2, nested := id }
    | 0xDD => some { header := 4, nested := id }
    | 0xDE => some { header := 2, nested := (2 * ·) }
    | 0xDF => some { header := 4, nested := (2 * ·) }
    | _ => none

/-- Skips `pending` values.  Each takes a byte, so the length of the text is fuel
enough. -/
def skipValues : (fuel pending : Nat) → Text → Option Text
  | _, 0, t => some t
  | 0, _ + 1, _ => none
  | fuel + 1, pending + 1, t =>
    match t with
    | [] => none
    | c :: rest => do
      let e ← extent? c
      let (header, rest) ← splitExact e.header rest
      let n := ofBigEndian header
      let (_, rest) ← splitExact (e.payload n) rest
      skipValues fuel (pending + e.nested n) rest

def skip : Reader Unit := fun t => (skipValues (t.length + 1) 1 t).map fun rest => ((), rest)

end Msgpack
end FeltLowering
