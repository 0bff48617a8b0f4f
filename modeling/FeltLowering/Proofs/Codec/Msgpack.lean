import FeltLowering.Codec.Msgpack.Program
import Mathlib.Algebra.Ring.Nat

/-
MessagePack wire forms read back.

`Reads r w x` says that the reader `r` takes exactly the bytes `w` off a text, whatever
follows them, and gives `x`.  Numbers, texts, lists and records are read back from their
written forms as long as the numbers in their headers fit: a length has at most four
bytes.
-/
namespace FeltLowering
namespace Msgpack

/-- The number of lengths that a header can hold. -/
def lengthLimit : Nat := 4294967296

/-- The reader takes the bytes `w`, whatever follows, and gives `x`. -/
def Reads {α : Type} (r : Reader α) (w : Text) (x : α) : Prop :=
  ∀ rest, r (w ++ rest) = some (x, rest)

namespace Reads

variable {α β : Type} {r : Reader α} {w w' : Text} {x : α} {y : β}

theorem pure (x : α) : Reads (Pure.pure x) [] x := fun _ => rfl

theorem bind {f : α → Reader β} (h : Reads r w x) (h' : Reads (f x) w' y) :
    Reads (r >>= f) (w ++ w') y := by
  intro rest
  show (r (w ++ w' ++ rest) >>= fun p => f p.1 p.2) = some (y, rest)
  rw [List.append_assoc, h]
  exact h' rest

theorem bind_pure {f : α → β} (h : Reads r w x) (hy : f x = y) :
    Reads (r >>= fun a => Pure.pure (f a)) w y := by
  have h' := h.bind (f := fun a => Pure.pure (f a)) (Reads.pure (f x))
  rwa [List.append_nil, hy] at h'

theorem map {f : α → β} (h : Reads r w x) : Reads (f <$> r) w (f x) := by
  intro rest
  show (r (w ++ rest) >>= fun p => some (f p.1, p.2)) = some (f x, rest)
  rw [h]
  rfl

end Reads

theorem reads_byte (b : UInt8) : Reads byte [b] b := fun _ => rfl

theorem splitExact_append (t rest : Text) : splitExact t.length (t ++ rest) = some (t, rest) := by
  induction t with
  | nil => rfl
  | cons b t ih =>
    show (splitExact t.length (t ++ rest)).map _ = _
    rw [ih]
    rfl

theorem reads_bytes (t : Text) : Reads (bytes t.length) t t := splitExact_append t

/-! ## Numbers -/

theorem length_bigEndian (n v : Nat) : (bigEndian n v).length = n := by
  induction n generalizing v with
  | zero => rfl
  | succ n ih => rw [bigEndian, List.length_append, ih, List.length_singleton]

theorem ofBigEndian_bigEndian {n v : Nat} (h : v < 256 ^ n) : ofBigEndian (bigEndian n v) = v := by
  induction n generalizing v with
  | zero =>
    obtain rfl : v = 0 := by simpa using h
    rfl
  | succ n ih =>
    have hhigh : v / 256 < 256 ^ n := by
      rw [Nat.pow_succ] at h
      omega
    have hlow : (v % 256).toUInt8.toNat = v % 256 := by
      simp
    rw [bigEndian, ofBigEndian, List.foldl_append, ← ofBigEndian, ih hhigh]
    simp only [List.foldl_cons, List.foldl_nil, hlow]
    omega

theorem reads_unsigned {n v : Nat} (h : v < 256 ^ n) : Reads (unsigned n) (bigEndian n v) v := by
  have hbytes := reads_bytes (bigEndian n v)
  rw [length_bigEndian] at hbytes
  have hmap := hbytes.map (f := ofBigEndian)
  rwa [ofBigEndian_bigEndian h] at hmap

theorem reads_readId (v : UInt64) : Reads readId (writeId v) v := by
  have hv : v.toNat < 256 ^ 8 := v.toNat_lt
  have hnumber := (reads_unsigned hv).bind_pure (f := UInt64.ofNat) (UInt64.ofNat_toNat)
  exact (reads_byte 0xCF).bind hnumber

/-! ## Texts -/

/-- Each of the four forms of a header announces the length it is written for. -/
theorem reads_textLength {n : Nat} (h : n < lengthLimit) :
    ∃ c w, textHeader n = c :: w ∧ c ≠ 0xC0 ∧ Reads (textLength c) w n := by
  have hshort : ∀ n < 32, (0xA0 + n).toUInt8 ≠ 0xC0 ∧
      (0xA0 ≤ (0xA0 + n).toUInt8 && (0xA0 + n).toUInt8 < 0xC0) = true ∧
      (0xA0 + n).toUInt8.toNat - 0xA0 = n := by decide
  unfold textHeader
  split
  · next hlt =>
    obtain ⟨hnil, hrange, hvalue⟩ := hshort n hlt
    refine ⟨_, [], rfl, hnil, ?_⟩
    rw [textLength, if_neg hnil, if_pos hrange, hvalue]
    exact Reads.pure n
  · split
    · next hlt => exact ⟨_, _, rfl, by decide, reads_unsigned (n := 1) hlt⟩
    · split
      · next hlt => exact ⟨_, _, rfl, by decide, reads_unsigned (n := 2) hlt⟩
      · exact ⟨_, _, rfl, by decide, reads_unsigned (n := 4) h⟩

theorem reads_readText {t : Text} (h : t.length < lengthLimit) : Reads readText (writeText t) t := by
  obtain ⟨c, w, hheader, -, hlength⟩ := reads_textLength h
  have hread : Reads readText ([c] ++ (w ++ t)) t :=
    (reads_byte c).bind (hlength.bind (reads_bytes t))
  rw [writeText, hheader]
  exact hread

/-! ## Lists -/

theorem reads_arrayLength {n : Nat} (h : n < lengthLimit) :
    ∃ c w r, arrayHeader n = c :: w ∧ arrayLength? c = some r ∧ Reads r w (some n) := by
  have hshort : ∀ n < 16, (0x90 + n).toUInt8 ≠ 0xC0 ∧
      (0x90 ≤ (0x90 + n).toUInt8 && (0x90 + n).toUInt8 < 0xA0) = true ∧
      (0x90 + n).toUInt8.toNat - 0x90 = n := by decide
  unfold arrayHeader
  split
  · next hlt =>
    obtain ⟨hnil, hrange, hvalue⟩ := hshort n hlt
    refine ⟨_, [], _, rfl, ?_, Reads.pure (some n)⟩
    rw [arrayLength?, if_neg hnil, if_pos hrange, hvalue]
  · split
    · next hlt => exact ⟨_, _, _, rfl, rfl, (reads_unsigned (n := 2) hlt).map⟩
    · exact ⟨_, _, _, rfl, rfl, (reads_unsigned (n := 4) h).map⟩

section Lists

variable {α β : Type} {zero : α} {read : α → Reader α} {write : β → Text} {result : β → α}

theorem reads_readElements {xs : List β} (h : ∀ x ∈ xs, Reads (read zero) (write x) (result x)) :
    Reads (readElements zero read xs.length []) (xs.map write).flatten (xs.map result) := by
  induction xs with
  | nil => exact Reads.pure []
  | cons x xs ih =>
    have hrest := ih fun x hx => h x (List.mem_cons_of_mem _ hx)
    exact (h x List.mem_cons_self).bind (hrest.bind_pure rfl)

theorem reads_readSlots {xs : List β} (hlen : xs.length < lengthLimit)
    (h : ∀ x ∈ xs, Reads (read zero) (write x) (result x)) :
    Reads (readSlots zero read none) (writeList (xs.map write)) (some ⟨xs.map result, []⟩) := by
  obtain ⟨c, w, r, hheader, hcode, hlength⟩ := reads_arrayLength hlen
  have hslots : Slots.empty.refill (xs.map result) = ⟨xs.map result, []⟩ := by
    show Slots.mk _ ([].drop _) = _
    rw [List.drop_nil]
  have helements := (reads_readElements h).bind_pure
    (f := fun used => some (Slots.empty.refill used)) (congrArg some hslots)
  have hread : Reads (readSlots zero read none) ([c] ++ (w ++ (xs.map write).flatten))
      (some ⟨xs.map result, []⟩) := by
    unfold readSlots
    refine (reads_byte c).bind ?_
    rw [hcode]
    exact hlength.bind helements
  rw [writeList, List.length_map, hheader]
  exact hread

end Lists

/-! ## Records -/

theorem reads_mapLength {n : Nat} (h : n < lengthLimit) :
    ∃ c w r, mapHeader n = c :: w ∧ c ≠ 0xC0 ∧ mapLength? c = some r ∧ Reads r w (some n) := by
  have hshort : ∀ n < 16, (0x80 + n).toUInt8 ≠ 0xC0 ∧
      (0x80 ≤ (0x80 + n).toUInt8 && (0x80 + n).toUInt8 < 0x90) = true ∧
      (0x80 + n).toUInt8.toNat - 0x80 = n := by decide
  unfold mapHeader
  split
  · next hlt =>
    obtain ⟨hnil, hrange, hvalue⟩ := hshort n hlt
    refine ⟨_, [], _, rfl, hnil, ?_, Reads.pure (some n)⟩
    rw [mapLength?, if_neg hnil, if_pos hrange, hvalue]
  · split
    · next hlt => exact ⟨_, _, _, rfl, by decide, rfl, (reads_unsigned (n := 2) hlt).map⟩
    · exact ⟨_, _, _, rfl, by decide, rfl, (reads_unsigned (n := 4) h).map⟩

/-- The written entries of a map, read in turn over the record `old`, give the record
`new`. -/
inductive Fills {α : Type} (fields : Fields α) : (old : α) → List (Text × Text) → (new : α) → Prop
  | nil (old : α) : Fills fields old [] old
  | cons {old mid new : α} {key value : Text} {f : Text × (α → Reader α)}
      {rest : List (Text × Text)} (hkey : key.length < lengthLimit)
      (hfind : fields.find? (fun f => f.1 = key) = some f) (hvalue : Reads (f.2 old) value mid)
      (hrest : Fills fields mid rest new) : Fills fields old ((key, value) :: rest) new

namespace Fills

variable {α : Type} {fields : Fields α} {old mid new : α} {entries more : List (Text × Text)}

theorem append (h : Fills fields old entries mid) (h' : Fills fields mid more new) :
    Fills fields old (entries ++ more) new := by
  induction h with
  | nil => exact h'
  | cons hkey hfind hvalue _ ih => exact .cons hkey hfind hvalue (ih h')

theorem reads_entries (h : Fills fields old entries new) :
    Reads (readEntries fields entries.length old) (entries.flatMap fun e => writeText e.1 ++ e.2) new := by
  induction h with
  | nil old => exact Reads.pure old
  | @cons old mid new key value f rest hkey hfind hvalue _ ih =>
    have hentry : Reads (readEntry fields key old) value mid := by
      rw [readEntry, hfind]
      exact hvalue
    have hread : Reads (readEntries fields (rest.length + 1) old)
        (writeText key ++ (value ++ rest.flatMap fun e => writeText e.1 ++ e.2)) new :=
      (reads_readText hkey).bind (hentry.bind ih)
    rwa [← List.append_assoc] at hread

theorem reads_record (h : Fills fields old entries new) (hlen : entries.length < lengthLimit)
    (zero : α) : Reads (readRecord zero fields old) (writeRecord entries) new := by
  obtain ⟨c, w, r, hheader, -, hcode, hlength⟩ := reads_mapLength hlen
  have hread : Reads (readRecord zero fields old)
      ([c] ++ (w ++ entries.flatMap fun e => writeText e.1 ++ e.2)) new := by
    unfold readRecord
    refine (reads_byte c).bind ?_
    rw [hcode]
    exact hlength.bind h.reads_entries
  rw [writeRecord, hheader]
  exact hread

end Fills

theorem reads_readPayload {α : Type} {zero x : α} {read : α → Reader α} {w : Text}
    (h : Reads (read zero) w x) (hw : ∃ c w', w = c :: w' ∧ c ≠ 0xC0) :
    Reads (readPayload zero read none) w (some x) := by
  obtain ⟨c, w', rfl, hc⟩ := hw
  intro rest
  have hhead : ¬(c :: w' ++ rest).head? = some 0xC0 := fun heq => hc (Option.some.inj heq)
  show (if (c :: w' ++ rest).head? = some 0xC0 then _ else _ : Reader _) _ = _
  rw [if_neg hhead]
  exact h.map (f := some) rest

end Msgpack
end FeltLowering
