import FeltLowering.Codec.Json.Reader
import FeltLowering.Proofs.Decimal
import FeltLowering.Proofs.Text.Utf8
import Mathlib.Data.List.DropRight
import Mathlib.Data.List.TakeDrop

/-
JSON values read back.

A string is read back character by character, a number as far as its digits go, and a
value as a whole: `readValue_write`.  What follows a value must not go on with it, which
only matters for numbers.  The fuel that a value takes is bounded by the length of its
written form.
-/
namespace FeltLowering
namespace Json

/-! ## Strings -/

/-- The written part `w` of a string, read first, gives the text `t`. -/
def Spells (w t : Text) : Prop :=
  ∀ rest, readString none (w ++ rest) = (readString none rest).map fun p => (t ++ p.1, p.2)

theorem Spells.nil : Spells [] [] := by
  intro rest
  show readString none rest = (readString none rest).map fun p => p
  exact Option.map_id'.symm

theorem Spells.append {w w' t t' : Text} (h : Spells w t) (h' : Spells w' t') :
    Spells (w ++ w') (t ++ t') := by
  intro rest
  rw [List.append_assoc, h, h', Option.map_map]
  simp only [Function.comp_def, List.append_assoc]

def IsPlain (b : UInt8) : Prop := 0x20 ≤ b.toNat ∧ b ≠ 0x22 ∧ b ≠ 0x5C

theorem spells_plain {b : UInt8} (h : IsPlain b) : Spells [b] [b] := by
  intro rest
  have hlt : ¬(b < 0x20 || b = 0x5C) = true := by
    simp only [Bool.or_eq_true, decide_eq_true_iff, not_or]
    exact ⟨Nat.not_lt.mpr h.1, h.2.2⟩
  show readString none (b :: rest) = _
  rw [readString.eq_def]
  split
  · next heq => exact absurd heq (by simp)
  · next heq => exact absurd (List.cons.inj heq).1 h.2.1
  · next heq => exact absurd (List.cons.inj heq).1 h.2.2
  · next heq => exact absurd (List.cons.inj heq).1 h.2.2
  · next heq =>
    obtain ⟨rfl, rfl⟩ := List.cons.inj heq
    rw [if_neg hlt]
    cases readString none rest <;> rfl

theorem spells_escape {e b : UInt8} (h : unescape? e = some b) (he : e ≠ 0x75) :
    Spells [0x5C, e] [b] := by
  intro rest
  show readString none (0x5C :: e :: rest) = _
  rw [readString.eq_def]
  split
  · next heq => exact absurd heq (by simp)
  · next heq => exact absurd (List.cons.inj heq).1 (by decide)
  · next heq => exact absurd (List.cons.inj (List.cons.inj heq).2).1 he
  · next heq =>
    obtain ⟨rfl, rfl⟩ := List.cons.inj (List.cons.inj heq).2
    rw [h]
    cases readString none rest <;> rfl
  · next hno heq =>
    obtain ⟨rfl, rfl⟩ := List.cons.inj heq
    exact (hno e rest rfl rfl).elim

/-- Four hexadecimal digits give any character but half of a surrogate pair. -/
theorem spells_unicode {a b c d : UInt8} {n : Nat} (h : hex4? a b c d = some n) (hn : n < 0xD800) :
    Spells [0x5C, 0x75, a, b, c, d] (Text.ofChar (Char.ofNat n)) := by
  intro rest
  have hlow : ¬(0xDC00 ≤ n && n < 0xE000) = true := by
    simp only [Bool.and_eq_true, decide_eq_true_iff]
    omega
  have hhigh : ¬(0xD800 ≤ n && n < 0xDC00) = true := by
    simp only [Bool.and_eq_true, decide_eq_true_iff]
    omega
  show readString none (0x5C :: 0x75 :: a :: b :: c :: d :: rest) = _
  rw [readString, h]
  show (if _ then _ else _) = _
  rw [if_neg hlow, if_neg hhigh]
  cases readString none rest <;> rfl

theorem spells_of_forall_plain {t : Text} (h : ∀ b ∈ t, IsPlain b) : Spells t t := by
  induction t with
  | nil => exact Spells.nil
  | cons b t ih =>
    have hrest : Spells t t := ih fun x hx => h x (List.mem_cons_of_mem b hx)
    exact (spells_plain (h b List.mem_cons_self)).append hrest

theorem hexValue?_hexDigitLower : ∀ d < 16, Text.hexValue? (Text.hexDigitLower d) = some d := by decide

theorem hex4?_hexLower {n : Nat} (h : n < 0x10000) :
    hex4? (Text.hexDigitLower (n / 16 / 16 / 16 % 16)) (Text.hexDigitLower (n / 16 / 16 % 16))
      (Text.hexDigitLower (n / 16 % 16)) (Text.hexDigitLower (n % 16)) = some n := by
  have hdigit : ∀ m, Text.hexValue? (Text.hexDigitLower (m % 16)) = some (m % 16) := fun m =>
    hexValue?_hexDigitLower _ (Nat.mod_lt m (by decide))
  have hsum : ((n / 16 / 16 / 16 % 16 * 16 + n / 16 / 16 % 16) * 16 + n / 16 % 16) * 16 + n % 16 = n := by
    omega
  unfold hex4?
  rw [hdigit, hdigit, hdigit, hdigit]
  exact congrArg some hsum

theorem spells_escape? {n : Nat} {w : Text} (h : escape? n = some w) :
    Spells w (Text.ofChar (Char.ofNat n)) := by
  unfold escape? at h
  split at h
  -- seven escapes by a letter and five by number, in the order of `escape?`
  iterate 7 (· exact Option.some.inj h ▸ spells_escape rfl (by decide))
  iterate 5 (· exact Option.some.inj h ▸ spells_unicode rfl (by decide))
  · by_cases hn : n < 0x20
    · rw [if_pos hn] at h
      exact Option.some.inj h ▸ spells_unicode (hex4?_hexLower (by omega)) (by omega)
    · rw [if_neg hn] at h
      exact absurd h (by simp)

theorem isPlain_of_lt : ∀ n < 0x80, escape? n = none → IsPlain (UInt8.ofNat n) := by
  unfold IsPlain
  decide

/-- A character that needs no escape is written with plain bytes. -/
theorem isPlain_of_escape?_eq_none {c : Char} (h : escape? c.toNat = none) :
    ∀ b ∈ Text.ofChar c, IsPlain b := by
  intro b hb
  by_cases hc : c.toNat < 0x80
  · rw [Text.ofChar_of_lt hc, List.mem_singleton] at hb
    exact hb ▸ isPlain_of_lt _ hc h
  · have hge := (Text.multibyte_ofChar (Nat.not_lt.mp hc)).not_ascii b hb
    refine ⟨by omega, ?_, ?_⟩
    · rintro rfl
      exact absurd hge (by decide)
    · rintro rfl
      exact absurd hge (by decide)

theorem spells_writeChar (c : Char) : Spells (writeChar c) (Text.ofChar c) := by
  unfold writeChar
  cases h : escape? c.toNat with
  | none => exact spells_of_forall_plain (isPlain_of_escape?_eq_none h)
  | some w =>
    have hw := spells_escape? h
    rw [Char.ofNat_toNat] at hw
    exact hw

theorem spells_chars (cs : List Char) : Spells (cs.flatMap writeChar) (Text.ofChars cs) := by
  induction cs with
  | nil => exact Spells.nil
  | cons c cs ih => exact (spells_writeChar c).append ih

theorem flatMap_writePiece (t : Text) :
    t.pieces.flatMap writePiece = t.chars.flatMap writeChar := by
  rw [Text.chars, List.flatMap_map]
  refine List.flatMap_congr fun piece _ => ?_
  cases piece <;> rfl

theorem writeString_append (t rest : Text) :
    writeString t ++ rest = 0x22 :: (t.chars.flatMap writeChar ++ 0x22 :: rest) := by
  rw [writeString, flatMap_writePiece, List.append_assoc, List.append_assoc]
  rfl

theorem readString_chars {t : Text} (h : t.isValid = true) (rest : Text) :
    readString none (t.chars.flatMap writeChar ++ 0x22 :: rest) = some (t, rest) := by
  rw [spells_chars t.chars (0x22 :: rest), Text.ofChars_chars h]
  show some (t ++ [], rest) = some (t, rest)
  rw [List.append_nil]

theorem repair_of_isValid {t : Text} (h : t.isValid = true) : repair t = t := Text.ofChars_chars h

/-! ## Numbers -/

/-- What stands behind a number and does not go on with it. -/
def Stops (t : Text) : Prop :=
  ∀ b ∈ t.head?, Text.isDigit b = false ∧ b ≠ 0x2E ∧ b ≠ 0x65 ∧ b ≠ 0x45

theorem Stops.nil : Stops [] := fun _ hb => absurd hb (by simp)

theorem stops_cons {b : UInt8} {t : Text}
    (h : Text.isDigit b = false ∧ b ≠ 0x2E ∧ b ≠ 0x65 ∧ b ≠ 0x45) : Stops (b :: t) := by
  intro c hc
  obtain rfl : b = c := Option.some.inj hc
  exact h

theorem readDigits_append {ds rest : Text} (hds : Decimal.Digits ds) (hrest : Stops rest) :
    readDigits (ds ++ rest) = some (ds, rest) := by
  have htake : rest.takeWhile Text.isDigit = [] := by
    cases rest with
    | nil => rfl
    | cons b rest => exact List.takeWhile_cons_of_neg (by simp [(hrest b rfl).1])
  have hdrop : rest.dropWhile Text.isDigit = rest := by
    cases rest with
    | nil => rfl
    | cons b rest => exact List.dropWhile_cons_of_neg (by simp [(hrest b rfl).1])
  have hspan : (ds ++ rest).span Text.isDigit = (ds, rest) := by
    rw [List.span_eq_takeWhile_dropWhile, List.takeWhile_append_of_pos hds.2,
      List.dropWhile_append_of_pos hds.2, htake, hdrop, List.append_nil]
  unfold readDigits
  rw [hspan]
  split
  · next heq => exact absurd (Prod.mk.inj heq).1 hds.1
  · next heq => rw [heq]

theorem readFraction_of_stops {t : Text} (h : Stops t) : readFraction t = some ([], t) := by
  unfold readFraction
  split
  · next rest => exact absurd rfl (h 0x2E rfl).2.1
  · rfl

theorem readExponent_of_stops {t : Text} (h : Stops t) : readExponent t = some ([], t) := by
  cases t with
  | nil => rfl
  | cons b t =>
    have hb := h b rfl
    have hno : ¬(b = 0x65 || b = 0x45) = true := by
      simp only [Bool.or_eq_true, decide_eq_true_iff, not_or]
      exact hb.2.2
    unfold readExponent
    exact if_neg hno

/-- Only zero is written with a zero in front. -/
theorem ofNat_head_ne {n : Nat} (h : 0 < n) : ∀ b ∈ (Text.ofNat n).head?, b ≠ 0x30 := by
  have hdigit : ∀ d < 10, 0 < d → (0x30 + d).toUInt8 ≠ 0x30 := by decide
  induction n using Nat.strongRecOn with
  | ind n ih =>
    intro b hb
    rw [Text.ofNat, Text.flatMap_toDigits (by decide) Text.utf8EncodeChar_digitChar] at hb
    by_cases hn : n < 10
    · rw [if_pos hn, Nat.mod_eq_of_lt hn] at hb
      exact Option.some.inj hb ▸ hdigit n hn h
    · rw [if_neg hn] at hb
      refine ih (n / 10) (by omega) (by omega) b ?_
      cases hw : Text.ofNat (n / 10) with
      | nil => exact absurd hw (Text.ofNat_digits (n / 10)).1
      | cons c ds =>
        rw [← Text.ofNat, hw] at hb
        exact hb

theorem readWhole_ofNat (n : Nat) {rest : Text} (h : Stops rest) :
    readWhole (Text.ofNat n ++ rest) = some (Text.ofNat n, rest) := by
  have hdigits := Text.ofNat_digits n
  by_cases hn : n = 0
  · subst hn
    rfl
  · have hhead := ofNat_head_ne (Nat.pos_of_ne_zero hn)
    rw [← readDigits_append hdigits h]
    unfold readWhole
    split
    · next heq =>
      cases hw : Text.ofNat n with
      | nil => exact absurd hw hdigits.1
      | cons b ds =>
        rw [hw] at heq hhead
        exact absurd (List.cons.inj heq).1 (hhead b rfl)
    · rfl

theorem readNumber_ofNat (n : Nat) {rest : Text} (h : Stops rest) :
    readNumber (Text.ofNat n ++ rest) = some (Text.ofNat n, rest) := by
  have hwhole := readWhole_ofNat n h
  unfold readNumber
  split
  · next heq =>
    split at heq
    · next hminus =>
      cases hw : Text.ofNat n with
      | nil => exact absurd hw (Text.ofNat_digits n).1
      | cons b ds =>
        rw [hw] at hminus
        have hdigits := Text.ofNat_digits n
        rw [hw] at hdigits
        exact absurd (List.cons.inj hminus).1 hdigits.head_ne.1
    · obtain ⟨rfl, rfl⟩ := Prod.mk.inj heq
      simp only [hwhole, Option.bind_eq_bind, Option.bind_some, readFraction_of_stops h,
        readExponent_of_stops h, List.nil_append, List.append_nil]
      rfl

/-! ## Space between tokens -/

theorem skipSpace_cons {b : UInt8} (h : isSpace b = false) (t : Text) :
    skipSpace (b :: t) = b :: t :=
  List.dropWhile_cons_of_neg (by simp [h])

theorem skipSpace_lineBreak (indent : Option Nat) (t : Text) :
    skipSpace (lineBreak indent ++ t) = skipSpace t := by
  have hspace : ∀ b ∈ lineBreak indent, isSpace b = true := by
    intro b hb
    cases indent with
    | none => exact absurd hb List.not_mem_nil
    | some depth =>
      rcases List.mem_cons.mp hb with rfl | hb
      · rfl
      · obtain rfl := List.eq_of_mem_replicate hb
        rfl
  exact List.dropWhile_append_of_pos hspace

theorem skipSpace_colon (indent : Option Nat) (t : Text) :
    ∃ w, skipSpace (colon indent ++ t) = 0x3A :: w ∧ skipSpace w = skipSpace t := by
  cases indent with
  | none => exact ⟨t, rfl, rfl⟩
  | some depth => exact ⟨0x20 :: t, rfl, rfl⟩

theorem readValue_congr {t u : Text} (h : skipSpace t = skipSpace u) (fuel depth : Nat) :
    readValue fuel depth t = readValue fuel depth u := by
  cases fuel with
  | zero => rfl
  | succ fuel => rw [readValue, readValue, h]

theorem readElements_congr {t u : Text} (h : skipSpace t = skipSpace u) (fuel depth : Nat) :
    readElements fuel depth t = readElements fuel depth u := by
  cases fuel with
  | zero => rfl
  | succ fuel => rw [readElements, readElements, readValue_congr h]

theorem readMembers_congr {t u : Text} (h : skipSpace t = skipSpace u) (fuel depth : Nat) :
    readMembers fuel depth t = readMembers fuel depth u := by
  cases fuel with
  | zero => rfl
  | succ fuel => rw [readMembers, readMembers, h]

/-! ## Values -/

theorem readValue_string {t : Text} (h : t.isValid = true) (fuel depth : Nat) (rest : Text) :
    readValue (fuel + 1) depth (writeString t ++ rest) = some (.string t, rest) := by
  rw [writeString_append, readValue, skipSpace_cons (by decide)]
  show (readString none _ >>= _) = _
  rw [readString_chars h]
  exact congrArg (fun t => some (Json.string t, rest)) (repair_of_isValid h)

theorem ne_of_isDigit {b c : UInt8} (hb : Text.isDigit b = true) (hc : Text.isDigit c = false) :
    b ≠ c := by
  rintro rfl
  exact absurd (hb.symm.trans hc) (by decide)

theorem isSpace_of_isDigit {b : UInt8} (h : Text.isDigit b = true) : isSpace b = false := by
  have hne : ∀ c, Text.isDigit c = false → decide (b = c) = false := fun c hc =>
    decide_eq_false (ne_of_isDigit h hc)
  rw [isSpace, hne _ rfl, hne _ rfl, hne _ rfl, hne _ rfl]
  rfl

theorem readValue_ofNat (n : Nat) {rest : Text} (h : Stops rest) (fuel depth : Nat) :
    readValue (fuel + 1) depth (Text.ofNat n ++ rest) = some (ofNat n, rest) := by
  have hnumber := readNumber_ofNat n h
  have hdigits := Text.ofNat_digits n
  cases hw : Text.ofNat n with
  | nil => exact absurd hw hdigits.1
  | cons b ds =>
    rw [hw] at hnumber hdigits
    have hb : Text.isDigit b = true := hdigits.2 b List.mem_cons_self
    rw [List.cons_append] at hnumber ⊢
    rw [readValue, skipSpace_cons (isSpace_of_isDigit hb)]
    show (if _ then _ else _) = _
    rw [if_neg (ne_of_isDigit hb rfl), if_neg (ne_of_isDigit hb rfl), if_neg (ne_of_isDigit hb rfl),
      if_neg (ne_of_isDigit hb rfl), if_neg (ne_of_isDigit hb rfl), if_neg (ne_of_isDigit hb rfl), hnumber,
      ofNat, hw]
    rfl

theorem readWord_append (word rest : Text) (v : Json) : readWord word v (word ++ rest) = some (v, rest) := by
  have hstarts : Text.startsWith (word ++ rest) word = true :=
    List.isPrefixOf_iff_prefix.mpr (List.prefix_append word rest)
  rw [readWord, if_pos hstarts, List.drop_left]

theorem readValue_array {t w : Text} {b : UInt8} (h : skipSpace t = b :: w) (hb : b ≠ 0x5D)
    (fuel depth : Nat) :
    readValue (fuel + 1) (depth + 1) (0x5B :: t) =
      (readElements fuel depth t).map fun p => (.array p.1, p.2) := by
  have hw : readElements fuel depth (b :: w) = readElements fuel depth t :=
    readElements_congr (h ▸ List.dropWhile_idempotent _ _) fuel depth
  rw [readValue, skipSpace_cons (by decide)]
  show (if _ then _ else if _ then _ else _) = _
  rw [if_neg (by decide), if_pos rfl, h]
  split
  · next hdepth => exact absurd hdepth (Nat.succ_ne_zero depth)
  · next heq _ => exact absurd (List.cons.inj heq).1 hb
  · next hdepth _ =>
    obtain rfl := Nat.succ.inj hdepth
    rw [hw]
    cases readElements fuel depth t <;> rfl

theorem readValue_object {t w : Text} {b : UInt8} (h : skipSpace t = b :: w) (hb : b ≠ 0x7D)
    (fuel depth : Nat) :
    readValue (fuel + 1) (depth + 1) (0x7B :: t) =
      (readMembers fuel depth t).map fun p => (.object p.1, p.2) := by
  have hw : readMembers fuel depth (b :: w) = readMembers fuel depth t :=
    readMembers_congr (h ▸ List.dropWhile_idempotent _ _) fuel depth
  rw [readValue, skipSpace_cons (by decide)]
  show (if _ then _ else _) = _
  rw [if_pos rfl, h]
  split
  · next hdepth => exact absurd hdepth (Nat.succ_ne_zero depth)
  · next heq _ => exact absurd (List.cons.inj heq).1 hb
  · next hdepth _ =>
    obtain rfl := Nat.succ.inj hdepth
    rw [hw]
    cases readMembers fuel depth t <;> rfl

/-- Values with at most `d` levels whose numbers are naturals and whose texts are valid
UTF-8. -/
inductive Readable : (d : Nat) → Json → Prop
  | null {d : Nat} : Readable d .null
  | bool {d : Nat} (b : Bool) : Readable d (.bool b)
  | number {d : Nat} (n : Nat) : Readable d (ofNat n)
  | string {d : Nat} {t : Text} (h : t.isValid = true) : Readable d (.string t)
  | array {d : Nat} {xs : List Json} (h : ∀ x ∈ xs, Readable d x) : Readable (d + 1) (.array xs)
  | object {d : Nat} {ms : List (Text × Json)} (hkeys : ∀ m ∈ ms, m.1.isValid = true)
      (h : ∀ m ∈ ms, Readable d m.2) : Readable (d + 1) (.object ms)

/-- The value is read back from its written form at depth `d`. -/
def ReadsBack (d : Nat) (v : Json) : Prop :=
  ∀ (indent : Option Nat) (fuel : Nat) (rest : Text), 2 * (write indent v).length ≤ fuel → Stops rest →
    readValue fuel d (write indent v ++ rest) = some (v, rest)

/-- A written value starts with no space and closes nothing. -/
theorem Readable.write_eq_cons {d : Nat} {v : Json} (h : Readable d v) (indent : Option Nat) :
    ∃ b w, write indent v = b :: w ∧ isSpace b = false ∧ b ≠ 0x5D := by
  cases h with
  | null => exact ⟨0x6E, _, by rw [write]; rfl, by decide, by decide⟩
  | bool b =>
    cases b with
    | false => exact ⟨0x66, _, by rw [write]; rfl, by decide, by decide⟩
    | true => exact ⟨0x74, _, by rw [write]; rfl, by decide, by decide⟩
  | number n =>
    have hdigits := Text.ofNat_digits n
    cases hw : Text.ofNat n with
    | nil => exact absurd hw hdigits.1
    | cons b ds =>
      have hb : Text.isDigit b = true := hdigits.2 b (hw ▸ List.mem_cons_self)
      exact ⟨b, ds, by rw [ofNat, write, hw], isSpace_of_isDigit hb, ne_of_isDigit hb rfl⟩
  | @string _ t _ =>
    refine ⟨0x22, t.chars.flatMap writeChar ++ [0x22], ?_, by decide, by decide⟩
    rw [write, ← writeString_append, List.append_nil]
  | @array _ xs _ =>
    cases xs with
    | nil => exact ⟨0x5B, _, by rw [write]; rfl, by decide, by decide⟩
    | cons x xs => exact ⟨0x5B, _, by rw [write]; rfl, by decide, by decide⟩
  | @object _ ms _ _ =>
    cases ms with
    | nil => exact ⟨0x7B, _, by rw [write]; rfl, by decide, by decide⟩
    | cons m ms => exact ⟨0x7B, _, by rw [write]; rfl, by decide, by decide⟩

theorem stops_lineBreak (indent : Option Nat) {t : Text} (h : Stops t) :
    Stops (lineBreak indent ++ t) := by
  cases indent with
  | none => exact h
  | some depth => exact stops_cons (by decide)

theorem writeElements_pair (indent : Option Nat) (x y : Json) (xs : List Json) :
    writeElements indent (x :: y :: xs) =
      lineBreak indent ++ (write indent x ++ 0x2C :: writeElements indent (y :: xs)) := by
  rw [writeElements, List.append_assoc, List.append_assoc]
  · rfl
  · exact List.cons_ne_nil y xs

theorem readElements_last {fuel d : Nat} {t u rest : Text} {x : Json}
    (hx : readValue fuel d t = some (x, u)) (hu : skipSpace u = 0x5D :: rest) :
    readElements (fuel + 1) d t = some ([x], rest) := by
  rw [readElements, hx]
  simp only [Option.bind_eq_bind, Option.bind_some, hu]
  rfl

theorem readElements_more {fuel d : Nat} {t u u' rest : Text} {x : Json} {xs : List Json}
    (hx : readValue fuel d t = some (x, u)) (hu : skipSpace u = 0x2C :: u')
    (hxs : readElements fuel d u' = some (xs, rest)) :
    readElements (fuel + 1) d t = some (x :: xs, rest) := by
  rw [readElements, hx]
  simp only [Option.bind_eq_bind, Option.bind_some, hu, hxs]
  rfl

theorem readElements_writeElements {d : Nat} (indent out : Option Nat) (rest : Text) {xs : List Json}
    (hne : xs ≠ []) (h : ∀ x ∈ xs, ReadsBack d x) :
    ∀ fuel, 2 * (writeElements indent xs).length < fuel →
      readElements fuel d (writeElements indent xs ++ (lineBreak out ++ 0x5D :: rest)) =
        some (xs, rest) := by
  induction xs with
  | nil => exact absurd rfl hne
  | cons x xs ih =>
    intro fuel hfuel
    have hx := h x List.mem_cons_self
    cases fuel with
    | zero => exact absurd hfuel (Nat.not_lt_zero _)
    | succ fuel =>
      cases xs with
      | nil =>
        have hclose : Stops (lineBreak out ++ 0x5D :: rest) := stops_lineBreak out (stops_cons (by decide))
        rw [writeElements, List.length_append] at hfuel
        rw [writeElements, List.append_assoc, readElements_congr (skipSpace_lineBreak _ _)]
        refine readElements_last (hx indent fuel _ (by omega) hclose) ?_
        rw [skipSpace_lineBreak, skipSpace_cons (by decide)]
      | cons y xs =>
        rw [writeElements_pair, List.length_append, List.length_append, List.length_cons] at hfuel
        rw [writeElements_pair, List.append_assoc, List.append_assoc, List.cons_append,
          readElements_congr (skipSpace_lineBreak _ _)]
        refine readElements_more (hx indent fuel _ (by omega) (stops_cons (by decide)))
          (skipSpace_cons (by decide) _) ?_
        exact ih (List.cons_ne_nil y xs) (fun z hz => h z (List.mem_cons_of_mem x hz)) fuel (by omega)

theorem writeMembers_singleton (indent : Option Nat) (m : Text × Json) :
    writeMembers indent [m] =
      lineBreak indent ++ (writeString m.1 ++ (colon indent ++ write indent m.2)) := by
  rw [writeMembers, List.append_assoc, List.append_assoc]

theorem writeMembers_pair (indent : Option Nat) (m m' : Text × Json) (ms : List (Text × Json)) :
    writeMembers indent (m :: m' :: ms) =
      lineBreak indent ++ (writeString m.1 ++ (colon indent ++
        (write indent m.2 ++ 0x2C :: writeMembers indent (m' :: ms)))) := by
  rw [writeMembers, List.append_assoc, List.append_assoc, List.append_assoc, List.append_assoc]
  · rfl
  · exact List.cons_ne_nil m' ms

theorem readMembers_last {fuel d : Nat} {indent : Option Nat} {k t u rest : Text} {v : Json}
    (hk : k.isValid = true) (hv : readValue fuel d t = some (v, u)) (hu : skipSpace u = 0x7D :: rest) :
    readMembers (fuel + 1) d (writeString k ++ (colon indent ++ t)) = some ([(k, v)], rest) := by
  obtain ⟨w, hcolon, hw⟩ := skipSpace_colon indent t
  rw [writeString_append, readMembers, skipSpace_cons (by decide)]
  simp only [readString_chars hk, Option.bind_eq_bind, Option.bind_some, hcolon, readValue_congr hw, hv, hu,
    repair_of_isValid hk]
  rfl

theorem readMembers_more {fuel d : Nat} {indent : Option Nat} {k t u u' rest : Text} {v : Json}
    {ms : List (Text × Json)} (hk : k.isValid = true) (hv : readValue fuel d t = some (v, u))
    (hu : skipSpace u = 0x2C :: u') (hms : readMembers fuel d u' = some (ms, rest)) :
    readMembers (fuel + 1) d (writeString k ++ (colon indent ++ t)) = some ((k, v) :: ms, rest) := by
  obtain ⟨w, hcolon, hw⟩ := skipSpace_colon indent t
  rw [writeString_append, readMembers, skipSpace_cons (by decide)]
  simp only [readString_chars hk, Option.bind_eq_bind, Option.bind_some, hcolon, readValue_congr hw, hv, hu,
    hms, repair_of_isValid hk]
  rfl

theorem readMembers_writeMembers {d : Nat} (indent out : Option Nat) (rest : Text)
    {ms : List (Text × Json)} (hne : ms ≠ []) (hkeys : ∀ m ∈ ms, m.1.isValid = true)
    (h : ∀ m ∈ ms, ReadsBack d m.2) :
    ∀ fuel, 2 * (writeMembers indent ms).length < fuel →
      readMembers fuel d (writeMembers indent ms ++ (lineBreak out ++ 0x7D :: rest)) =
        some (ms, rest) := by
  induction ms with
  | nil => exact absurd rfl hne
  | cons m ms ih =>
    intro fuel hfuel
    have hm := h m List.mem_cons_self
    have hkey := hkeys m List.mem_cons_self
    cases fuel with
    | zero => exact absurd hfuel (Nat.not_lt_zero _)
    | succ fuel =>
      cases ms with
      | nil =>
        have hclose : Stops (lineBreak out ++ 0x7D :: rest) := stops_lineBreak out (stops_cons (by decide))
        simp only [writeMembers_singleton, List.length_append] at hfuel
        simp only [writeMembers_singleton, List.append_assoc]
        rw [readMembers_congr (skipSpace_lineBreak _ _)]
        refine readMembers_last hkey (hm indent fuel _ (by omega) hclose) ?_
        rw [skipSpace_lineBreak, skipSpace_cons (by decide)]
      | cons m' ms =>
        simp only [writeMembers_pair, List.length_append, List.length_cons] at hfuel
        simp only [writeMembers_pair, List.append_assoc, List.cons_append]
        rw [readMembers_congr (skipSpace_lineBreak _ _)]
        refine readMembers_more hkey (hm indent fuel _ (by omega) (stops_cons (by decide)))
          (skipSpace_cons (by decide) _) ?_
        exact ih (List.cons_ne_nil m' ms) (fun z hz => hkeys z (List.mem_cons_of_mem m hz))
          (fun z hz => h z (List.mem_cons_of_mem m hz)) fuel (by omega)

theorem exists_fuel {d fuel : Nat} {v : Json} {indent : Option Nat} (h : Readable d v)
    (hfuel : 2 * (write indent v).length ≤ fuel) : ∃ f, fuel = f + 1 := by
  obtain ⟨b, w, hw, -, -⟩ := h.write_eq_cons indent
  rw [hw, List.length_cons] at hfuel
  exact ⟨fuel - 1, by omega⟩

theorem write_array (indent : Option Nat) (x : Json) (xs : List Json) :
    write indent (.array (x :: xs)) =
      0x5B :: (writeElements (indent.map (· + 1)) (x :: xs) ++ (lineBreak indent ++ [0x5D])) := by
  rw [write, List.append_assoc, List.append_assoc]
  rfl

theorem write_object (indent : Option Nat) (m : Text × Json) (ms : List (Text × Json)) :
    write indent (.object (m :: ms)) =
      0x7B :: (writeMembers (indent.map (· + 1)) (m :: ms) ++ (lineBreak indent ++ [0x7D])) := by
  rw [write, List.append_assoc, List.append_assoc]
  rfl

theorem skipSpace_writeElements {d : Nat} (indent : Option Nat) {x : Json} (h : Readable d x)
    (xs : List Json) (t : Text) :
    ∃ b w, skipSpace (writeElements indent (x :: xs) ++ t) = b :: w ∧ b ≠ 0x5D := by
  obtain ⟨b, w, hw, hspace, hb⟩ := h.write_eq_cons indent
  cases xs with
  | nil =>
    rw [writeElements, List.append_assoc, skipSpace_lineBreak, hw, List.cons_append, skipSpace_cons hspace]
    exact ⟨b, _, rfl, hb⟩
  | cons y xs =>
    rw [writeElements_pair, List.append_assoc, skipSpace_lineBreak, hw, List.cons_append, List.cons_append,
      skipSpace_cons hspace]
    exact ⟨b, _, rfl, hb⟩

theorem skipSpace_writeMembers (indent : Option Nat) (m : Text × Json) (ms : List (Text × Json)) (t : Text) :
    ∃ b w, skipSpace (writeMembers indent (m :: ms) ++ t) = b :: w ∧ b ≠ 0x7D := by
  cases ms with
  | nil =>
    rw [writeMembers_singleton, List.append_assoc, skipSpace_lineBreak, List.append_assoc,
      writeString_append, skipSpace_cons (by decide)]
    exact ⟨0x22, _, rfl, by decide⟩
  | cons m' ms =>
    rw [writeMembers_pair, List.append_assoc, skipSpace_lineBreak, List.append_assoc,
      writeString_append, skipSpace_cons (by decide)]
    exact ⟨0x22, _, rfl, by decide⟩

/-- A value is read back from its written form, whatever the indent and whatever follows
that does not go on with a number. -/
theorem Readable.readsBack {d : Nat} {v : Json} (h : Readable d v) : ReadsBack d v := by
  induction h with
  | @null d =>
    intro indent fuel rest hfuel _
    obtain ⟨fuel, rfl⟩ := exists_fuel (Readable.null (d := d)) hfuel
    rw [write, readValue]
    exact readWord_append "null" rest .null
  | @bool d b =>
    intro indent fuel rest hfuel _
    obtain ⟨fuel, rfl⟩ := exists_fuel (Readable.bool (d := d) b) hfuel
    cases b with
    | false =>
      rw [write, readValue]
      exact readWord_append "false" rest (.bool false)
    | true =>
      rw [write, readValue]
      exact readWord_append "true" rest (.bool true)
  | @number d n =>
    intro indent fuel rest hfuel hrest
    obtain ⟨fuel, rfl⟩ := exists_fuel (Readable.number (d := d) n) hfuel
    rw [ofNat, write]
    exact readValue_ofNat n hrest fuel d
  | @string d t ht =>
    intro indent fuel rest hfuel _
    obtain ⟨fuel, rfl⟩ := exists_fuel (Readable.string (d := d) ht) hfuel
    rw [write]
    exact readValue_string ht fuel d rest
  | @array d xs hx ih =>
    intro indent fuel rest hfuel _
    obtain ⟨fuel, rfl⟩ := exists_fuel (Readable.array hx) hfuel
    cases xs with
    | nil =>
      rw [write]
      rfl
    | cons x xs =>
      simp only [write_array, List.length_cons, List.length_append] at hfuel
      simp only [write_array, List.cons_append, List.append_assoc, List.nil_append]
      obtain ⟨b, w, hw, hb⟩ := skipSpace_writeElements (indent.map (· + 1)) (hx x List.mem_cons_self) xs
        (lineBreak indent ++ 0x5D :: rest)
      rw [readValue_array hw hb, readElements_writeElements _ _ _ (List.cons_ne_nil x xs) ih fuel (by omega)]
      rfl
  | @object d ms hkeys hv ih =>
    intro indent fuel rest hfuel _
    obtain ⟨fuel, rfl⟩ := exists_fuel (Readable.object hkeys hv) hfuel
    cases ms with
    | nil =>
      rw [write]
      rfl
    | cons m ms =>
      simp only [write_object, List.length_cons, List.length_append] at hfuel
      simp only [write_object, List.cons_append, List.append_assoc, List.nil_append]
      obtain ⟨b, w, hw, hb⟩ := skipSpace_writeMembers (indent.map (· + 1)) m ms
        (lineBreak indent ++ 0x7D :: rest)
      rw [readValue_object hw hb,
        readMembers_writeMembers _ _ _ (List.cons_ne_nil m ms) hkeys ih fuel (by omega)]
      rfl

theorem parseFirst?_write {v : Json} (h : Readable maxDepth v) (indent : Option Nat) :
    parseFirst? (write indent v) = some v := by
  have hread := h.readsBack indent (2 * (write indent v).length + 2) [] (by omega) Stops.nil
  rw [List.append_nil] at hread
  rw [parseFirst?, hread]
  rfl

end Json
end FeltLowering
