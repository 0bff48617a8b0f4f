import FeltLowering.Text.Utf8

/-
Texts and their characters.

`Multibyte w n` says which bytes encode the code points beyond ASCII.  The reader cuts off
exactly these (`multibyte?_eq_some_iff`), and a character is encoded by them
(`multibyte_ofChar`, `Multibyte.eq_ofChar`).  So a text that was made of characters has these
as its pieces, and a valid text is made of its characters (`isValid_iff`).
-/
namespace FeltLowering
namespace Text

/-! ## Bytes -/

theorem toNat_ofNat_of_lt {n : Nat} (h : n < 256) : (UInt8.ofNat n).toNat = n :=
  Nat.mod_eq_of_lt h

theorem eq_ofNat_iff {b : UInt8} {n : Nat} (h : n < 256) : b = UInt8.ofNat n ↔ b.toNat = n := by
  rw [← UInt8.toNat_inj, toNat_ofNat_of_lt h]

theorem between_iff {lo hi b : UInt8} :
    (lo ≤ b && b ≤ hi) = true ↔ lo.toNat ≤ b.toNat ∧ b.toNat ≤ hi.toNat := by
  rw [Bool.and_eq_true, decide_eq_true_iff, decide_eq_true_iff]
  exact Iff.rfl

theorem continuation?_eq_some_iff {b : UInt8} {x : Nat} :
    continuation? b = some x ↔ x < 64 ∧ b = UInt8.ofNat (x + 0x80) := by
  have hlt := b.toNat_lt
  have hlo : (0x80 : UInt8).toNat = 128 := rfl
  have hhi : (0xBF : UInt8).toNat = 191 := rfl
  unfold continuation?
  by_cases h : (0x80 ≤ b && b ≤ 0xBF) = true
  · have hrange := between_iff.mp h
    rw [if_pos h, Option.some.injEq]
    constructor
    · rintro rfl
      exact ⟨by omega, (eq_ofNat_iff (by omega)).mpr (by omega)⟩
    · rintro ⟨hx, hb⟩
      rw [eq_ofNat_iff (by omega)] at hb
      omega
  · rw [if_neg h]
    refine ⟨fun hnone => absurd hnone (by simp), fun ⟨hx, hb⟩ => absurd (between_iff.mpr ?_) h⟩
    rw [eq_ofNat_iff (by omega)] at hb
    omega

/-! ## Characters beyond ASCII -/

/-- The bytes that encode a code point beyond ASCII.  Each encoding is the shortest one. -/
inductive Multibyte : Text → Nat → Prop
  | two {y x : Nat} (hy : 2 ≤ y ∧ y < 32) (hx : x < 64) :
      Multibyte [UInt8.ofNat (y + 0xC0), UInt8.ofNat (x + 0x80)] (y * 64 + x)
  | three {y x₁ x₂ : Nat} (hy : y < 16) (h₁ : x₁ < 64) (h₂ : x₂ < 64)
      (hn : 0x800 ≤ y * 4096 + x₁ * 64 + x₂) :
      Multibyte [UInt8.ofNat (y + 0xE0), UInt8.ofNat (x₁ + 0x80), UInt8.ofNat (x₂ + 0x80)]
        (y * 4096 + x₁ * 64 + x₂)
  | four {y x₁ x₂ x₃ : Nat} (hy : y < 5) (h₁ : x₁ < 64) (h₂ : x₂ < 64) (h₃ : x₃ < 64)
      (hn : 0x10000 ≤ y * 262144 + x₁ * 4096 + x₂ * 64 + x₃) :
      Multibyte [UInt8.ofNat (y + 0xF0), UInt8.ofNat (x₁ + 0x80), UInt8.ofNat (x₂ + 0x80),
        UInt8.ofNat (x₃ + 0x80)] (y * 262144 + x₁ * 4096 + x₂ * 64 + x₃)

theorem toNat_lt (c : Char) : c.toNat < 0x110000 := by
  have h : c.toNat < 0xD800 ∨ 0xDFFF < c.toNat ∧ c.toNat < 0x110000 := c.valid
  omega

theorem scalar?_eq_some_iff {n : Nat} {c : Char} : scalar? n = some c ↔ n = c.toNat := by
  have hvalid : ∀ c : Char, c.toNat < 0xD800 ∨ 0xDFFF < c.toNat ∧ c.toNat < 0x110000 := fun c => c.valid
  unfold scalar?
  constructor
  · intro h
    split at h
    · next hn =>
      have hn : n < 0xD800 ∨ 0xDFFF < n ∧ n < 0x110000 := by simpa using hn
      have hchar : (Char.ofNat n).toNat = n := by
        rw [Char.ofNat, dif_pos hn]
        rfl
      rw [← Option.some.inj h, hchar]
    · exact absurd h (by simp)
  · rintro rfl
    rw [if_pos (by simpa using hvalid c), Char.ofNat_toNat]

/-- Every character beyond ASCII is encoded so. -/
theorem multibyte_ofChar {c : Char} (h : 0x80 ≤ c.toNat) : Multibyte (ofChar c) c.toNat := by
  have hlt := toNat_lt c
  have hv : c.val.toNat = c.toNat := rfl
  unfold ofChar String.utf8EncodeChar
  simp only [hv]
  rw [if_neg (by omega)]
  split
  · have hcode := Multibyte.two (by omega : 2 ≤ c.toNat / 64 % 32 ∧ c.toNat / 64 % 32 < 32)
      (by omega : c.toNat % 64 < 64)
    rwa [show c.toNat / 64 % 32 * 64 + c.toNat % 64 = c.toNat by omega] at hcode
  · split
    · have hsum : c.toNat / 4096 % 16 * 4096 + c.toNat / 64 % 64 * 64 + c.toNat % 64 = c.toNat := by
        omega
      have hcode := Multibyte.three (by omega : c.toNat / 4096 % 16 < 16)
        (by omega : c.toNat / 64 % 64 < 64) (by omega : c.toNat % 64 < 64) (by omega)
      rwa [hsum] at hcode
    · have hsum : c.toNat / 262144 % 8 * 262144 + c.toNat / 4096 % 64 * 4096 + c.toNat / 64 % 64 * 64 +
          c.toNat % 64 = c.toNat := by
        omega
      have hcode := Multibyte.four (by omega : c.toNat / 262144 % 8 < 5)
        (by omega : c.toNat / 4096 % 64 < 64) (by omega : c.toNat / 64 % 64 < 64)
        (by omega : c.toNat % 64 < 64) (by omega)
      rwa [hsum] at hcode

/-- No other bytes encode a character. -/
theorem Multibyte.eq_ofChar {w : Text} {c : Char} (h : Multibyte w c.toNat) : w = ofChar c := by
  have hv : c.val.toNat = c.toNat := rfl
  unfold ofChar String.utf8EncodeChar
  simp only [hv]
  generalize c.toNat = n at h
  cases h with
  | @two y x hy hx =>
    rw [if_neg (by omega), if_pos (by omega), show (y * 64 + x) / 64 % 32 = y by omega,
      show (y * 64 + x) % 64 = x by omega]
  | @three y x₁ x₂ hy h₁ h₂ hn =>
    rw [if_neg (by omega), if_neg (by omega), if_pos (by omega),
      show (y * 4096 + x₁ * 64 + x₂) / 4096 % 16 = y by omega,
      show (y * 4096 + x₁ * 64 + x₂) / 64 % 64 = x₁ by omega,
      show (y * 4096 + x₁ * 64 + x₂) % 64 = x₂ by omega]
  | @four y x₁ x₂ x₃ hy h₁ h₂ h₃ hn =>
    rw [if_neg (by omega), if_neg (by omega), if_neg (by omega),
      show (y * 262144 + x₁ * 4096 + x₂ * 64 + x₃) / 262144 % 8 = y by omega,
      show (y * 262144 + x₁ * 4096 + x₂ * 64 + x₃) / 4096 % 64 = x₁ by omega,
      show (y * 262144 + x₁ * 4096 + x₂ * 64 + x₃) / 64 % 64 = x₂ by omega,
      show (y * 262144 + x₁ * 4096 + x₂ * 64 + x₃) % 64 = x₃ by omega]

theorem ofChar_of_lt {c : Char} (h : c.toNat < 0x80) : ofChar c = [UInt8.ofNat c.toNat] := by
  have hv : c.val.toNat = c.toNat := rfl
  unfold ofChar String.utf8EncodeChar
  simp only [hv]
  rw [if_pos (by omega)]

theorem multibyte?_of_multibyte {w : Text} {c : Char} (h : Multibyte w c.toNat) (rest : Text) :
    multibyte? (w ++ rest) = some (c, rest) := by
  have hcont : ∀ {x}, x < 64 → continuation? (UInt8.ofNat (x + 0x80)) = some x :=
    fun hx => continuation?_eq_some_iff.mpr ⟨hx, rfl⟩
  generalize hn : c.toNat = n at h
  have hc : scalar? n = some c := scalar?_eq_some_iff.mpr hn.symm
  cases h with
  | @two y x hy hx =>
    have hb : (UInt8.ofNat (y + 0xC0)).toNat = y + 0xC0 := toNat_ofNat_of_lt (by omega)
    have h2 : (0xC2 ≤ UInt8.ofNat (y + 0xC0) && UInt8.ofNat (y + 0xC0) ≤ 0xDF) = true := by
      rw [between_iff, hb]
      exact ⟨by show 0xC2 ≤ _; omega, by show _ ≤ 0xDF; omega⟩
    simp only [multibyte?, List.cons_append, List.nil_append, h2, if_true, hcont hx, hb,
      Nat.add_sub_cancel, Option.bind_eq_bind, Option.bind_some, hc, Option.pure_def]
  | @three y x₁ x₂ hy h₁ h₂ hlong =>
    have hb : (UInt8.ofNat (y + 0xE0)).toNat = y + 0xE0 := toNat_ofNat_of_lt (by omega)
    have h2 : ¬(0xC2 ≤ UInt8.ofNat (y + 0xE0) && UInt8.ofNat (y + 0xE0) ≤ 0xDF) = true := by
      rw [between_iff, hb]
      exact fun hle => absurd hle.2 (by show ¬_ ≤ 0xDF; omega)
    have h3 : (0xE0 ≤ UInt8.ofNat (y + 0xE0) && UInt8.ofNat (y + 0xE0) ≤ 0xEF) = true := by
      rw [between_iff, hb]
      exact ⟨by show 0xE0 ≤ _; omega, by show _ ≤ 0xEF; omega⟩
    simp only [multibyte?, List.cons_append, List.nil_append, h2, h3, if_true, if_false, hcont h₁,
      hcont h₂, hb, Nat.add_sub_cancel, Option.bind_eq_bind, Option.bind_some, hc, Option.pure_def,
      Bool.false_eq_true, Nat.not_lt.mpr hlong]
  | @four y x₁ x₂ x₃ hy h₁ h₂ h₃ hlong =>
    have hb : (UInt8.ofNat (y + 0xF0)).toNat = y + 0xF0 := toNat_ofNat_of_lt (by omega)
    have h2 : ¬(0xC2 ≤ UInt8.ofNat (y + 0xF0) && UInt8.ofNat (y + 0xF0) ≤ 0xDF) = true := by
      rw [between_iff, hb]
      exact fun hle => absurd hle.2 (by show ¬_ ≤ 0xDF; omega)
    have h3 : ¬(0xE0 ≤ UInt8.ofNat (y + 0xF0) && UInt8.ofNat (y + 0xF0) ≤ 0xEF) = true := by
      rw [between_iff, hb]
      exact fun hle => absurd hle.2 (by show ¬_ ≤ 0xEF; omega)
    have h4 : (0xF0 ≤ UInt8.ofNat (y + 0xF0) && UInt8.ofNat (y + 0xF0) ≤ 0xF4) = true := by
      rw [between_iff, hb]
      exact ⟨by show 0xF0 ≤ _; omega, by show _ ≤ 0xF4; omega⟩
    rw [List.cons_append, List.cons_append, List.cons_append, List.cons_append, List.nil_append]
    unfold multibyte?
    simp only
    rw [if_neg h2, if_neg h3, if_pos h4, hcont h₁, hcont h₂, hcont h₃, hb, Nat.add_sub_cancel]
    -- Rewritten one by one: as a step of computation this would compare with the bound in unary.
    rw [Option.bind_eq_bind, Option.bind_some, Option.bind_eq_bind, Option.bind_some,
      Option.bind_eq_bind, Option.bind_some, if_neg (Nat.not_lt.mpr hlong), hc]
    rfl

/-- A first byte is its payload above the mark of its range. -/
theorem payload_of_between {mark b lo hi : UInt8} (hmark : mark.toNat ≤ lo.toNat)
    (hb : (lo ≤ b && b ≤ hi) = true) :
    (lo.toNat - mark.toNat ≤ b.toNat - mark.toNat ∧ b.toNat - mark.toNat ≤ hi.toNat - mark.toNat) ∧
      b = UInt8.ofNat (b.toNat - mark.toNat + mark.toNat) := by
  have hrange := between_iff.mp hb
  rw [Nat.sub_add_cancel (by omega), UInt8.ofNat_toNat]
  exact ⟨by omega, rfl⟩

theorem multibyte_of_multibyte? {t rest : Text} {c : Char} (h : multibyte? t = some (c, rest)) :
    ∃ w, t = w ++ rest ∧ Multibyte w c.toNat := by
  cases t with
  | nil => exact absurd h (by simp [multibyte?])
  | cons b t =>
    simp only [multibyte?] at h
    split at h
    · next h2 =>
      obtain ⟨hy, hb⟩ := payload_of_between (show (0xC0 : UInt8).toNat ≤ _ by decide) h2
      split at h
      · simp only [Option.bind_eq_bind, Option.bind_eq_some_iff, Option.pure_def] at h
        obtain ⟨x, hx, c', hc, heq⟩ := h
        cases heq
        obtain ⟨hlt, rfl⟩ := continuation?_eq_some_iff.mp hx
        rw [← scalar?_eq_some_iff.mp hc]
        exact ⟨[_, _], congrArg (· :: _) hb, .two ⟨hy.1, Nat.lt_succ_of_le hy.2⟩ hlt⟩
      · exact absurd h (by simp)
    · split at h
      · next h3 =>
        obtain ⟨hy, hb⟩ := payload_of_between (show (0xE0 : UInt8).toNat ≤ _ by decide) h3
        split at h
        · simp only [Option.bind_eq_bind, Option.bind_eq_some_iff] at h
          obtain ⟨x₁, hx₁, x₂, hx₂, h⟩ := h
          split at h
          · exact absurd h (by simp)
          · next hlong =>
            simp only [Option.pure_def, Option.bind_eq_some_iff] at h
            obtain ⟨c', hc, heq⟩ := h
            cases heq
            obtain ⟨hlt₁, rfl⟩ := continuation?_eq_some_iff.mp hx₁
            obtain ⟨hlt₂, rfl⟩ := continuation?_eq_some_iff.mp hx₂
            rw [← scalar?_eq_some_iff.mp hc]
            exact ⟨[_, _, _], congrArg (· :: _) hb,
              .three (Nat.lt_succ_of_le hy.2) hlt₁ hlt₂ (Nat.not_lt.mp hlong)⟩
        · exact absurd h (by simp)
      · split at h
        · next h4 =>
          obtain ⟨hy, hb⟩ := payload_of_between (show (0xF0 : UInt8).toNat ≤ _ by decide) h4
          split at h
          · simp only [Option.bind_eq_bind, Option.bind_eq_some_iff] at h
            obtain ⟨x₁, hx₁, x₂, hx₂, x₃, hx₃, h⟩ := h
            split at h
            · exact absurd h (by simp)
            · next hlong =>
              simp only [Option.pure_def, Option.bind_eq_some_iff] at h
              obtain ⟨c', hc, heq⟩ := h
              cases heq
              obtain ⟨hlt₁, rfl⟩ := continuation?_eq_some_iff.mp hx₁
              obtain ⟨hlt₂, rfl⟩ := continuation?_eq_some_iff.mp hx₂
              obtain ⟨hlt₃, rfl⟩ := continuation?_eq_some_iff.mp hx₃
              rw [← scalar?_eq_some_iff.mp hc]
              exact ⟨[_, _, _, _], congrArg (· :: _) hb,
                .four (Nat.lt_succ_of_le hy.2) hlt₁ hlt₂ hlt₃ (Nat.not_lt.mp hlong)⟩
          · exact absurd h (by simp)
        · exact absurd h (by simp)

/-- The reader cuts off a character exactly where its encoding stands. -/
theorem multibyte?_eq_some_iff {t rest : Text} {c : Char} :
    multibyte? t = some (c, rest) ↔ ∃ w, t = w ++ rest ∧ Multibyte w c.toNat := by
  refine ⟨multibyte_of_multibyte?, ?_⟩
  rintro ⟨w, rfl, h⟩
  exact multibyte?_of_multibyte h rest

theorem Multibyte.ne_nil {w : Text} {n : Nat} (h : Multibyte w n) : w ≠ [] := by
  cases h <;> exact List.cons_ne_nil _ _

/-- Beyond ASCII every byte of an encoding is. -/
theorem Multibyte.not_ascii {w : Text} {n : Nat} (h : Multibyte w n) : ∀ b ∈ w, 0x80 ≤ b.toNat := by
  have hbyte : ∀ {m}, 0x80 ≤ m → m < 256 → 0x80 ≤ (UInt8.ofNat m).toNat := by
    intro m hlo hhi
    rw [toNat_ofNat_of_lt hhi]
    exact hlo
  cases h with
  | two hy hx =>
    intro b hb
    simp only [List.mem_cons, List.not_mem_nil, or_false] at hb
    rcases hb with rfl | rfl <;> exact hbyte (by omega) (by omega)
  | three hy h₁ h₂ _ =>
    intro b hb
    simp only [List.mem_cons, List.not_mem_nil, or_false] at hb
    rcases hb with rfl | rfl | rfl <;> exact hbyte (by omega) (by omega)
  | four hy h₁ h₂ h₃ _ =>
    intro b hb
    simp only [List.mem_cons, List.not_mem_nil, or_false] at hb
    rcases hb with rfl | rfl | rfl | rfl <;> exact hbyte (by omega) (by omega)

/-! ## Texts -/

theorem next?_ofChar (c : Char) (rest : Text) : next? (ofChar c ++ rest) = some (.scalar c, rest) := by
  by_cases h : c.toNat < 0x80
  · have hb : (UInt8.ofNat c.toNat).toNat = c.toNat := toNat_ofNat_of_lt (by omega)
    have hascii : UInt8.ofNat c.toNat < 0x80 := by
      rw [UInt8.lt_iff_toNat_lt, hb]
      exact h
    rw [ofChar_of_lt h]
    simp only [List.cons_append, List.nil_append, next?, hascii, if_true, hb, Char.ofNat_toNat]
  · have hcode := multibyte_ofChar (Nat.not_lt.mp h)
    have hread := multibyte?_of_multibyte hcode rest
    cases hw : ofChar c with
    | nil => exact absurd hw hcode.ne_nil
    | cons b w =>
      have hb : ¬b < 0x80 := Nat.not_lt.mpr (hcode.not_ascii b (hw ▸ List.mem_cons_self))
      rw [hw] at hread
      simp only [List.cons_append, next?, hb, if_false]
      rw [List.cons_append] at hread
      rw [hread]

theorem eq_bytes_of_next? {t rest : Text} {p : Piece} (h : next? t = some (p, rest)) :
    t = p.bytes ++ rest := by
  cases t with
  | nil => exact absurd h (by simp [next?])
  | cons b t =>
    simp only [next?] at h
    split at h
    · next hb =>
      cases h
      have hb : b.toNat < 0x80 := hb
      have hchar : (Char.ofNat b.toNat).toNat = b.toNat := by
        rw [Char.ofNat, dif_pos (Or.inl (by omega))]
        rfl
      rw [Piece.bytes, ofChar_of_lt (by omega), hchar, UInt8.ofNat_toNat]
      rfl
    · split at h
      · next c t' hm =>
        cases h
        obtain ⟨w, hw, hcode⟩ := multibyte?_eq_some_iff.mp hm
        rw [hw, hcode.eq_ofChar]
        rfl
      · cases h
        rfl

theorem pieces_of_next? {t rest : Text} {p : Piece} (h : next? t = some (p, rest)) :
    pieces t = p :: pieces rest := by
  rw [pieces]
  split
  · next hnone => rw [hnone] at h; exact absurd h (by simp)
  · next p' rest' hsome =>
    rw [hsome] at h
    cases h
    rfl

theorem next?_eq_none_iff {t : Text} : next? t = none ↔ t = [] := by
  cases t with
  | nil => exact ⟨fun _ => rfl, fun _ => rfl⟩
  | cons b t =>
    refine ⟨fun h => ?_, fun h => absurd h (List.cons_ne_nil b t)⟩
    simp only [next?] at h
    split at h
    · exact absurd h (by simp)
    · split at h <;> exact absurd h (by simp)

theorem pieces_nil : pieces [] = [] := by
  rw [pieces]
  rfl

theorem flatMap_bytes_pieces (t : Text) : t.pieces.flatMap Piece.bytes = t := by
  induction hn : t.length using Nat.strongRecOn generalizing t with
  | ind n ih =>
    cases h : next? t with
    | none =>
      rw [next?_eq_none_iff.mp h, pieces_nil]
      rfl
    | some q =>
      obtain ⟨p, rest⟩ := q
      have hrest := ih rest.length (hn ▸ next?_length h) rest rfl
      rw [pieces_of_next? h, List.flatMap_cons, hrest, ← eq_bytes_of_next? h]

theorem pieces_ofChars (cs : List Char) : pieces (ofChars cs) = cs.map .scalar := by
  induction cs with
  | nil => exact pieces_nil
  | cons c cs ih =>
    rw [ofChars, List.flatMap_cons, pieces_of_next? (next?_ofChar c _), List.map_cons]
    exact congrArg _ ih

/-- A valid text is made of its characters. -/
theorem ofChars_chars {t : Text} (h : t.isValid = true) : ofChars t.chars = t := by
  rw [isValid, List.all_eq_true] at h
  have hpieces : ofChars t.chars = t.pieces.flatMap Piece.bytes := by
    rw [ofChars, chars, List.flatMap_map, List.flatMap_def, List.flatMap_def]
    refine congrArg List.flatten (List.map_congr_left fun p hp => ?_)
    cases p with
    | scalar c => rfl
    | stray b => exact absurd (h _ hp) (by simp)
  rw [hpieces, flatMap_bytes_pieces]

/-- The valid texts are those that are made of characters. -/
theorem isValid_iff {t : Text} : t.isValid = true ↔ ∃ cs, t = ofChars cs := by
  constructor
  · intro h
    exact ⟨t.chars, (ofChars_chars h).symm⟩
  · rintro ⟨cs, rfl⟩
    rw [isValid, pieces_ofChars, List.all_map]
    exact List.all_eq_true.mpr fun _ _ => rfl

theorem isValid_append {t u : Text} (ht : t.isValid = true) (hu : u.isValid = true) :
    (t ++ u).isValid = true := by
  refine isValid_iff.mpr ⟨t.chars ++ u.chars, ?_⟩
  rw [ofChars, List.flatMap_append, ← ofChars, ← ofChars, ofChars_chars ht, ofChars_chars hu]

end Text
end FeltLowering
