import FeltLowering.Proofs.Text.Utf8
import FeltLowering.Text.Blank
import Mathlib.Data.List.TakeWhile

/-
Trimming.

What is cut off the ends of a text is white space (`eq_append_trim`), and all white space
around characters that are none is cut off (`trim_padded`).
-/
namespace FeltLowering
namespace Text

def Blank (t : Text) : Prop := ∃ cs : List Char, (∀ c ∈ cs, isBlank c.toNat = true) ∧ t = ofChars cs

theorem blank_of_pieces {ps : List Piece} (h : ∀ p ∈ ps, p.isBlank = true) :
    Blank (ps.flatMap Piece.bytes) := by
  induction ps with
  | nil => exact ⟨[], fun c hc => absurd hc List.not_mem_nil, rfl⟩
  | cons p ps ih =>
    obtain ⟨cs, hcs, hps⟩ := ih fun q hq => h q (List.mem_cons_of_mem p hq)
    have hp := h p List.mem_cons_self
    cases p with
    | stray b => cases hp
    | scalar c =>
      refine ⟨c :: cs, fun c' hc' => ?_, ?_⟩
      · rcases List.mem_cons.mp hc' with rfl | hc'
        · exact hp
        · exact hcs c' hc'
      · rw [List.flatMap_cons, hps]
        rfl

/-- A list is what is left of it between the elements that are cut off at its ends. -/
theorem exists_ends {α : Type} (p : α → Bool) (l : List α) :
    ∃ front back, (∀ a ∈ front, p a = true) ∧ (∀ a ∈ back, p a = true) ∧
      l = front ++ ((l.dropWhile p).reverse.dropWhile p).reverse ++ back := by
  refine ⟨l.takeWhile p, ((l.dropWhile p).reverse.takeWhile p).reverse, fun a ha => ?_,
    fun a ha => ?_, ?_⟩
  · exact List.mem_takeWhile_imp ha
  · exact List.mem_takeWhile_imp (List.mem_reverse.mp ha)
  · rw [List.append_assoc, ← List.reverse_append, List.takeWhile_append_dropWhile,
      List.reverse_reverse, List.takeWhile_append_dropWhile]

theorem eq_append_trim (t : Text) :
    ∃ before after, Blank before ∧ Blank after ∧ t = before ++ t.trim ++ after := by
  obtain ⟨front, back, hfront, hback, hpieces⟩ := exists_ends Piece.isBlank t.pieces
  refine ⟨_, _, blank_of_pieces hfront, blank_of_pieces hback, ?_⟩
  calc t = t.pieces.flatMap Piece.bytes := (flatMap_bytes_pieces t).symm
    _ = _ := by
      rw [trim, ← List.flatMap_append, ← List.flatMap_append, ← hpieces]

/-- Elements that are kept protect what follows them. -/
theorem dropWhile_append_of_kept {α : Type} {p : α → Bool} {kept : List α} (hne : kept ≠ [])
    (h : ∀ a ∈ kept, p a = false) (rest : List α) : (kept ++ rest).dropWhile p = kept ++ rest := by
  cases kept with
  | nil => exact absurd rfl hne
  | cons a kept =>
    rw [List.cons_append, List.dropWhile_cons_of_neg]
    rw [h a List.mem_cons_self]
    exact Bool.false_ne_true

theorem trim_padded {before after : Text} (hb : Blank before) (ha : Blank after) {cs : List Char}
    (hne : cs ≠ []) (h : ∀ c ∈ cs, isBlank c.toNat = false) :
    trim (before ++ ofChars cs ++ after) = ofChars cs := by
  obtain ⟨bs, hbs, rfl⟩ := hb
  obtain ⟨as, has, rfl⟩ := ha
  have hpieces : pieces (ofChars bs ++ ofChars cs ++ ofChars as) =
      bs.map .scalar ++ (cs.map .scalar ++ as.map .scalar) := by
    rw [ofChars, ofChars, ofChars, ← List.flatMap_append, ← List.flatMap_append]
    exact (pieces_ofChars _).trans (by simp)
  have hkept : ∀ p ∈ cs.map Piece.scalar, p.isBlank = false := by
    intro p hp
    obtain ⟨c, hc, rfl⟩ := List.mem_map.mp hp
    exact h c hc
  have hcut : ∀ {l : List Char}, (∀ c ∈ l, isBlank c.toNat = true) →
      ∀ p ∈ l.map Piece.scalar, p.isBlank = true := by
    intro l hl p hp
    obtain ⟨c, hc, rfl⟩ := List.mem_map.mp hp
    exact hl c hc
  have hmap : cs.map Piece.scalar ≠ [] := by simpa using hne
  rw [trim, hpieces, List.dropWhile_append_of_pos (hcut hbs), dropWhile_append_of_kept hmap hkept,
    List.reverse_append,
    List.dropWhile_append_of_pos fun p hp => hcut has p (List.mem_reverse.mp hp),
    ← List.append_nil (cs.map Piece.scalar).reverse,
    dropWhile_append_of_kept (by simpa using hmap) fun p hp => hkept p (List.mem_reverse.mp hp),
    List.append_nil, List.reverse_reverse, List.flatMap_map]
  rfl

/-- The visible characters of ASCII are no white space. -/
theorem exists_chars_of_visible {t : Text} (h : ∀ b ∈ t, 0x20 < b.toNat ∧ b.toNat < 0x80) :
    ∃ cs : List Char, t = ofChars cs ∧ ∀ c ∈ cs, isBlank c.toNat = false := by
  induction t with
  | nil => exact ⟨[], rfl, fun c hc => absurd hc List.not_mem_nil⟩
  | cons b t ih =>
    obtain ⟨cs, rfl, hcs⟩ := ih fun b' hb' => h b' (List.mem_cons_of_mem b hb')
    obtain ⟨hlow, hhigh⟩ := h b List.mem_cons_self
    obtain ⟨c, hc⟩ : ∃ c : Char, b.toNat = c.toNat := by
      have hsome : scalar? b.toNat = some (Char.ofNat b.toNat) :=
        if_pos (by simp only [Bool.or_eq_true, decide_eq_true_eq]; omega)
      exact ⟨_, scalar?_eq_some_iff.mp hsome⟩
    refine ⟨c :: cs, ?_, fun c' hc' => ?_⟩
    · have hbyte : ofChar c = [b] := by
        rw [ofChar_of_lt (by omega), ← hc, UInt8.ofNat_toNat]
      show b :: ofChars cs = ofChar c ++ ofChars cs
      rw [hbyte]
      rfl
    · rcases List.mem_cons.mp hc' with rfl | hc'
      · rw [← hc]
        simp only [isBlank, Bool.or_eq_false_iff, Bool.and_eq_false_iff, decide_eq_false_iff_not]
        omega
      · exact hcs c' hc'

end Text
end FeltLowering
