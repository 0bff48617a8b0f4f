import FeltLowering.Text.Normal

/-
Composition keeps a text from vanishing.

Whatever composition does to a text, some byte of it is left.  Every mark of a segment
has bytes, a segment is never empty, and no character decomposes to nothing.
-/
namespace FeltLowering
namespace Text

theorem ofChar_ne_nil (c : Char) : ofChar c ≠ [] := by
  unfold ofChar String.utf8EncodeChar
  simp only
  split
  · simp
  · split
    · simp
    · split <;> simp

theorem Piece.bytes_ne_nil (p : Piece) : p.bytes ≠ [] := by
  cases p with
  | scalar c => exact ofChar_ne_nil c
  | stray b => simp [Piece.bytes]

theorem flatMap_bytes_ne_nil {ps : List Piece} (h : ps ≠ []) : ps.flatMap Piece.bytes ≠ [] := by
  cases ps with
  | nil => exact absurd rfl h
  | cons p rest =>
    rw [List.flatMap_cons]
    exact fun he => p.bytes_ne_nil (List.append_eq_nil_iff.mp he).1

/-- A look-up only gives values that stand in the table. -/
theorem mem_of_findKeyBetween? {α : Type} {table : Array (Nat × α)} {c lo hi : Nat} {v : α}
    (h : findKeyBetween? table c lo hi = some v) : ∃ k, (k, v) ∈ table := by
  fun_induction findKeyBetween? table c lo hi with
  | case1 => cases h
  | case2 _ _ _ _ _ _ _ _ ih => exact ih h
  | case3 _ _ _ _ _ _ _ _ _ ih => exact ih h
  | case4 lo hi _ mid key value hrow _ _ =>
    cases h
    obtain ⟨hlt, heq⟩ := Array.getElem?_eq_some_iff.mp hrow
    exact ⟨key, Array.mem_of_getElem heq⟩
  | case5 => cases h

namespace Normal

theorem rows_ne_nil {table : Array (Nat × List Nat)}
    (h : (table.toList.all fun row => !row.2.isEmpty) = true) : ∀ row ∈ table, row.2 ≠ [] := by
  intro row hrow he
  have := List.all_eq_true.mp h row (Array.mem_def.mp hrow)
  rw [he] at this
  exact absurd this (by decide)

theorem decompositions_ne_nil : ∀ row ∈ decompositions, row.2 ≠ [] := by
  intro row hrow
  simp only [decompositions, Array.mem_append] at hrow
  rcases hrow with ((((((((h | h) | h) | h) | h) | h) | h) | h) | h) | h
  all_goals exact rows_ne_nil (by decide +kernel) row h

theorem decomposition?_ne_nil {c : Nat} {d : List Nat} (h : decomposition? c = some d) : d ≠ [] := by
  unfold decomposition? at h
  split at h
  · cases h
  · obtain ⟨k, hk⟩ := mem_of_findKeyBetween? h
    exact decompositions_ne_nil (k, d) hk

/-! ## Marks -/

def Solid (marks : List Mark) : Prop := ∀ m ∈ marks, m.bytes ≠ []

theorem ofCode_bytes_ne_nil (c : Nat) : (Mark.ofCode c).bytes ≠ [] := ofChar_ne_nil _

theorem Solid.cons {m : Mark} {marks : List Mark} (hm : m.bytes ≠ []) (h : Solid marks) :
    Solid (m :: marks) :=
  List.forall_mem_cons.mpr ⟨hm, h⟩

theorem insertMark_ne_nil (m : Mark) (marks : List Mark) : insertMark m marks ≠ [] := by
  cases marks with
  | nil => simp [insertMark]
  | cons last before =>
    unfold insertMark
    split <;> simp

theorem mem_insertMark {m x : Mark} {marks : List Mark} (h : x ∈ insertMark m marks) :
    x = m ∨ x ∈ marks := by
  induction marks with
  | nil => exact Or.inl (List.mem_singleton.mp h)
  | cons last before ih =>
    unfold insertMark at h
    split at h
    · exact List.mem_cons.mp h
    · rcases List.mem_cons.mp h with rfl | h
      · exact Or.inr List.mem_cons_self
      · exact (ih h).imp_right (List.mem_cons_of_mem last)

theorem Solid.insertMark {m : Mark} {marks : List Mark} (hm : m.bytes ≠ []) (h : Solid marks) :
    Solid (insertMark m marks) := by
  intro x hx
  rcases mem_insertMark hx with rfl | hx
  · exact hm
  · exact h x hx

/-- Composition keeps at least the starter, and every mark it leaves has bytes. -/
theorem composeMarks_solid {front done rest : List Mark} {base : Mark} {hangul : Bool}
    (hf : Solid front) (hb : base.bytes ≠ []) (hd : Solid done) (hr : Solid rest) :
    composeMarks front base done hangul rest ≠ [] ∧
      Solid (composeMarks front base done hangul rest) := by
  induction rest generalizing front base done hangul with
  | nil =>
    refine ⟨by simp [composeMarks], fun m hm => ?_⟩
    simp only [composeMarks, List.mem_append, List.mem_reverse, List.mem_cons] at hm
    rcases hm with hm | rfl | hm
    · exact hf m hm
    · exact hb
    · exact hd m hm
  | cons m rest ih =>
    have hm := hr m List.mem_cons_self
    have hrest : Solid rest := fun x hx => hr x (List.mem_cons_of_mem m hx)
    have hlast : (done.headD base).bytes ≠ [] := by
      cases done with
      | nil => exact hb
      | cons x done => exact hd x List.mem_cons_self
    have hdrop : Solid (done.drop 1 ++ base :: front) := by
      intro x hx
      rcases List.mem_append.mp hx with hx | hx
      · exact hd x (List.mem_of_mem_drop hx)
      · exact Solid.cons hb hf x hx
    have hnil : Solid [] := fun x hx => absurd hx List.not_mem_nil
    simp only [composeMarks]
    -- The front, the base and the rest of the marks, whether or not the base is renewed.
    generalize (decide ((done.headD base).rank = 0) && !done.isEmpty &&
      (hangul || isJamo m.code || combinesBackward m.code)) = renew
    cases renew with
    | true =>
      simp only [if_true]
      split
      · exact ih hdrop (ofChar_ne_nil _) hnil hrest
      · exact ih hdrop hlast (Solid.cons hm hnil) hrest
    | false =>
      simp only [Bool.false_eq_true, if_false]
      split
      · exact ih hf (ofChar_ne_nil _) hd hrest
      · exact ih hf hb (Solid.cons hm hd) hrest

theorem flush_ne_nil {marks : List Mark} (hne : marks ≠ []) (h : Solid marks) : flush marks ≠ [] := by
  unfold flush
  split
  · next he => exact absurd (List.reverse_eq_nil_iff.mp he) hne
  · next base rest he =>
    have hmem : ∀ m ∈ base :: rest, m.bytes ≠ [] := fun m hm =>
      h m (List.mem_reverse.mp (he ▸ hm))
    have hnil : Solid [] := fun x hx => absurd hx List.not_mem_nil
    have hcs : composeMarks [] base [] false rest ≠ [] ∧
        Solid (composeMarks [] base [] false rest) :=
      composeMarks_solid hnil (hmem base List.mem_cons_self) hnil
        (fun m hm => hmem m (List.mem_cons_of_mem base hm))
    obtain ⟨hc, hs⟩ := hcs
    obtain ⟨m, ms, hcons⟩ := List.exists_cons_of_ne_nil hc
    rw [hcons, List.flatMap_cons]
    rw [hcons] at hs
    exact fun he => hs m List.mem_cons_self (List.append_eq_nil_iff.mp he).1

/-! ## Segments -/

theorem foldl_ofCode_solid {marks : List Mark} (h : Solid marks) (ds : List Nat) :
    Solid (ds.foldl (fun ms d => Mark.ofCode d :: ms) marks) ∧
      (ds ≠ [] → ds.foldl (fun ms d => Mark.ofCode d :: ms) marks ≠ []) := by
  induction ds generalizing marks with
  | nil => exact ⟨h, fun hne => absurd rfl hne⟩
  | cons d ds ih =>
    have hcons : Solid (Mark.ofCode d :: marks) := Solid.cons (ofCode_bytes_ne_nil d) h
    refine ⟨(ih hcons).1, fun _ => ?_⟩
    cases ds with
    | nil => simp
    | cons e ds => exact (ih hcons).2 (by simp)

theorem foldl_insert_solid {marks : List Mark} (h : Solid marks) (out : Text) (ds : List Nat)
    (hne : marks ≠ [] ∨ ds ≠ []) :
    Solid (ds.foldl (fun (out, marks) d =>
      if !isModifier d && !marks.isEmpty then (out ++ flush marks, [Mark.ofCode d])
      else (out, insertMark (.ofCode d) marks)) (out, marks)).2 ∧
    (ds.foldl (fun (out, marks) d =>
      if !isModifier d && !marks.isEmpty then (out ++ flush marks, [Mark.ofCode d])
      else (out, insertMark (.ofCode d) marks)) (out, marks)).2 ≠ [] := by
  induction ds generalizing marks out with
  | nil => exact ⟨h, hne.resolve_right (fun hd => hd rfl)⟩
  | cons d ds ih =>
    simp only [List.foldl_cons]
    by_cases hc : (!isModifier d && !marks.isEmpty) = true
    · rw [if_pos hc]
      exact ih (Solid.cons (ofCode_bytes_ne_nil d) fun x hx => absurd hx List.not_mem_nil) _
        (Or.inl (by simp))
    · rw [if_neg hc]
      exact ih (h.insertMark (ofCode_bytes_ne_nil d)) _ (Or.inl (insertMark_ne_nil _ _))

/-- A character adds at least one mark. -/
theorem addPiece_solid {marks : List Mark} (h : Solid marks) (out : Text) (p : Piece) :
    Solid (addPiece out marks p).2 ∧ (addPiece out marks p).2 ≠ [] := by
  cases p with
  | stray b => exact ⟨h.insertMark (by simp), insertMark_ne_nil _ _⟩
  | scalar c =>
    simp only [addPiece]
    split
    · next hh =>
      have hd : decompose c.toNat ≠ [] := by
        unfold decompose
        rw [if_pos hh]
        simp only
        split <;> simp
      exact ⟨(foldl_ofCode_solid h _).1, (foldl_ofCode_solid h _).2 hd⟩
    · split
      · exact ⟨h.insertMark (ofCode_bytes_ne_nil _), insertMark_ne_nil _ _⟩
      · next d hd => exact foldl_insert_solid h out d (Or.inr (decomposition?_ne_nil hd))

/-- A segment that has marks, or characters to take, has text. -/
theorem segment_ne_nil {marks : List Mark} (h : Solid marks) (out : Text) (run : Nat)
    (ps : List Piece) (hne : marks ≠ [] ∨ ps ≠ []) : (segment out marks run ps).1 ≠ [] := by
  have happend : ∀ (a : Text) {ms : List Mark}, Solid ms → ms ≠ [] → a ++ flush ms ≠ [] :=
    fun a ms hs hm he => flush_ne_nil hm hs (List.append_eq_nil_iff.mp he).2
  induction ps generalizing out marks run with
  | nil => exact happend out h (hne.resolve_right (fun hp => hp rfl))
  | cons p rest ih =>
    have hadd := addPiece_solid h out p
    unfold segment
    split
    · exact happend out (Solid.cons (ofCode_bytes_ne_nil _) h) (by simp)
    · by_cases hm : marks.isEmpty = true
      · rw [if_pos hm]
        exact ih hadd.1 _ _ (Or.inl hadd.2)
      · rw [if_neg hm]
        exact happend out h (fun he => hm (by rw [he]; rfl))
    · exact ih hadd.1 _ _ (Or.inl hadd.2)

theorem composeAll_ne_nil (rounds run : Nat) {ps : List Piece} (h : ps ≠ []) :
    composeAll rounds run ps ≠ [] := by
  cases rounds with
  | zero => exact flatMap_bytes_ne_nil h
  | succ rounds =>
    obtain ⟨p, rest, rfl⟩ := List.exists_cons_of_ne_nil h
    have hseg : (segment [] [] run (p :: rest)).1 ≠ [] :=
      segment_ne_nil (fun x hx => absurd hx List.not_mem_nil) [] run _ (Or.inr h)
    intro he
    simp only [composeAll, List.append_eq_nil_iff] at he
    exact hseg he.1.1

end Normal

/-- Only the empty text composes to the empty text. -/
theorem normalize_eq_nil_iff (t : Text) : t.normalize = [] ↔ t = [] := by
  constructor
  · intro h
    simp only [normalize] at h
    split at h
    · exact h
    · next span hspan =>
      simp only [List.append_eq_nil_iff] at h
      have hps : (Normal.complete t).1 ≠ [] := by
        intro he
        rw [he] at hspan
        simp [Normal.composedSpan] at hspan
      by_cases hdrop : (Normal.complete t).1.drop span = []
      · have htake : (Normal.complete t).1.take span ≠ [] := by
          rw [List.take_of_length_le (List.drop_eq_nil_iff.mp hdrop)]
          exact hps
        exact absurd h.1.1 (flatMap_bytes_ne_nil htake)
      · exact absurd h.1.2 (Normal.composeAll_ne_nil _ _ hdrop)
  · rintro rfl
    simp [normalize, Normal.complete, next?, Normal.composedSpan]

end Text
end FeltLowering
