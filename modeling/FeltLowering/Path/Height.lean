import FeltLowering.Path

/-
Going up a path.

Cleaning makes no path longer, so the parent of a path is smaller than the path, unless it
is the path itself.  Going up from any path therefore comes to an end.
-/
namespace FeltLowering

namespace Text

theorem splitOn_ne_nil (b : UInt8) (t : Text) : splitOn b t ≠ [] := by
  cases t with
  | nil => simp [splitOn]
  | cons c t =>
    rw [splitOn]
    split
    · simp
    · split <;> simp

theorem splitOn_cons (b c : UInt8) (t : Text) :
    ∃ piece pieces, splitOn b t = piece :: pieces ∧
      splitOn b (c :: t) = if c == b then [] :: piece :: pieces else (c :: piece) :: pieces := by
  cases h : splitOn b t with
  | nil => exact absurd h (splitOn_ne_nil b t)
  | cons piece pieces => exact ⟨piece, pieces, rfl, by simp only [splitOn, h]⟩

theorem splitOn_concat_sep (b : UInt8) (t : Text) : splitOn b (t ++ [b]) = splitOn b t ++ [[]] := by
  induction t with
  | nil => simp [splitOn]
  | cons c t ih =>
    obtain ⟨piece, pieces, ht, hc⟩ := splitOn_cons b c t
    rw [List.cons_append, splitOn, ih, ht, hc]
    by_cases h : (c == b) = true
    · simp [h]
    · simp [h]

end Text

namespace Path

def extent : List Text → Nat
  | [] => 0
  | e :: es => e.length + 1 + extent es

theorem extent_cons (e : Text) (es : List Text) : extent (e :: es) = e.length + 1 + extent es := rfl

theorem extent_append (es es' : List Text) : extent (es ++ es') = extent es + extent es' := by
  induction es with
  | nil => exact (Nat.zero_add _).symm
  | cons e es ih =>
    rw [List.cons_append, extent_cons, extent_cons, ih]
    omega

theorem extent_reverse (es : List Text) : extent es.reverse = extent es := by
  induction es with
  | nil => rfl
  | cons e es ih =>
    rw [List.reverse_cons, extent_append, ih, extent_cons, extent_cons]
    exact Nat.add_comm _ _

theorem extent_splitOn (p : Text) : extent (Text.splitOn slash p) = p.length + 1 := by
  induction p with
  | nil => rfl
  | cons b p ih =>
    obtain ⟨piece, pieces, hp, hb⟩ := Text.splitOn_cons slash b p
    rw [hp, extent_cons] at ih
    rw [hb]
    by_cases h : (b == slash) = true
    · simp only [h, if_true, extent_cons, List.length_nil, List.length_cons]
      omega
    · simp only [h, if_false, Bool.false_eq_true, extent_cons, List.length_cons]
      omega

theorem extent_push_le (rooted : Bool) (done : List Text) (e : Text) :
    extent (push rooted done e) ≤ extent done + (e.length + 1) := by
  have hcons := extent_cons e done
  unfold push
  by_cases hskip : (e.isEmpty || e = Text.ofString ".") = true
  · rw [if_pos hskip]
    omega
  · rw [if_neg hskip]
    by_cases habove : e = Text.ofString ".."
    · rw [if_pos habove]
      cases done with
      | nil => cases rooted <;> simp [extent]
      | cons d rest =>
        by_cases hd : d = Text.ofString ".."
        · simp only [hd, if_true] at hcons ⊢
          omega
        · simp only [hd, if_false, extent_cons]
          omega
    · rw [if_neg habove]
      omega

theorem extent_foldl_push_le (rooted : Bool) (es done : List Text) :
    extent (es.foldl (push rooted) done) ≤ extent done + extent es := by
  induction es generalizing done with
  | nil => exact Nat.le_refl _
  | cons e es ih =>
    have hpush := extent_push_le rooted done e
    have hrest := ih (push rooted done e)
    rw [List.foldl_cons, extent_cons]
    omega

theorem length_join (es : List Text) : (Text.join [slash] es).length = extent es - 1 := by
  induction es with
  | nil => rfl
  | cons e es ih =>
    cases es with
    | nil => simp [Text.join, extent]
    | cons e' es =>
      rw [extent_cons, Text.join, List.length_append, List.length_append, ih, extent_cons]
      · simp only [List.length_singleton]
        omega
      · simp

/-- The empty piece in front of a first slash is not kept. -/
theorem extent_elements_le (p : Text) :
    extent ((Text.splitOn slash p).foldl (push (isAbsolute p)) []) + (isAbsolute p).toNat ≤ p.length + 1 := by
  cases p with
  | nil => decide
  | cons b q =>
    obtain ⟨piece, pieces, hq, hb⟩ := Text.splitOn_cons slash b q
    by_cases h : b = slash
    · have hroot : isAbsolute (b :: q) = true := by simp [isAbsolute, h]
      have hempty : push true [] [] = [] := rfl
      have hfold := extent_foldl_push_le true (Text.splitOn slash q) []
      rw [extent_splitOn] at hfold
      rw [hroot, hb, if_pos (by simp [h]), List.foldl_cons, hempty, ← hq]
      simp only [List.length_cons, Bool.toNat_true]
      exact Nat.add_le_add_right (by simpa [extent] using hfold) 1
    · have hroot : isAbsolute (b :: q) = false := by simp [isAbsolute, h]
      have hfold := extent_foldl_push_le false (Text.splitOn slash (b :: q)) []
      rw [extent_splitOn] at hfold
      rw [hroot]
      simpa [extent] using hfold

theorem length_clean_le {p : Text} (h : p ≠ []) : (clean p).length ≤ p.length := by
  have hpos : 0 < p.length := List.length_pos_iff.mpr h
  have helements := extent_elements_le p
  have hjoin := length_join ((Text.splitOn slash p).foldl (push (isAbsolute p)) []).reverse
  rw [extent_reverse] at hjoin
  unfold clean
  by_cases hroot : isAbsolute p = true
  · simp only [hroot, if_true, List.length_cons, Bool.toNat_true] at *
    omega
  · simp only [hroot, if_false, Bool.false_eq_true, Bool.toNat_false] at *
    split
    · exact hpos
    · omega

theorem clean_concat_slash {p : Text} (h : p ≠ []) : clean (p ++ [slash]) = clean p := by
  have hroot : isAbsolute (p ++ [slash]) = isAbsolute p := by
    cases p with
    | nil => exact absurd rfl h
    | cons b p => rfl
  simp only [clean, hroot, Text.splitOn_concat_sep, List.foldl_append]
  rfl

/-- What going up makes smaller: the length of a path, but nothing is smaller than the path
that means here. -/
def height (p : Text) : Nat := if p = Text.ofString "." then 0 else p.length + 1

theorem height_parent_lt {p : Text} (h : parent p ≠ p) : height (parent p) < height p := by
  have hup : ∀ q : Text, height q ≤ q.length + 1 := by
    intro q
    unfold height
    split <;> omega
  have hlen := (List.dropWhile_sublist (· != slash) (l := p.reverse)).length_le
  rw [List.length_reverse] at hlen
  cases hdir : p.reverse.dropWhile (· != slash) with
  | nil =>
    have hparent : parent p = Text.ofString "." := by
      unfold parent
      rw [hdir]
      rfl
    rw [hparent] at h ⊢
    simp only [height, if_true, if_neg h.symm]
    omega
  | cons b q =>
    have hb : b = slash := by
      have := List.head?_dropWhile_not (· != slash) p.reverse
      rw [hdir] at this
      simpa using this
    subst hb
    have hne : p ≠ Text.ofString "." := by
      rintro rfl
      have hnone : (Text.ofString ".").reverse.dropWhile (· != slash) = [] := by decide
      simp [hnone] at hdir
    rw [hdir, List.length_cons] at hlen
    have hparent : parent p = clean (q.reverse ++ [slash]) := by
      unfold parent
      rw [hdir, List.reverse_cons]
    have hheight : height p = p.length + 1 := if_neg hne
    rw [hheight]
    by_cases hq : q.reverse = []
    · have hroot : parent p = [slash] := by
        rw [hparent, hq]
        rfl
      -- A path of one byte that has a slash is the root, which is its own parent.
      have hlong : p.length ≠ 1 := by
        intro hone
        have hsuffix := List.dropWhile_suffix (· != slash) (l := p.reverse)
        rw [hdir, List.reverse_eq_nil_iff.mp hq] at hsuffix
        have heq := hsuffix.eq_of_length (by simp [hone])
        have hp : p = [slash] := by simpa using (congrArg List.reverse heq).symm
        exact h (hroot.trans hp.symm)
      have hone := hup (parent p)
      rw [hroot, List.length_singleton] at hone
      rw [hroot]
      omega
    · rw [clean_concat_slash hq] at hparent
      have hclean := length_clean_le hq
      have := hup (parent p)
      rw [hparent] at this ⊢
      rw [List.length_reverse] at hclean
      omega

end Path
end FeltLowering
