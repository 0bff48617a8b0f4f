import FeltLowering.Path
import Mathlib.Data.List.TakeWhile

/-
Paths and their elements.

The elements of a path are what stands between its slashes, so elements without slashes
can be joined and split again.  A file in a directory has the elements of the directory,
resolved, and its own name behind them.
-/
namespace FeltLowering

namespace Text

theorem splitOn_eq_splitOnP (b : UInt8) (t : Text) : splitOn b t = List.splitOnP (· == b) t := by
  induction t with
  | nil => rfl
  | cons c t ih =>
    rw [splitOn, ih, List.splitOnP_cons_eq_if_modifyHead]
    cases h : List.splitOnP (· == b) t with
    | nil => exact absurd h (List.splitOnP_ne_nil _ t)
    | cons piece pieces => rfl

theorem join_eq_intercalate (sep : Text) (ts : List Text) : join sep ts = List.intercalate sep ts := by
  induction ts with
  | nil => rfl
  | cons t ts ih =>
    cases ts with
    | nil => exact List.intercalate_singleton.symm
    | cons u ts =>
      show t ++ sep ++ join sep (u :: ts) = _
      rw [ih, List.intercalate_cons_cons]

theorem splitOn_append_sep (b : UInt8) (s t : Text) :
    splitOn b (s ++ b :: t) = splitOn b s ++ splitOn b t := by
  simp only [splitOn_eq_splitOnP]
  exact List.splitOnP_append_cons s t (beq_self_eq_true b)

theorem splitOn_of_not_mem {b : UInt8} {t : Text} (h : b ∉ t) : splitOn b t = [t] := by
  rw [splitOn_eq_splitOnP]
  refine List.splitOnP_eq_singleton fun c hc => beq_eq_false_iff_ne.mpr ?_
  rintro rfl
  exact h hc

theorem splitOn_join {b : UInt8} {ts : List Text} (hne : ts ≠ []) (h : ∀ t ∈ ts, b ∉ t) :
    splitOn b (join [b] ts) = ts := by
  rw [splitOn_eq_splitOnP, join_eq_intercalate]
  exact List.splitOn_intercalate b h hne

theorem not_mem_of_mem_splitOn {b : UInt8} {t piece : Text} (h : piece ∈ splitOn b t) : b ∉ piece := by
  induction t generalizing piece with
  | nil =>
    obtain rfl := List.mem_singleton.mp h
    exact List.not_mem_nil
  | cons c t ih =>
    rw [splitOn] at h
    cases hs : splitOn b t with
    | nil =>
      rw [splitOn_eq_splitOnP] at hs
      exact absurd hs (List.splitOnP_ne_nil _ t)
    | cons first rest =>
      rw [hs] at h ih
      have hfirst : b ∉ first := ih List.mem_cons_self
      by_cases hc : (c == b) = true
      · simp only [hc, if_true] at h
        rcases List.mem_cons.mp h with rfl | h
        · exact List.not_mem_nil
        · exact ih h
      · simp only [hc, if_false, Bool.false_eq_true] at h
        rcases List.mem_cons.mp h with rfl | h
        · rw [List.mem_cons, not_or]
          exact ⟨fun heq => hc (beq_iff_eq.mpr heq.symm), hfirst⟩
        · exact ih (List.mem_cons_of_mem first h)

theorem join_concat (sep : Text) {ts : List Text} (h : ts ≠ []) (t : Text) :
    join sep (ts ++ [t]) = join sep ts ++ sep ++ t := by
  induction ts with
  | nil => exact absurd rfl h
  | cons u ts ih =>
    cases ts with
    | nil => rfl
    | cons v ts =>
      show u ++ sep ++ join sep (v :: ts ++ [t]) = u ++ sep ++ join sep (v :: ts) ++ sep ++ t
      rw [ih (List.cons_ne_nil v ts)]
      simp only [List.append_assoc]

end Text

namespace Path

/-- An element that names something in a directory: neither the directory itself nor the
one above it. -/
structure IsName (e : Text) : Prop where
  ne_nil : e ≠ []
  ne_here : e ≠ Text.ofString "."
  ne_above : e ≠ Text.ofString ".."
  no_slash : slash ∉ e

/-- The elements of a path with the references in it resolved, in reverse. -/
def resolved (p : Text) : List Text := (Text.splitOn slash p).foldl (push (isAbsolute p)) []

theorem clean_eq (p : Text) :
    clean p =
      if isAbsolute p = true then slash :: Text.join [slash] (resolved p).reverse
      else if (Text.join [slash] (resolved p).reverse).isEmpty = true then Text.ofString "."
      else Text.join [slash] (resolved p).reverse :=
  rfl

/-- What is left of an element once references are resolved. -/
def IsStep (e : Text) : Prop := e ≠ [] ∧ e ≠ Text.ofString "." ∧ slash ∉ e

theorem push_of_isName {e : Text} (h : IsName e) (rooted : Bool) (done : List Text) :
    push rooted done e = e :: done := by
  have hskip : ¬(e.isEmpty || e = Text.ofString ".") = true := by
    simp only [Bool.or_eq_true, List.isEmpty_iff, decide_eq_true_iff, not_or]
    exact ⟨h.ne_nil, h.ne_here⟩
  unfold push
  rw [if_neg hskip, if_neg h.ne_above]

theorem isStep_push {rooted : Bool} {done : List Text} {e : Text} (hdone : ∀ d ∈ done, IsStep d)
    (he : slash ∉ e) : ∀ d ∈ push rooted done e, IsStep d := by
  unfold push
  by_cases hskip : (e.isEmpty || e = Text.ofString ".") = true
  · rw [if_pos hskip]
    exact hdone
  · rw [if_neg hskip]
    simp only [Bool.or_eq_true, List.isEmpty_iff, decide_eq_true_iff, not_or] at hskip
    have hstep : IsStep e := ⟨hskip.1, hskip.2, he⟩
    by_cases habove : e = Text.ofString ".."
    · rw [if_pos habove]
      cases done with
      | nil =>
        cases rooted with
        | true => exact hdone
        | false => exact List.forall_mem_singleton.mpr hstep
      | cons d rest =>
        simp only
        by_cases hd : d = Text.ofString ".."
        · rw [if_pos hd]
          exact List.forall_mem_cons.mpr ⟨hstep, hdone⟩
        · rw [if_neg hd]
          exact fun x hx => hdone x (List.mem_cons_of_mem d hx)
    · rw [if_neg habove]
      exact List.forall_mem_cons.mpr ⟨hstep, hdone⟩

theorem isStep_foldl_push {rooted : Bool} {es done : List Text} (hdone : ∀ d ∈ done, IsStep d)
    (hes : ∀ e ∈ es, slash ∉ e) : ∀ d ∈ es.foldl (push rooted) done, IsStep d := by
  induction es generalizing done with
  | nil => exact hdone
  | cons e es ih =>
    have hrest : ∀ x ∈ es, slash ∉ x := fun x hx => hes x (List.mem_cons_of_mem e hx)
    exact ih (isStep_push hdone (hes e List.mem_cons_self)) hrest

theorem isStep_of_mem_resolved {p e : Text} (h : e ∈ resolved p) : IsStep e :=
  isStep_foldl_push (fun _ hd => absurd hd List.not_mem_nil)
    (fun _ he => Text.not_mem_of_mem_splitOn he) e h

/-! ## The last element -/

theorem not_mem_lastElement (p : Text) : slash ∉ lastElement p := by
  intro h
  rw [lastElement, List.mem_reverse] at h
  have hne := List.all_eq_true.mp List.all_takeWhile slash h
  exact absurd hne (by decide)

theorem lastElement_of_not_mem {p : Text} (h : slash ∉ p) : lastElement p = p := by
  have hall : ∀ b ∈ p.reverse, (b != slash) = true := by
    intro b hb
    rw [bne_iff_ne]
    rintro rfl
    exact h (List.mem_reverse.mp hb)
  rw [lastElement, List.takeWhile_eq_self_iff.mpr hall, List.reverse_reverse]

theorem base_eq (input : Text) : slash ∉ base input ∨ base input = [slash] := by
  unfold base
  split
  · left
    decide
  · simp only
    split
    · right
      rfl
    · left
      exact not_mem_lastElement _

/-! ## A file in a directory -/

section File

variable {dir name : Text}

theorem isAbsolute_append (h : dir ≠ []) (t : Text) : isAbsolute (dir ++ t) = isAbsolute dir := by
  cases dir with
  | nil => exact absurd rfl h
  | cons b dir => rfl

theorem join_pair (hdir : dir ≠ []) (hname : name ≠ []) : join [dir, name] = clean (dir ++ slash :: name) := by
  have hfilter : [dir, name].filter (!·.isEmpty) = [dir, name] := by
    simp [hdir, hname]
  rw [join, hfilter]
  show clean (dir ++ [slash] ++ name) = _
  rw [List.append_assoc, List.singleton_append]

/-- Two slashes in a row are as good as one. -/
theorem clean_double_slash (hdir : dir ≠ []) (name : Text) :
    clean (dir ++ slash :: slash :: name) = clean (dir ++ slash :: name) := by
  have hresolved : resolved (dir ++ slash :: slash :: name) = resolved (dir ++ slash :: name) := by
    have hempty : Text.splitOn slash (slash :: name) = [] :: Text.splitOn slash name :=
      Text.splitOn_append_sep slash [] name
    rw [resolved, resolved, isAbsolute_append hdir, isAbsolute_append hdir, Text.splitOn_append_sep,
      Text.splitOn_append_sep, hempty, List.foldl_append, List.foldl_append]
    rfl
  rw [clean_eq, clean_eq, hresolved, isAbsolute_append hdir, isAbsolute_append hdir]

theorem resolved_file (hdir : dir ≠ []) (hname : IsName name) :
    resolved (dir ++ slash :: name) = name :: resolved dir := by
  rw [resolved, isAbsolute_append hdir, Text.splitOn_append_sep, Text.splitOn_of_not_mem hname.no_slash,
    List.foldl_append]
  exact push_of_isName hname _ _

theorem isStep_of_mem_resolved_file (hdir : dir ≠ []) (hname : IsName name) :
    ∀ e ∈ (resolved dir).reverse ++ [name], IsStep e := by
  intro e he
  rw [← List.reverse_cons, ← resolved_file hdir hname, List.mem_reverse] at he
  exact isStep_of_mem_resolved he

/-- Elements that are joined start with no slash. -/
theorem isAbsolute_join {es : List Text} (hne : es ≠ []) (h : ∀ e ∈ es, IsStep e) :
    isAbsolute (Text.join [slash] es) = false := by
  cases hbody : Text.join [slash] es with
  | nil => rfl
  | cons b t =>
    have hb : b ≠ slash := by
      rintro rfl
      have hsplit := Text.splitOn_join hne fun e he => (h e he).2.2
      have hempty : Text.splitOn slash (slash :: t) = [] :: Text.splitOn slash t :=
        Text.splitOn_append_sep slash [] t
      rw [hbody, hempty] at hsplit
      exact (h [] (hsplit ▸ List.mem_cons_self)).1 rfl
    simp only [isAbsolute, List.head?_cons, Option.some.injEq, decide_eq_false_iff_not]
    exact hb

theorem join_concat_ne_nil (es : List Text) (hname : IsName name) : Text.join [slash] (es ++ [name]) ≠ [] := by
  by_cases hnil : es = []
  · rw [hnil]
    exact hname.ne_nil
  · rw [Text.join_concat _ hnil]
    exact List.append_ne_nil_of_right_ne_nil _ hname.ne_nil

theorem clean_file (hdir : dir ≠ []) (hname : IsName name) :
    clean (dir ++ slash :: name) =
      (if isAbsolute dir = true then [slash] else []) ++
        Text.join [slash] ((resolved dir).reverse ++ [name]) := by
  have hbody := join_concat_ne_nil (resolved dir).reverse hname
  rw [clean_eq, isAbsolute_append hdir, resolved_file hdir hname, List.reverse_cons]
  by_cases hroot : isAbsolute dir = true
  · rw [if_pos hroot, if_pos hroot]
    rfl
  · rw [if_neg hroot, if_neg hroot, if_neg (by simpa using hbody)]
    rfl

theorem clean_file_ne_nil (hdir : dir ≠ []) (hname : IsName name) : clean (dir ++ slash :: name) ≠ [] := by
  rw [clean_file hdir hname]
  exact List.append_ne_nil_of_right_ne_nil _ (join_concat_ne_nil _ hname)

/-- The elements of a clean path; the first is empty if the path starts at the root. -/
theorem splitOn_clean_file (hdir : dir ≠ []) (hname : IsName name) :
    Text.splitOn slash (clean (dir ++ slash :: name)) =
      (if isAbsolute dir = true then [[]] else []) ++ ((resolved dir).reverse ++ [name]) := by
  have hsteps := isStep_of_mem_resolved_file hdir hname
  have hsplit : Text.splitOn slash (Text.join [slash] ((resolved dir).reverse ++ [name])) =
      (resolved dir).reverse ++ [name] :=
    Text.splitOn_join (by simp) fun e he => (hsteps e he).2.2
  rw [clean_file hdir hname]
  by_cases hroot : isAbsolute dir = true
  · rw [if_pos hroot, if_pos hroot]
    have happend := Text.splitOn_append_sep slash [] (Text.join [slash] ((resolved dir).reverse ++ [name]))
    rw [hsplit] at happend
    exact happend
  · rw [if_neg hroot, if_neg hroot]
    exact hsplit

theorem isAbsolute_clean_file (hdir : dir ≠ []) (hname : IsName name) :
    isAbsolute (clean (dir ++ slash :: name)) = isAbsolute dir := by
  rw [clean_file hdir hname]
  by_cases hroot : isAbsolute dir = true
  · rw [if_pos hroot, hroot]
    rfl
  · rw [if_neg hroot, List.nil_append,
      isAbsolute_join (by simp) (isStep_of_mem_resolved_file hdir hname)]
    exact (Bool.eq_false_iff.mpr hroot).symm

end File

end Path
end FeltLowering
