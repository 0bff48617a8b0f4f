import FeltLowering.Trace.Event
import Mathlib.Data.List.Nodup

/-
Pairs as a mapping.

What pairs map a key to is their `List.lookup`.  Setting a key changes the value of that key
and no other (`lookup_put`), so keys that are set in turn have the values they were given last
(`lookup_putAll`).  Sorting keeps the mapping (`lookup_sorted`), and the sorted form of pairs
without a repeated key depends on the mapping alone (`sorted_eq_of_lookup`).
-/
namespace FeltLowering
namespace Trace
namespace Pairs

def putAll (ps : Pairs) (xs : List (Text × Text)) : Pairs :=
  xs.foldl (fun ps x => ps.put x.1 x.2) ps

/-! ## Setting a key -/

section Put

variable {ps : Pairs} {k key value : Text}

theorem lookup_map_of_ne (h : k ≠ key) :
    (ps.map fun p => if p.1 = key then (key, value) else p).lookup k = ps.lookup k := by
  induction ps with
  | nil => rfl
  | cons p ps ih =>
    obtain ⟨key', value'⟩ := p
    rw [List.map_cons]
    by_cases hp : key' = key
    · subst hp
      rw [if_pos rfl, List.lookup_cons, List.lookup_cons, beq_false_of_ne h, ih]
    · rw [if_neg hp, List.lookup_cons, List.lookup_cons, ih]

theorem lookup_map_self (h : ps.any (·.1 = key) = true) :
    (ps.map fun p => if p.1 = key then (key, value) else p).lookup key = some value := by
  induction ps with
  | nil => cases h
  | cons p ps ih =>
    obtain ⟨key', value'⟩ := p
    rw [List.map_cons]
    by_cases hp : key' = key
    · rw [if_pos hp, List.lookup_cons, beq_self_eq_true]
    · rw [List.any_cons, decide_eq_false hp, Bool.false_or] at h
      rw [if_neg hp, List.lookup_cons, beq_false_of_ne (Ne.symm hp), ih h]

theorem eq_nil_of_lookup (h : ∀ k, ps.lookup k = none) : ps = [] := by
  cases ps with
  | nil => rfl
  | cons p ps =>
    have hkey := h p.1
    rw [List.lookup_cons, beq_self_eq_true] at hkey
    cases hkey

theorem not_mem_keys (h : ¬ps.any (·.1 = key) = true) : key ∉ ps.map Prod.fst := by
  intro hmem
  obtain ⟨p, hp, rfl⟩ := List.mem_map.mp hmem
  exact h (List.any_eq_true.mpr ⟨p, hp, decide_eq_true rfl⟩)

theorem lookup_of_not_mem (h : k ∉ ps.map Prod.fst) : ps.lookup k = none := by
  refine List.lookup_eq_none_iff.mpr fun p hp => ?_
  rw [bne_iff_ne]
  rintro rfl
  exact h (List.mem_map_of_mem hp)

theorem lookup_put : (ps.put key value).lookup k = if k = key then some value else ps.lookup k := by
  unfold put
  by_cases hk : k = key
  · subst hk
    rw [if_pos rfl]
    split
    · next hany => exact lookup_map_self hany
    · next hany =>
      rw [List.lookup_append, lookup_of_not_mem (not_mem_keys hany), Option.none_or, List.lookup_cons,
        beq_self_eq_true]
  · rw [if_neg hk]
    split
    · exact lookup_map_of_ne hk
    · rw [List.lookup_append, List.lookup_cons, beq_false_of_ne hk, List.lookup_nil, Option.or_none]

theorem keys_nodup_put (h : (ps.map Prod.fst).Nodup) (key value : Text) :
    ((ps.put key value).map Prod.fst).Nodup := by
  unfold put
  split
  · have hkeys : (ps.map fun p => if p.1 = key then (key, value) else p).map Prod.fst =
        ps.map Prod.fst := by
      rw [List.map_map]
      refine List.map_congr_left fun p _ => ?_
      show (if p.1 = key then (key, value) else p).1 = p.1
      by_cases hp : p.1 = key
      · rw [if_pos hp, hp]
      · rw [if_neg hp]
    rw [hkeys]
    exact h
  · next hany =>
    rw [List.map_append, List.map_singleton]
    refine List.nodup_append.mpr ⟨h, List.nodup_singleton key, fun x hx y hy => ?_⟩
    rw [List.mem_singleton.mp hy]
    rintro rfl
    exact not_mem_keys hany hx

end Put

/-- Keys that are set in turn have the values they were given last. -/
theorem lookup_putAll (ps : Pairs) (xs : List (Text × Text)) (k : Text) :
    (ps.putAll xs).lookup k = (xs.reverse.lookup k).or (ps.lookup k) := by
  induction xs generalizing ps with
  | nil => rfl
  | cons x xs ih =>
    have hone : (ps.put x.1 x.2).lookup k = ([x].lookup k).or (ps.lookup k) := by
      rw [lookup_put, List.lookup_cons]
      by_cases hk : k = x.1
      · rw [if_pos hk, hk, beq_self_eq_true, Option.some_or]
      · rw [if_neg hk, beq_false_of_ne hk, List.lookup_nil, Option.none_or]
    have hstep : ps.putAll (x :: xs) = (ps.put x.1 x.2).putAll xs := rfl
    rw [hstep, ih, hone, List.reverse_cons, List.lookup_append, Option.or_assoc]

theorem keys_nodup_putAll {ps : Pairs} (h : (ps.map Prod.fst).Nodup) (xs : List (Text × Text)) :
    ((ps.putAll xs).map Prod.fst).Nodup := by
  induction xs generalizing ps with
  | nil => exact h
  | cons x xs ih => exact ih (keys_nodup_put h x.1 x.2)

/-! ## Sorting -/

theorem keyLe_iff {x y : Text × Text} : keyLe x y = true ↔ ¬List.Lex (· < ·) y.1 x.1 := by
  rw [keyLe, Bool.not_eq_true', ← Bool.not_eq_true, List.lex_eq_true_iff_lex]
  simp only [decide_eq_true_iff]

theorem keyLe_trans (x y z : Text × Text) (h : keyLe x y = true) (h' : keyLe y z = true) :
    keyLe x z = true := by
  rw [keyLe_iff] at h h' ⊢
  exact List.le_trans h h'

theorem keyLe_total (x y : Text × Text) : (keyLe x y || keyLe y x) = true := by
  rw [Bool.or_eq_true, keyLe_iff, keyLe_iff]
  exact List.le_total x.1 y.1

theorem key_eq_of_keyLe {x y : Text × Text} (h : keyLe x y = true) (h' : keyLe y x = true) :
    x.1 = y.1 := by
  rw [keyLe_iff] at h h'
  exact List.le_antisymm h h'

/-- Sorting is stable, so it keeps what is there under each key. -/
theorem filter_sorted (ps : Pairs) (k : Text) :
    ps.sorted.filter (k == ·.1) = ps.filter (k == ·.1) := by
  have hsame : (ps.filter (k == ·.1)).Pairwise fun x y => keyLe x y = true := by
    refine List.pairwise_of_forall_mem_list fun x hx y hy => ?_
    have hx' : k = x.1 := eq_of_beq (List.mem_filter.mp hx).2
    have hy' : k = y.1 := eq_of_beq (List.mem_filter.mp hy).2
    rw [keyLe_iff, ← hx', ← hy']
    exact List.lt_irrefl k
  have hsub : (ps.filter (k == ·.1)).Sublist ps.sorted :=
    List.sublist_mergeSort keyLe_trans keyLe_total hsame List.filter_sublist
  have hfilter := hsub.filter (k == ·.1)
  rw [List.filter_filter] at hfilter
  simp only [Bool.and_self] at hfilter
  exact (hfilter.eq_of_length ((List.mergeSort_perm ps keyLe).filter _).length_eq.symm).symm

theorem lookup_eq_head? (ps : Pairs) (k : Text) :
    ps.lookup k = (ps.filter (k == ·.1)).head?.map Prod.snd := by
  induction ps with
  | nil => rfl
  | cons p ps ih =>
    obtain ⟨key, value⟩ := p
    rw [List.lookup_cons]
    cases hk : k == key with
    | true =>
      rw [List.filter_cons_of_pos (by exact hk)]
      rfl
    | false => rw [List.filter_cons_of_neg (by simp [hk]), ih]

theorem lookup_sorted (ps : Pairs) (k : Text) : ps.sorted.lookup k = ps.lookup k := by
  rw [lookup_eq_head?, filter_sorted, ← lookup_eq_head?]

section Distinct

variable {ps qs : Pairs}

theorem lookup_eq_some_iff_mem (h : (ps.map Prod.fst).Nodup) {k v : Text} :
    ps.lookup k = some v ↔ (k, v) ∈ ps := by
  induction ps with
  | nil => exact ⟨nofun, nofun⟩
  | cons p ps ih =>
    obtain ⟨key, value⟩ := p
    obtain ⟨hkey, hrest⟩ := List.nodup_cons.mp h
    rw [List.lookup_cons, List.mem_cons, Prod.mk.injEq]
    by_cases hk : k = key
    · subst hk
      rw [beq_self_eq_true]
      have hno : (k, v) ∉ ps := fun hmem => hkey (List.mem_map.mpr ⟨_, hmem, rfl⟩)
      simp only [Option.some.injEq, true_and, hno, or_false, eq_comm]
    · rw [beq_false_of_ne hk]
      simp only [hk, false_and, false_or, ih hrest]

theorem perm_of_lookup (hps : (ps.map Prod.fst).Nodup) (hqs : (qs.map Prod.fst).Nodup)
    (h : ∀ k, ps.lookup k = qs.lookup k) : ps.Perm qs := by
  refine (List.perm_ext_iff_of_nodup hps.of_map hqs.of_map).mpr fun p => ?_
  obtain ⟨k, v⟩ := p
  rw [← lookup_eq_some_iff_mem hps, ← lookup_eq_some_iff_mem hqs, h]

theorem sorted_eq_of_lookup (hps : (ps.map Prod.fst).Nodup) (hqs : (qs.map Prod.fst).Nodup)
    (h : ∀ k, ps.lookup k = qs.lookup k) : ps.sorted = qs.sorted := by
  have hperm : ps.sorted.Perm qs.sorted :=
    (List.mergeSort_perm ps keyLe).trans
      ((perm_of_lookup hps hqs h).trans (List.mergeSort_perm qs keyLe).symm)
  refine hperm.eq_of_pairwise (fun x y hx hy hle hge => ?_)
    (List.pairwise_mergeSort keyLe_trans keyLe_total ps)
    (List.pairwise_mergeSort keyLe_trans keyLe_total qs)
  -- Both stand under one key, and each is what its list has there.
  have hx' := (lookup_eq_some_iff_mem hps).mpr ((List.mergeSort_perm ps keyLe).mem_iff.mp hx)
  have hy' := (lookup_eq_some_iff_mem hqs).mpr ((List.mergeSort_perm qs keyLe).mem_iff.mp hy)
  have hkey := key_eq_of_keyLe hle hge
  rw [h, hkey, hy'] at hx'
  exact Prod.ext hkey (Option.some.inj hx').symm

end Distinct

/-- Pairs that give each key the same last value are sorted alike. -/
theorem sorted_putAll_congr {xs ys : List (Text × Text)}
    (h : ∀ k, xs.reverse.lookup k = ys.reverse.lookup k) :
    (putAll [] xs).sorted = (putAll [] ys).sorted := by
  have hnodup : ∀ xs, ((putAll [] xs).map Prod.fst).Nodup :=
    keys_nodup_putAll (by exact List.nodup_nil)
  refine sorted_eq_of_lookup (hnodup xs) (hnodup ys) fun k => ?_
  rw [lookup_putAll, lookup_putAll, h]

end Pairs
end Trace
end FeltLowering
