import FeltLowering.Lowering.Compiler
import Mathlib.Data.List.Nodup

/-
The registry, the function table and the debug table under insertion.

All three are lists of keyed entries that only grow.  A key that has been found is found
again with the same answer, and a new entry is found under its own key.
-/
namespace FeltLowering
namespace Lowering

open Ir

/-! ## Keyed lists -/

section Keyed

variable {α κ : Type} [DecidableEq κ] {key : α → κ} {k : κ} {l : List α} {a : α}

theorem mem_of_find?_key (h : l.find? (fun x => decide (key x = k)) = some a) : a ∈ l ∧ key a = k := by
  refine ⟨List.mem_of_find?_eq_some h, ?_⟩
  have hk := List.find?_some h
  exact of_decide_eq_true hk

theorem find?_key_eq_none_iff : l.find? (fun x => decide (key x = k)) = none ↔ k ∉ l.map key := by
  rw [List.find?_eq_none]
  simp only [decide_eq_true_eq, List.mem_map, not_exists, not_and]

theorem find?_key_isSome_iff :
    (l.find? fun x => decide (key x = k)).isSome = true ↔ k ∈ l.map key := by
  rw [List.find?_isSome]
  simp only [decide_eq_true_eq, List.mem_map]

theorem find?_key_of_mem (hn : (l.map key).Nodup) (h : a ∈ l) :
    l.find? (fun x => decide (key x = key a)) = some a := by
  induction l with
  | nil => exact absurd h List.not_mem_nil
  | cons e rest ih =>
    rw [List.map_cons, List.nodup_cons] at hn
    rw [List.find?_cons]
    rcases List.mem_cons.mp h with rfl | h
    · simp
    · have hne : key e ≠ key a := fun he => hn.1 (he ▸ List.mem_map_of_mem h)
      simp only [hne, decide_false]
      exact ih hn.2 h

omit [DecidableEq κ] in
theorem nodup_map_append_singleton (hn : (l.map key).Nodup) (h : key a ∉ l.map key) :
    ((l ++ [a]).map key).Nodup := by
  rw [List.map_append, List.map_singleton, ← List.concat_eq_append]
  exact hn.concat h

end Keyed

namespace Registry

theorem mem_of_lookup? {r : Registry} {key : Text} {s : Slot} (h : r.lookup? key = some s) :
    s ∈ r.entries ∧ s.key = key :=
  mem_of_find?_key h

theorem lookup?_eq_none_iff {r : Registry} {key : Text} :
    r.lookup? key = none ↔ key ∉ r.entries.map Slot.key :=
  find?_key_eq_none_iff

theorem lookup?_isSome_iff {r : Registry} {key : Text} :
    (r.lookup? key).isSome = true ↔ key ∈ r.entries.map Slot.key :=
  find?_key_isSome_iff

theorem has_eq_false_iff {r : Registry} {key : Text} :
    r.has key = false ↔ key ∉ r.entries.map Slot.key := by
  rw [← lookup?_eq_none_iff]
  unfold has
  exact Option.isSome_eq_false_iff.trans Option.isNone_iff_eq_none

@[simp] theorem entries_add (r : Registry) (key : Text) (type : Handle) :
    (r.add key type).entries = r.entries ++ [⟨key, type⟩] := rfl

@[simp] theorem names_add (r : Registry) (key : Text) (type : Handle) :
    (r.add key type).names = r.names := rfl

theorem lookup?_add_of_some {r : Registry} {k : Text} {s : Slot} (h : r.lookup? k = some s)
    (key : Text) (type : Handle) : (r.add key type).lookup? k = some s := by
  unfold lookup? at h ⊢
  rw [entries_add, List.find?_append, h]
  rfl

theorem lookup?_add_self {r : Registry} {key : Text} (h : r.has key = false) (type : Handle) :
    (r.add key type).lookup? key = some ⟨key, type⟩ := by
  have hnone : r.lookup? key = none := lookup?_eq_none_iff.mpr (has_eq_false_iff.mp h)
  unfold lookup? at hnone ⊢
  rw [entries_add, List.find?_append, hnone]
  simp

@[simp] theorem entries_addName (r : Registry) (generic key : Text) :
    (r.addName generic key).entries = r.entries := by
  unfold addName
  split <;> rfl

theorem lookup?_addName (r : Registry) (generic key k : Text) :
    (r.addName generic key).lookup? k = r.lookup? k := by
  unfold lookup?
  rw [entries_addName]

theorem mem_names_addName {r : Registry} {generic key : Text} {n : Text × Text}
    (h : n ∈ (r.addName generic key).names) : n ∈ r.names ∨ n = (generic, key) := by
  unfold addName at h
  split at h
  · exact Or.inl h
  · exact (List.mem_append.mp h).imp_right List.mem_singleton.mp

/-- The builtins that have a name after one more has been named. -/
theorem names_addName_iff (r : Registry) (generic key g : Text) :
    g ∈ (r.addName generic key).names.map Prod.fst ↔
      g ∈ r.names.map Prod.fst ∨ g = generic := by
  unfold addName
  by_cases hany : r.names.any (fun n => decide (n.1 = generic)) = true
  · rw [if_pos hany]
    obtain ⟨n, hn, heq⟩ := List.any_eq_true.mp hany
    constructor
    · exact Or.inl
    · rintro (h | rfl)
      · exact h
      · exact of_decide_eq_true heq ▸ List.mem_map_of_mem hn
  · rw [if_neg hany]
    simp

theorem exists_of_lookupName? {r : Registry} {generic : Text} {s : Slot}
    (h : r.lookupName? generic = some s) :
    ∃ key, (generic, key) ∈ r.names ∧ r.lookup? key = some s := by
  unfold lookupName? at h
  obtain ⟨n, hn, hs⟩ := Option.bind_eq_some_iff.mp h
  obtain ⟨hmem, rfl⟩ := mem_of_find?_key hn
  exact ⟨n.2, hmem, hs⟩

/-- A builtin resolves once it is named, provided that names lead to entries. -/
theorem lookupName?_isSome_iff {r : Registry}
    (h : ∀ n ∈ r.names, n.2 ∈ r.entries.map Slot.key) (generic : Text) :
    (r.lookupName? generic).isSome = true ↔ generic ∈ r.names.map Prod.fst := by
  constructor
  · intro hs
    obtain ⟨s, hs⟩ := Option.isSome_iff_exists.mp hs
    obtain ⟨key, hmem, -⟩ := exists_of_lookupName? hs
    exact List.mem_map_of_mem hmem
  · intro hmem
    obtain ⟨n, hn, rfl⟩ := List.mem_map.mp hmem
    obtain ⟨m, hm⟩ := Option.isSome_iff_exists.mp (find?_key_isSome_iff.mpr hmem)
    unfold lookupName?
    rw [hm, Option.bind_some]
    exact lookup?_isSome_iff.mpr (h m (List.mem_of_find?_eq_some hm))

end Registry

end Lowering
end FeltLowering
