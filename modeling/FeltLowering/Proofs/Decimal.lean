import FeltLowering.Decimal

/-
Decimal literals and the decimal form of a number.

`Denotes` is the grammar of signed literals with the integer each of them stands for,
and `parse?_eq_some_iff` says that the reader accepts exactly these.  The written form of
a number is read back by `parseNat?_ofNat`, so different numbers have different written
forms.  That digits give the number back does not depend on the base
(`Text.foldl_toDigits`).
-/
namespace FeltLowering

namespace Decimal

/-- One or more ASCII digits. -/
def Digits (ds : Text) : Prop := ds ≠ [] ∧ ∀ b ∈ ds, Text.isDigit b = true

/-- An optional single sign, digits, and the integer they stand for. -/
inductive Denotes : Text → Int → Prop
  | plain {ds : Text} (h : Digits ds) : Denotes ds (ofDigits 0 ds)
  | plus {ds : Text} (h : Digits ds) : Denotes (0x2B :: ds) (ofDigits 0 ds)
  | minus {ds : Text} (h : Digits ds) : Denotes (0x2D :: ds) (-(ofDigits 0 ds : Int))

theorem parseNat?_eq_some_iff {t : Text} {n : Nat} :
    parseNat? t = some n ↔ Digits t ∧ n = ofDigits 0 t := by
  unfold parseNat? Digits
  cases t with
  | nil => simp
  | cons b t =>
    by_cases hall : (b :: t).all Text.isDigit = true
    · simp only [List.isEmpty_cons, hall, Bool.not_true, Bool.or_self, Bool.false_eq_true, if_false,
        Option.some.injEq, ne_eq, reduceCtorEq, not_false_eq_true, true_and]
      exact ⟨fun h => ⟨List.all_eq_true.mp hall, h.symm⟩, fun h => h.2.symm⟩
    · simp only [List.isEmpty_cons, hall, Bool.not_false, Bool.or_true, if_true]
      exact ⟨fun h => absurd h (by simp), fun h => absurd (List.all_eq_true.mpr h.1.2) hall⟩

theorem Digits.head_ne {b : UInt8} {ds : Text} (h : Digits (b :: ds)) : b ≠ 0x2D ∧ b ≠ 0x2B := by
  have hb : Text.isDigit b = true := h.2 b List.mem_cons_self
  constructor
  · rintro rfl
    exact absurd hb (by decide)
  · rintro rfl
    exact absurd hb (by decide)

theorem map_intCast_eq_some_iff {o : Option Nat} {g : Int → Int} {v : Int} :
    (do let n ← o; pure (n : Int)).map g = some v ↔ ∃ n : Nat, o = some n ∧ g n = v := by
  cases o <;> simp

/-- The reader accepts exactly the literals of the grammar. -/
theorem parse?_eq_some_iff {t : Text} {v : Int} : parse? t = some v ↔ Denotes t v := by
  constructor
  · intro h
    unfold parse? at h
    split at h
    · obtain ⟨n, hn, rfl⟩ := map_intCast_eq_some_iff.mp h
      obtain ⟨hd, rfl⟩ := parseNat?_eq_some_iff.mp hn
      exact .minus hd
    · obtain ⟨n, hn, rfl⟩ := map_intCast_eq_some_iff.mp h
      obtain ⟨hd, rfl⟩ := parseNat?_eq_some_iff.mp hn
      exact .plus hd
    · obtain ⟨n, hn, rfl⟩ := map_intCast_eq_some_iff.mp h
      obtain ⟨hd, rfl⟩ := parseNat?_eq_some_iff.mp hn
      exact .plain hd
  · intro h
    cases h with
    | plus hd => exact map_intCast_eq_some_iff.mpr ⟨_, parseNat?_eq_some_iff.mpr ⟨hd, rfl⟩, rfl⟩
    | minus hd => exact map_intCast_eq_some_iff.mpr ⟨_, parseNat?_eq_some_iff.mpr ⟨hd, rfl⟩, rfl⟩
    | plain hd =>
      cases t with
      | nil => exact absurd rfl hd.1
      | cons b ds =>
        have hn := parseNat?_eq_some_iff.mpr ⟨hd, rfl⟩
        have hsign := hd.head_ne
        unfold parse?
        split
        · next heq => exact absurd (List.cons.inj heq).1 hsign.1
        · next heq => exact absurd (List.cons.inj heq).1 hsign.2
        · rw [hn]
          rfl

end Decimal

namespace Text

/-! ## Numbers in a base -/

section Base

variable {base : Nat} {write : Char → Text} {digit : Nat → UInt8}

/-- The last digit of a number is written behind the others. -/
theorem flatMap_toDigits (hbase : 1 < base)
    (hwrite : ∀ d < base, write (Nat.digitChar d) = [digit d]) (n : Nat) :
    (Nat.toDigits base n).flatMap write =
      (if n < base then [] else (Nat.toDigits base (n / base)).flatMap write) ++ [digit (n % base)] := by
  by_cases h : n < base
  · rw [if_pos h, Nat.toDigits_of_lt_base h, Nat.mod_eq_of_lt h]
    simp only [List.flatMap_cons, List.flatMap_nil, List.append_nil, List.nil_append]
    exact hwrite n h
  · rw [if_neg h, Nat.toDigits_of_base_le hbase (by omega), List.flatMap_append]
    simp only [List.flatMap_cons, List.flatMap_nil, List.append_nil]
    rw [hwrite (n % base) (Nat.mod_lt n (by omega))]

theorem foldl_toDigits (hbase : 1 < base)
    (hwrite : ∀ d < base, write (Nat.digitChar d) = [digit d]) {value : UInt8 → Nat}
    (hvalue : ∀ d < base, value (digit d) = d) (n : Nat) :
    ((Nat.toDigits base n).flatMap write).foldl (fun m b => m * base + value b) 0 = n := by
  induction n using Nat.strongRecOn with
  | ind n ih =>
    rw [flatMap_toDigits hbase hwrite, List.foldl_append]
    simp only [List.foldl_cons, List.foldl_nil]
    rw [hvalue (n % base) (Nat.mod_lt n (by omega))]
    by_cases h : n < base
    · rw [if_pos h, List.foldl_nil, Nat.zero_mul, Nat.zero_add, Nat.mod_eq_of_lt h]
    · rw [if_neg h, ih (n / base) (Nat.div_lt_self (by omega) hbase)]
      exact Nat.div_add_mod' n base

theorem mem_toDigits (hbase : 1 < base) (hwrite : ∀ d < base, write (Nat.digitChar d) = [digit d])
    {n : Nat} {b : UInt8} (hb : b ∈ (Nat.toDigits base n).flatMap write) :
    ∃ d < base, b = digit d := by
  induction n using Nat.strongRecOn with
  | ind n ih =>
    rw [flatMap_toDigits hbase hwrite] at hb
    rcases List.mem_append.mp hb with hb | hb
    · by_cases h : n < base
      · rw [if_pos h] at hb
        exact absurd hb List.not_mem_nil
      · rw [if_neg h] at hb
        exact ih (n / base) (Nat.div_lt_self (by omega) hbase) hb
    · exact ⟨n % base, Nat.mod_lt n (by omega), List.mem_singleton.mp hb⟩

end Base

theorem utf8EncodeChar_digitChar : ∀ d < 10,
    String.utf8EncodeChar (Nat.digitChar d) = [(0x30 + d).toUInt8] := by decide

theorem ofNat_digits (n : Nat) : Decimal.Digits (ofNat n) := by
  have hdigit : ∀ d < 10, isDigit (0x30 + d).toUInt8 = true := by decide
  refine ⟨?_, fun b hb => ?_⟩
  · rw [ofNat, flatMap_toDigits (by decide) utf8EncodeChar_digitChar]
    exact List.append_ne_nil_of_right_ne_nil _ (List.cons_ne_nil _ _)
  · obtain ⟨d, hd, rfl⟩ := mem_toDigits (by decide) utf8EncodeChar_digitChar hb
    exact hdigit d hd

theorem ofDigits_ofNat (n : Nat) : Decimal.ofDigits 0 (ofNat n) = n := by
  have hvalue : ∀ d < 10, digitValue (0x30 + d).toUInt8 = d := by decide
  exact foldl_toDigits (by decide) utf8EncodeChar_digitChar hvalue n

theorem parseNat?_ofNat (n : Nat) : Decimal.parseNat? (ofNat n) = some n :=
  Decimal.parseNat?_eq_some_iff.mpr ⟨ofNat_digits n, (ofDigits_ofNat n).symm⟩

theorem ofNat_injective {m n : Nat} (h : ofNat m = ofNat n) : m = n := by
  have hm := parseNat?_ofNat m
  rw [h, parseNat?_ofNat] at hm
  exact (Option.some.inj hm).symm

theorem denotes_ofInt (v : Int) : Decimal.Denotes (ofInt v) v := by
  cases v with
  | ofNat n =>
    have h := Decimal.Denotes.plain (ofNat_digits n)
    rw [ofDigits_ofNat] at h
    exact h
  | negSucc n =>
    have h := Decimal.Denotes.minus (ofNat_digits (n + 1))
    rw [ofDigits_ofNat] at h
    exact h

theorem ofInt_injective {v w : Int} (h : ofInt v = ofInt w) : v = w := by
  have hv := Decimal.parse?_eq_some_iff.mpr (denotes_ofInt v)
  rw [h, Decimal.parse?_eq_some_iff.mpr (denotes_ofInt w)] at hv
  exact (Option.some.inj hv).symm

end Text
end FeltLowering
