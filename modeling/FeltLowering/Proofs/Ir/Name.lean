import FeltLowering.Ir.Function
import FeltLowering.Proofs.Decimal

/-
Written identifiers tell names apart.

A name is written as it is or between quotes, and the two forms differ in their first
byte.  Between quotes every byte can be read back, and the closing quote is the first one.
`written_append_inj` says so for all byte strings, and for a name in the middle of a text:
both the name and what follows it are known.  The names that functions go by in look-ups
are another matter: they are not told apart, and the last section says when.
-/
namespace FeltLowering
namespace Ir
namespace Name

theorem hexDigitUpper_inj : ∀ i < 16, ∀ j < 16,
    Text.hexDigitUpper i = Text.hexDigitUpper j → i = j := by decide

theorem hexUpper_inj {b c : UInt8} (h : Text.hexUpper 2 b.toNat = Text.hexUpper 2 c.toNat) :
    b = c := by
  have hb := b.toNat_lt
  have hc := c.toNat_lt
  simp only [Text.hexUpper, List.nil_append, List.singleton_append, List.cons.injEq] at h
  have hhigh := hexDigitUpper_inj _ (Nat.mod_lt _ (by decide)) _ (Nat.mod_lt _ (by decide)) h.1
  have hlow := hexDigitUpper_inj _ (Nat.mod_lt _ (by decide)) _ (Nat.mod_lt _ (by decide)) h.2.1
  exact UInt8.toNat_inj.mp (by omega)

theorem isSafe_quote : isSafe 0x22 = false := by decide

theorem isSafe_backslash : isSafe 0x5C = false := by decide

theorem escape_cons (b : UInt8) (t : Text) : escape (b :: t) = escapeByte b ++ escape t := rfl

theorem escapeByte_append_ne (b : UInt8) (s u : Text) : escapeByte b ++ s ≠ 0x22 :: u := by
  intro h
  unfold escapeByte at h
  by_cases hb : isSafe b = true
  · rw [if_pos hb, List.singleton_append, List.cons.injEq] at h
    rw [h.1, isSafe_quote] at hb
    exact absurd hb (by decide)
  · rw [if_neg hb, List.cons_append, List.cons.injEq] at h
    exact absurd h.1 (by decide)

theorem escapeByte_append_inj {b c : UInt8} {s t : Text} (h : escapeByte b ++ s = escapeByte c ++ t) :
    b = c ∧ s = t := by
  unfold escapeByte at h
  by_cases hb : isSafe b = true
  · by_cases hc : isSafe c = true
    · rw [if_pos hb, if_pos hc, List.singleton_append, List.singleton_append, List.cons.injEq] at h
      exact h
    · rw [if_pos hb, if_neg hc, List.singleton_append, List.cons_append, List.cons.injEq] at h
      rw [h.1, isSafe_backslash] at hb
      exact absurd hb (by decide)
  · by_cases hc : isSafe c = true
    · rw [if_neg hb, if_pos hc, List.singleton_append, List.cons_append, List.cons.injEq] at h
      rw [← h.1, isSafe_backslash] at hc
      exact absurd hc (by decide)
    · rw [if_neg hb, if_neg hc, List.cons_append, List.cons_append, List.cons.injEq] at h
      obtain ⟨hhex, hrest⟩ := List.append_inj h.2 rfl
      exact ⟨hexUpper_inj hhex, hrest⟩

/-- The closing quote is found, and no byte before it can be mistaken for another. -/
theorem escape_append_inj {s t u v : Text} (h : escape s ++ 0x22 :: u = escape t ++ 0x22 :: v) :
    s = t ∧ u = v := by
  induction s generalizing t with
  | nil =>
    cases t with
    | nil => exact ⟨rfl, (List.cons.inj h).2⟩
    | cons c t =>
      rw [escape_cons, List.append_assoc] at h
      exact absurd h.symm (escapeByte_append_ne c _ u)
  | cons b s ih =>
    cases t with
    | nil =>
      rw [escape_cons, List.append_assoc] at h
      exact absurd h (escapeByte_append_ne b _ v)
    | cons c t =>
      rw [escape_cons, escape_cons, List.append_assoc, List.append_assoc] at h
      obtain ⟨rfl, hrest⟩ := escapeByte_append_inj h
      obtain ⟨rfl, huv⟩ := ih hrest
      exact ⟨rfl, huv⟩

theorem isSafe_of_isDigit {b : UInt8} (h : Text.isDigit b = true) : isSafe b = true := by
  simp only [Text.isDigit, Bool.and_eq_true, decide_eq_true_eq, UInt8.le_iff_toNat_le] at h
  obtain ⟨hlo, hhi⟩ := h
  have hlo : 48 ≤ b.toNat := hlo
  have hhi : b.toNat ≤ 57 := hhi
  have hne : ∀ c : UInt8, c.toNat < 48 ∨ 57 < c.toNat → b ≠ c := by
    rintro c hc rfl
    omega
  simp only [isSafe, Bool.and_eq_true, decide_eq_true_eq, bne_iff_ne, UInt8.le_iff_toNat_le]
  refine ⟨⟨⟨?_, ?_⟩, hne 0x22 (by decide)⟩, hne 0x5C (by decide)⟩
  · show 32 ≤ b.toNat
    omega
  · show b.toNat ≤ 126
    omega

theorem escape_digits {t : Text} (h : ∀ b ∈ t, Text.isDigit b = true) : escape t = t := by
  induction t with
  | nil => rfl
  | cons b t ih =>
    have hsafe := isSafe_of_isDigit (h b List.mem_cons_self)
    show escapeByte b ++ escape t = b :: t
    rw [escapeByte, if_pos hsafe, ih fun c hc => h c (List.mem_cons_of_mem b hc)]
    rfl

def isUnquoted (name : Text) : Bool := !isNumber name && name.all isPlain

theorem written_eq {name : Text} (h : name ≠ []) :
    written name = if isUnquoted name then name else quote name := by
  have hne : name.isEmpty = false := by
    cases name with
    | nil => exact absurd rfl h
    | cons b t => rfl
  unfold written isUnquoted
  rw [hne]
  by_cases hn : isNumber name = true
  · have hdigits : ∀ b ∈ name, Text.isDigit b = true := by
      unfold isNumber at hn
      split at hn
      · next n hparse => exact (Decimal.parseNat?_eq_some_iff.mp hparse).1.2
      · cases hn
    simp only [hn, Bool.false_eq_true, if_false, if_true, Bool.not_true, Bool.false_and]
    rw [quote, escape_digits hdigits]
  · simp only [hn, Bool.false_eq_true, if_false, Bool.not_false, Bool.true_and]

/-! ## Tokens

A token is a run of plain bytes.  Names without quotes, types, numbers and the words of
instructions are tokens, so they end where a byte follows that is not plain. -/

def IsToken (t : Text) : Prop := ∀ b ∈ t, isPlain b = true

instance (t : Text) : Decidable (IsToken t) :=
  decidable_of_iff (t.all isPlain = true) List.all_eq_true

/-- The text is empty or starts with a byte that ends a token. -/
def Breaks (t : Text) : Prop := ∀ b, t.head? = some b → isPlain b = false

theorem breaks_nil : Breaks [] := by
  intro b hb
  cases hb

theorem breaks_cons {b : UInt8} (h : isPlain b = false) (t : Text) : Breaks (b :: t) := by
  intro c hc
  cases hc
  exact h

theorem Breaks.not_cons_token {a t : Text} {b : UInt8} (h : Breaks t) (hb : isPlain b = true) :
    t ≠ b :: a := by
  rintro rfl
  rw [h b rfl] at hb
  cases hb

theorem token_append_inj {a b s t : Text} (ha : IsToken a) (hb : IsToken b) (hs : Breaks s)
    (ht : Breaks t) (h : a ++ s = b ++ t) : a = b ∧ s = t := by
  induction a generalizing b with
  | nil =>
    cases b with
    | nil => exact ⟨rfl, h⟩
    | cons y b => exact absurd h (hs.not_cons_token (hb y List.mem_cons_self))
  | cons x a ih =>
    cases b with
    | nil => exact absurd h.symm (ht.not_cons_token (ha x List.mem_cons_self))
    | cons y b =>
      obtain ⟨rfl, hrest⟩ := List.cons.inj h
      have ha' : IsToken a := fun c hc => ha c (List.mem_cons_of_mem x hc)
      have hb' : IsToken b := fun c hc => hb c (List.mem_cons_of_mem x hc)
      obtain ⟨rfl, hst⟩ := ih ha' hb' hrest
      exact ⟨rfl, hst⟩

/-! ## Written names -/

theorem quote_eq (name : Text) : quote name = 0x22 :: (escape name ++ [0x22]) := rfl

theorem isUnquoted_zero : isUnquoted "0" = false := by decide

/-- What is written without quotes: a name, or the digit of the absent one. -/
theorem written_cases (name : Text) :
    (IsToken (written name) ∧ written name ≠ [] ∧
      ((name = [] ∧ written name = Text.ofString "0") ∨
        (isUnquoted name = true ∧ written name = name))) ∨
      written name = quote name := by
  by_cases hne : name = []
  · subst hne
    exact Or.inl ⟨(by decide : IsToken (Text.ofString "0")), by decide,
      Or.inl ⟨rfl, rfl⟩⟩
  · rw [written_eq hne]
    by_cases hu : isUnquoted name = true
    · rw [if_pos hu]
      refine Or.inl ⟨?_, hne, Or.inr ⟨hu, rfl⟩⟩
      unfold isUnquoted at hu
      rw [Bool.and_eq_true] at hu
      exact List.all_eq_true.mp hu.2
    · rw [if_neg hu]
      exact Or.inr rfl

theorem token_append_ne_quote {a s : Text} (ha : IsToken a) (hne : a ≠ []) (t : Text) :
    a ++ s ≠ 0x22 :: t := by
  intro h
  cases a with
  | nil => exact hne rfl
  | cons b a =>
    have hb : isPlain b = true := ha b List.mem_cons_self
    rw [(List.cons.inj h).1] at hb
    exact absurd hb (by decide)

/-- A written name ends where it is seen to end, and tells which name it is. -/
theorem written_append_inj {s t u v : Text} (hu : Breaks u) (hv : Breaks v)
    (h : written s ++ u = written t ++ v) : s = t ∧ u = v := by
  rcases written_cases s with ⟨hs, hsne, hsform⟩ | hs
  · rcases written_cases t with ⟨ht, -, htform⟩ | ht
    · obtain ⟨hst, huv⟩ := token_append_inj hs ht hu hv h
      refine ⟨?_, huv⟩
      rcases hsform with ⟨rfl, hs0⟩ | ⟨hsu, hsw⟩ <;> rcases htform with ⟨rfl, ht0⟩ | ⟨htu, htw⟩
      · rfl
      · rw [← htw, ← hst, hs0, isUnquoted_zero] at htu
        cases htu
      · rw [← hsw, hst, ht0, isUnquoted_zero] at hsu
        cases hsu
      · rw [← hsw, hst, htw]
    · rw [ht, quote_eq] at h
      exact absurd h (token_append_ne_quote hs hsne _)
  · rcases written_cases t with ⟨ht, htne, -⟩ | ht
    · rw [hs, quote_eq] at h
      exact absurd h.symm (token_append_ne_quote ht htne _)
    · rw [hs, ht, quote_eq, quote_eq, List.cons_append, List.cons_append, List.append_assoc,
        List.append_assoc] at h
      exact escape_append_inj (List.cons.inj h).2

theorem ofFunction_injective {s t : Text} (h : ofFunction s = ofFunction t) : s = t := by
  have hwritten : written s ++ [] = written t ++ [] := by
    rw [List.append_nil, List.append_nil]
    exact List.append_cancel_left h
  exact (written_append_inj breaks_nil breaks_nil hwritten).1

/-! ## Names in look-ups

A name that reads as a number goes by that number in quotes.  Nothing goes by a number
itself, and two numerals of one number go by the same name. -/

/-- What every numeral of a number goes by. -/
def quotedNumber (v : Int) : Text := "\"" ++ Text.ofInt v ++ "\""

theorem quotedNumber_injective {v w : Int} (h : quotedNumber v = quotedNumber w) : v = w :=
  Text.ofInt_injective (List.append_cancel_left (List.append_cancel_right h))

theorem display_of_number {name : Text} {v : Int} (h : Decimal.parseInt64? name = some v) :
    display name = quotedNumber v := by
  cases name with
  | nil => cases h
  | cons b t =>
    unfold display
    rw [List.isEmpty_cons, if_neg Bool.false_ne_true, h]
    rfl

theorem display_of_not_number {name : Text} (hne : name ≠ []) (h : Decimal.parseInt64? name = none) :
    display name = name := by
  cases name with
  | nil => exact absurd rfl hne
  | cons b t =>
    unfold display
    rw [List.isEmpty_cons, if_neg Bool.false_ne_true, h]

theorem parseInt64?_quotedNumber (v : Int) : Decimal.parseInt64? (quotedNumber v) = none := by
  have hparse : Decimal.parse? (quotedNumber v) = none := by
    cases hp : Decimal.parse? (quotedNumber v) with
    | none => rfl
    | some w =>
      -- A literal starts with a digit or a sign.
      have hquote : Text.isDigit 0x22 = false := by decide
      cases hq : quotedNumber v with
      | nil => cases hq
      | cons b t =>
        obtain ⟨rfl, -⟩ := List.cons.inj hq
        rw [hq] at hp
        cases Decimal.parse?_eq_some_iff.mp hp with
        | plain hd =>
          have hdigit := hd.2 0x22 List.mem_cons_self
          rw [hquote] at hdigit
          cases hdigit
  unfold Decimal.parseInt64?
  rw [hparse]
  rfl

/-- No name goes by a number. -/
theorem parseInt64?_display {name : Text} (hne : name ≠ []) :
    Decimal.parseInt64? (display name) = none := by
  cases h : Decimal.parseInt64? name with
  | none =>
    rw [display_of_not_number hne h]
    exact h
  | some v =>
    rw [display_of_number h]
    exact parseInt64?_quotedNumber v

/-- A name goes by the number in quotes if it is that, or if it is a numeral. -/
theorem display_eq_quotedNumber_iff {name : Text} (hne : name ≠ []) (v : Int) :
    display name = quotedNumber v ↔
      name = quotedNumber v ∨ Decimal.parseInt64? name = some v := by
  cases h : Decimal.parseInt64? name with
  | none =>
    rw [display_of_not_number hne h, or_iff_left (by simp)]
  | some w =>
    rw [display_of_number h, Option.some.injEq]
    constructor
    · exact fun heq => Or.inr (quotedNumber_injective heq)
    · rintro (heq | rfl)
      · rw [heq, parseInt64?_quotedNumber] at h
        cases h
      · rfl

end Name
end Ir
end FeltLowering
