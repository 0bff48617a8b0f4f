import FeltLowering.Ir.Printer
import FeltLowering.Proofs.Ir.Name
import FeltLowering.Proofs.Ir.WellFormed

/-
The text of a module determines its functions.

The text is read from the left.  Types, numbers and words are tokens, and names are tokens
or in quotes, so each of them is seen to end (`Name.token_append_inj`,
`Name.written_append_inj`).  Every lemma below therefore speaks of a piece of text with a
rest behind it, and finds both the piece and the rest.

Values and functions are written by name and kept by position.  A name is found among the
values before it and the functions before its own, which are already known to be the same:
`Function.Agree` says up to where two functions in two modules agree.
-/
namespace FeltLowering
namespace Ir

open Name

/-! ## Literals -/

namespace Literal

def hexText (n : Nat) : Text := (Nat.toDigits 16 n).flatMap fun c => Text.ofChar c.toUpper

def ofHex (t : Text) : Nat := t.foldl (fun n b => n * 16 + (Text.hexValue? b).getD 0) 0

theorem ofChar_digitChar : ∀ d < 16,
    Text.ofChar (Nat.digitChar d).toUpper = [Text.hexDigitUpper d] := by decide

theorem ofHex_hexText (n : Nat) : ofHex (hexText n) = n := by
  have hvalue : ∀ d < 16, (Text.hexValue? (Text.hexDigitUpper d)).getD 0 = d := by decide
  exact Text.foldl_toDigits (by decide) ofChar_digitChar hvalue n

theorem hexText_isToken (n : Nat) : IsToken (hexText n) := by
  have hdigit : ∀ d < 16, isPlain (Text.hexDigitUpper d) = true := by decide
  intro b hb
  obtain ⟨d, hd, rfl⟩ := Text.mem_toDigits (by decide) ofChar_digitChar hb
  exact hdigit d hd

theorem isToken_ofNat (n : Nat) : IsToken (Text.ofNat n) := by
  intro b hb
  have hdigit := (Text.ofNat_digits n).2 b hb
  unfold isPlain
  rw [hdigit, Bool.or_true]
  rfl

/-- The two ways to write a number that is not negative, at any width but one. -/
theorem text_eq {w : Nat} (hw : w ≠ 1) (n : Nat) :
    text w n = if prefersHex n then "u0x" ++ hexText n else Text.ofNat n := by
  have hnonneg : decide (0 ≤ (n : Int)) = true := decide_eq_true (Int.natCast_nonneg n)
  unfold text
  rw [if_neg hw, hnonneg, Bool.true_and, Int.toNat_natCast]
  rfl

theorem text_isToken (w n : Nat) : IsToken (text w n) := by
  by_cases hw : w = 1
  · subst hw
    unfold text
    rw [if_pos rfl]
    split
    · exact (by decide : IsToken (Text.ofString "false"))
    · exact (by decide : IsToken (Text.ofString "true"))
  · rw [text_eq hw]
    split
    · intro b hb
      rcases List.mem_append.mp hb with hb | hb
      · exact (by decide : IsToken (Text.ofString "u0x")) b hb
      · exact hexText_isToken n b hb
    · exact isToken_ofNat n

theorem ofNat_ne_hex (m n : Nat) : Text.ofNat m ≠ "u0x" ++ hexText n := by
  intro h
  have hdigit := (Text.ofNat_digits m).2
  rw [h] at hdigit
  have hu : Text.isDigit 0x75 = true := hdigit 0x75 (List.mem_append_left _ (by decide))
  exact absurd hu (by decide)

theorem text_ne_nil (w n : Nat) : text w n ≠ [] := by
  by_cases hw : w = 1
  · subst hw
    unfold text
    rw [if_pos rfl]
    split <;> decide
  · rw [text_eq hw]
    split
    · exact List.cons_ne_nil _ _
    · exact (Text.ofNat_digits n).1

theorem text_injective {w m n : Nat} (hw : w ≠ 1) (h : text w m = text w n) : m = n := by
  rw [text_eq hw, text_eq hw] at h
  by_cases hm : prefersHex m = true <;> by_cases hn : prefersHex n = true
  · rw [if_pos hm, if_pos hn] at h
    have hhex := congrArg ofHex (List.append_cancel_left h)
    rw [ofHex_hexText, ofHex_hexText] at hhex
    exact hhex
  · rw [if_pos hm, if_neg hn] at h
    exact absurd h.symm (ofNat_ne_hex n m)
  · rw [if_neg hm, if_pos hn] at h
    exact absurd h (ofNat_ne_hex m n)
  · rw [if_neg hm, if_neg hn] at h
    exact Text.ofNat_injective h

/-- At one width a literal tells its value, within the signed range of the width. -/
theorem text_append_inj {w : Nat} {v v' : Int} (hv : 0 ≤ v ∧ v < twoPow (w - 1))
    (hv' : 0 ≤ v' ∧ v' < twoPow (w - 1)) {s t : Text} (hs : Breaks s) (ht : Breaks t)
    (h : text w v ++ s = text w v' ++ t) : v = v' ∧ s = t := by
  obtain ⟨m, rfl⟩ := Int.eq_ofNat_of_zero_le hv.1
  obtain ⟨n, rfl⟩ := Int.eq_ofNat_of_zero_le hv'.1
  obtain ⟨htext, hst⟩ := token_append_inj (text_isToken w m) (text_isToken w n) hs ht h
  refine ⟨?_, hst⟩
  by_cases hw : w = 1
  · -- A single bit has no positive value within its signed range.
    subst hw
    have hm : (m : Int) < 1 := hv.2
    have hn : (n : Int) < 1 := hv'.2
    omega
  · rw [text_injective hw htext]

end Literal

/-! ## Lists of items -/

theorem breaks_append {a : Text} (h : a.head?.map isPlain = some false) (s : Text) :
    Breaks (a ++ s) := by
  cases a with
  | nil => cases h
  | cons b a => exact breaks_cons (Option.some.inj h) _

theorem join_cons (sep t : Text) (rest : List Text) :
    Text.join sep (t :: rest) = t ++ rest.flatMap fun u => sep ++ u := by
  induction rest generalizing t with
  | nil => exact (List.append_nil t).symm
  | cons u rest ih =>
    rw [Text.join, ih u, List.flatMap_cons, List.append_assoc, List.append_assoc]
    exact fun h => nomatch h

section Items

variable {α : Type} {enc enc' : α → Text} {P P' : α → Prop}

theorem breaks_items (as : List α) (enc : α → Text) (s : Text) :
    Breaks (as.flatMap (fun a => (", " ++ enc a : Text)) ++ (Text.ofString ")" ++ s)) := by
  cases as with
  | nil => exact breaks_append rfl s
  | cons a as =>
    rw [List.flatMap_cons, List.append_assoc, List.append_assoc]
    exact breaks_append rfl _

theorem items_append_inj
    (hinj : ∀ {a b s t}, P a → P' b → Breaks s → Breaks t → enc a ++ s = enc' b ++ t → a = b ∧ s = t)
    {as bs : List α} (has : ∀ a ∈ as, P a) (hbs : ∀ b ∈ bs, P' b) {s t : Text}
    (h : as.flatMap (fun a => (", " ++ enc a : Text)) ++ (Text.ofString ")" ++ s) =
      bs.flatMap (fun b => (", " ++ enc' b : Text)) ++ (Text.ofString ")" ++ t)) :
    as = bs ∧ s = t := by
  induction as generalizing bs with
  | nil =>
    cases bs with
    | nil => exact ⟨rfl, List.append_cancel_left h⟩
    | cons b bs => exact absurd (List.cons.inj h).1 (by decide)
  | cons a as ih =>
    cases bs with
    | nil => exact absurd (List.cons.inj h).1 (by decide)
    | cons b bs =>
      simp only [List.flatMap_cons, List.append_assoc] at h
      obtain ⟨rfl, hrest⟩ := hinj (has a List.mem_cons_self) (hbs b List.mem_cons_self)
        (breaks_items as enc s) (breaks_items bs enc' t) (List.append_cancel_left h)
      obtain ⟨rfl, hst⟩ := ih (fun c hc => has c (List.mem_cons_of_mem a hc))
        (fun c hc => hbs c (List.mem_cons_of_mem a hc)) hrest
      exact ⟨rfl, hst⟩

/-- Items between brackets, none of which starts with the closing one. -/
theorem bracketed_append_inj
    (hinj : ∀ {a b s t}, P a → P' b → Breaks s → Breaks t → enc a ++ s = enc' b ++ t → a = b ∧ s = t)
    (hne : ∀ {a s t}, P a → enc a ++ s ≠ ")" ++ t) (hne' : ∀ {a s t}, P' a → enc' a ++ s ≠ ")" ++ t)
    {as bs : List α} (has : ∀ a ∈ as, P a) (hbs : ∀ b ∈ bs, P' b) {s t : Text}
    (h : Text.join ", " (as.map enc) ++ (")" ++ s) = Text.join ", " (bs.map enc') ++ (")" ++ t)) :
    as = bs ∧ s = t := by
  cases as with
  | nil =>
    cases bs with
    | nil => exact ⟨rfl, List.append_cancel_left h⟩
    | cons b bs =>
      rw [List.map_cons, join_cons, List.append_assoc] at h
      exact absurd h.symm (hne' (hbs b List.mem_cons_self))
  | cons a as =>
    cases bs with
    | nil =>
      rw [List.map_cons, join_cons, List.append_assoc] at h
      exact absurd h (hne (has a List.mem_cons_self))
    | cons b bs =>
      simp only [List.map_cons, join_cons, List.append_assoc, List.flatMap_map] at h
      obtain ⟨rfl, hrest⟩ := hinj (has a List.mem_cons_self) (hbs b List.mem_cons_self)
        (breaks_items as enc s) (breaks_items bs enc' t) h
      obtain ⟨rfl, hst⟩ := items_append_inj hinj (fun c hc => has c (List.mem_cons_of_mem a hc))
        (fun c hc => hbs c (List.mem_cons_of_mem a hc)) hrest
      exact ⟨rfl, hst⟩

end Items

/-! ## Types and operands -/

theorem Ty.int_isToken (w : Nat) : IsToken (Ty.int w).text := by
  intro b hb
  rcases List.mem_append.mp hb with hb | hb
  · exact (by decide : IsToken (Text.ofString "i")) b hb
  · exact Literal.isToken_ofNat w b hb

theorem Ty.text_append_inj {ty ty' : Ty} (hty : ∃ w, ty = .int w) (hty' : ∃ w, ty' = .int w)
    {s t : Text} (hs : Breaks s) (ht : Breaks t) (h : ty.text ++ s = ty'.text ++ t) :
    ty = ty' ∧ s = t := by
  obtain ⟨w, rfl⟩ := hty
  obtain ⟨w', rfl⟩ := hty'
  obtain ⟨htext, hst⟩ := token_append_inj (int_isToken w) (int_isToken w') hs ht h
  rw [Text.ofNat_injective (List.append_cancel_left htext)]
  exact ⟨rfl, hst⟩

theorem Ty.text_append_ne {ty : Ty} (hty : ∃ w, ty = .int w) (s t : Text) :
    ty.text ++ s ≠ ")" ++ t := by
  obtain ⟨w, rfl⟩ := hty
  intro h
  exact absurd (List.cons.inj h).1 (by decide)

theorem ofValue_append_inj {a b s t : Text} (hs : Breaks s) (ht : Breaks t)
    (h : ofValue a ++ s = ofValue b ++ t) : a = b ∧ s = t :=
  written_append_inj hs ht (List.cons.inj h).2

theorem ofValue_append_ne_token {a b s t : Text} (hb : IsToken b) (hne : b ≠ []) :
    ofValue a ++ s ≠ b ++ t := by
  intro h
  cases b with
  | nil => exact hne rfl
  | cons x b =>
    have hx : isPlain x = true := hb x List.mem_cons_self
    rw [← (List.cons.inj h).1] at hx
    exact absurd hx (by decide)

namespace Function

def localName? (f : Function) : Operand → Option Text
  | .param i => f.params[i]?.map Param.name
  | .inst i => f.insts[i]?.map Inst.name
  | _ => none

theorem operandText_of_localName? {f : Function} {x : Operand} {name : Text}
    (h : f.localName? x = some name) : f.operandText x = ofValue name := by
  cases x with
  | param i =>
    show ofValue ((f.localName? (.param i)).getD []) = _
    rw [h]
    rfl
  | inst i =>
    show ofValue ((f.localName? (.inst i)).getD []) = _
    rw [h]
    rfl
  | const w v => cases h
  | symbol ty ident => cases h

theorem localName?_inj {f : Function}
    (hlocals : (f.params.map Param.name ++ f.blocks.map Block.name ++ f.insts.map Inst.name).Nodup)
    {x y : Operand} {name : Text} (hx : f.localName? x = some name)
    (hy : f.localName? y = some name) : x = y := by
  obtain ⟨hleft, hinsts, hdisjoint⟩ := List.nodup_append.mp hlocals
  have hparams := (List.nodup_append.mp hleft).1
  have hne : ∀ i j, f.localName? (.param i) = some name → f.localName? (.inst j) ≠ some name := by
    intro i j hi hj
    obtain ⟨p, hp, hpname⟩ := Option.map_eq_some_iff.mp hi
    obtain ⟨k, hk, hkname⟩ := Option.map_eq_some_iff.mp hj
    have hpmem := List.mem_append_left (f.blocks.map Block.name)
      (List.mem_map_of_mem (f := Param.name) (List.mem_of_getElem? hp))
    have hkmem := List.mem_map_of_mem (f := Inst.name) (List.mem_of_getElem? hk)
    exact hdisjoint _ hpmem _ hkmem (hpname.trans hkname.symm)
  cases x with
  | param i =>
    cases y with
    | param j =>
      have hi : (f.params.map Param.name)[i]? = some name := by rw [List.getElem?_map]; exact hx
      have hj : (f.params.map Param.name)[j]? = some name := by rw [List.getElem?_map]; exact hy
      have hlt := (List.getElem?_eq_some_iff.mp hi).1
      rw [(List.getElem?_inj hlt hparams).mp (hi.trans hj.symm)]
    | inst j => exact absurd hy (hne i j hx)
    | const w v => cases hy
    | symbol ty ident => cases hy
  | inst i =>
    cases y with
    | param j => exact absurd hx (hne j i hy)
    | inst j =>
      have hi : (f.insts.map Inst.name)[i]? = some name := by rw [List.getElem?_map]; exact hx
      have hj : (f.insts.map Inst.name)[j]? = some name := by rw [List.getElem?_map]; exact hy
      have hlt := (List.getElem?_eq_some_iff.mp hi).1
      rw [(List.getElem?_inj hlt hinsts).mp (hi.trans hj.symm)]
    | const w v => cases hy
    | symbol ty ident => cases hy
  | const w v => cases hx
  | symbol ty ident => cases hx

/-- Two functions, each number `n` of its module, that agree up to their instructions from
number `k` on. -/
structure Agree (m m' : Module) (n : Nat) (f f' : Function) (k : Nat) : Prop where
  functions : ∀ i < n, m'.functions[i]? = m.functions[i]?
  params : f'.params = f.params
  insts : ∀ i < k, f'.insts[i]? = f.insts[i]?
  idents : (m.functions.map ident).Nodup
  locals : (f.params.map Param.name ++ f.blocks.map Block.name ++ f.insts.map Inst.name).Nodup

/-- An operand in scope: a constant that fits its type, or a value with a name. -/
theorem Scoped.cases {f : Function} {k : Nat} {ty : Ty} {x : Operand} (h : f.Scoped k ty x) :
    (∃ w v, x = .const w v ∧ ty = .int w ∧ 0 ≤ v ∧ v < twoPow (w - 1)) ∨
      ∃ name, f.localName? x = some name := by
  cases x with
  | param i =>
    obtain ⟨p, hp, -⟩ := Option.map_eq_some_iff.mp h
    exact Or.inr ⟨p.name, by rw [localName?, hp]; rfl⟩
  | inst i =>
    obtain ⟨j, hj, -⟩ := Option.map_eq_some_iff.mp h.2
    exact Or.inr ⟨j.name, by rw [localName?, hj]; rfl⟩
  | const w v => exact Or.inl ⟨w, v, rfl, h⟩
  | symbol ty ident => exact h.elim

section Agreement

variable {m m' : Module} {n : Nat} {f f' : Function} {k : Nat}

theorem Agree.localName?_eq (h : Agree m m' n f f' k) {ty : Ty} {x : Operand}
    (hx : f'.Scoped k ty x) : f'.localName? x = f.localName? x := by
  cases x with
  | param i => rw [localName?, h.params]; rfl
  | inst i => rw [localName?, h.insts i hx.1]; rfl
  | const w v => rfl
  | symbol ty ident => rfl

theorem literal_append_ne {w : Nat} {v : Int} (hv : 0 ≤ v) {a s t : Text} :
    ofValue a ++ s ≠ Literal.text w v ++ t := by
  obtain ⟨c, rfl⟩ := Int.eq_ofNat_of_zero_le hv
  exact ofValue_append_ne_token (Literal.text_isToken w c) (Literal.text_ne_nil w c)

theorem operandText_append_inj (h : Agree m m' n f f' k) {ty : Ty} {x x' : Operand}
    (hx : f.Scoped k ty x) (hx' : f'.Scoped k ty x') {s t : Text} (hs : Breaks s) (ht : Breaks t)
    (heq : f.operandText x ++ s = f'.operandText x' ++ t) : x = x' ∧ s = t := by
  have hname' := h.localName?_eq hx'
  rcases Scoped.cases hx with ⟨w, v, rfl, hty, hv⟩ | ⟨a, ha⟩
  · rcases Scoped.cases hx' with ⟨w', v', rfl, hty', hv'⟩ | ⟨b, hb⟩
    · obtain rfl : w = w' := Ty.int.inj (hty.symm.trans hty')
      obtain ⟨rfl, hst⟩ := Literal.text_append_inj hv hv' hs ht heq
      exact ⟨rfl, hst⟩
    · rw [operandText_of_localName? hb] at heq
      exact absurd heq.symm (literal_append_ne hv.1)
  · rw [operandText_of_localName? ha] at heq
    rcases Scoped.cases hx' with ⟨w', v', rfl, hty', hv'⟩ | ⟨b, hb⟩
    · exact absurd heq (literal_append_ne hv'.1)
    · rw [operandText_of_localName? hb] at heq
      obtain ⟨rfl, hst⟩ := ofValue_append_inj hs ht heq
      exact ⟨localName?_inj h.locals ha (hname'.symm.trans hb), hst⟩

theorem typedText_append_inj (h : Agree m m' n f f' k) {a a' : Ty × Operand}
    (hty : ∃ w, a.1 = .int w) (hty' : ∃ w, a'.1 = .int w) (ha : f.Scoped k a.1 a.2)
    (ha' : f'.Scoped k a'.1 a'.2) {s t : Text} (hs : Breaks s) (ht : Breaks t)
    (heq : f.typedText a ++ s = f'.typedText a' ++ t) : a = a' ∧ s = t := by
  obtain ⟨ty, x⟩ := a
  obtain ⟨ty', x'⟩ := a'
  simp only [typedText, List.append_assoc] at heq
  obtain ⟨rfl, hrest⟩ := Ty.text_append_inj hty hty' (breaks_append rfl _) (breaks_append rfl _) heq
  obtain ⟨rfl, hst⟩ := operandText_append_inj h ha ha' hs ht (List.append_cancel_left hrest)
  exact ⟨rfl, hst⟩

end Agreement
end Function

/-! ## Instructions -/

def Module.OverIntegers (m : Module) : Prop :=
  ∀ f ∈ m.functions, ∀ ty ∈ f.result :: f.params.map Param.ty, ∃ w, ty = .int w

def Inst.opcode : Inst → Text
  | .binary _ op .. => op.text
  | .convert _ op .. => op.text
  | .call .. => "call"
  | .foreign _ op _ => op.tag

def Function.operandsText (m : Module) (f : Function) : Inst → Text
  | .binary _ _ ty x y => ty.text ++ " " ++ f.operandText x ++ ", " ++ f.operandText y
  | .convert _ _ source x target => f.typedText (source, x) ++ " to " ++ target.text
  | .call _ result callee args _ =>
    result.text ++ " " ++ calleeIdent m callee ++ "(" ++ Text.join ", " (args.map f.typedText) ++ ")"
  | .foreign .. => []

theorem BinaryOp.text_isToken (op : BinaryOp) : IsToken op.text := by
  cases op <;> decide

theorem ConvertOp.text_isToken (op : ConvertOp) : IsToken op.text := by
  cases op <;> decide

theorem BinaryOp.text_injective {a b : BinaryOp} : a.text = b.text → a = b := by
  cases a <;> cases b <;> decide

theorem ConvertOp.text_injective {a b : ConvertOp} : a.text = b.text → a = b := by
  cases a <;> cases b <;> decide

theorem BinaryOp.text_ne_convert (a : BinaryOp) (b : ConvertOp) : a.text ≠ b.text := by
  cases a <;> cases b <;> decide

theorem BinaryOp.text_ne_call (a : BinaryOp) : a.text ≠ "call" := by
  cases a <;> decide

theorem ConvertOp.text_ne_call (a : ConvertOp) : a.text ≠ "call" := by
  cases a <;> decide

namespace Function

section Instructions

variable {m m' : Module} {n : Nat} {f f' : Function} {k : Nat}

theorem instText_append {i : Inst} (hi : i.Typed m n f k) (hbare : i.bare = i) (s : Text) :
    f.instText m i ++ s =
      ofValue i.name ++ (" = " ++ (i.opcode ++ (" " ++ (f.operandsText m i ++ s)))) := by
  cases i with
  | binary name op ty x y =>
    simp only [instText, operandsText, Inst.opcode, List.append_assoc]
  | convert name op source x target =>
    simp only [instText, operandsText, Inst.opcode, List.append_assoc]
  | call name result callee args attachments =>
    have hnone : attachments = [] := (Inst.call.inj hbare).2.2.2.2.symm
    have hword : Text.ofString "call " = Text.ofString "call" ++ Text.ofString " " := by decide
    subst hnone
    simp only [instText, operandsText, Inst.opcode, List.append_assoc, List.flatMap_nil,
      List.nil_append, hword]
  | foreign name op ty => exact hi.elim

theorem opcode_isToken {i : Inst} (hi : i.Typed m n f k) : IsToken i.opcode := by
  cases i with
  | binary name op ty x y => exact op.text_isToken
  | convert name op source x target => exact op.text_isToken
  | call name result callee args attachments =>
    exact (by decide : IsToken (Text.ofString "call"))
  | foreign name op ty => exact hi.elim

theorem calleeIdent_eq {position : Nat} {g : Function} (hg : m.functions[position]? = some g) :
    calleeIdent m (some position) = ofFunction g.name := by
  unfold calleeIdent
  rw [Option.bind_some, hg]
  rfl

/-- A function is called by a name that no other earlier function has. -/
theorem Agree.position_eq (h : Agree m m' n f f' k) {i j : Nat} {g g' : Function} (hj : j < n)
    (hg : m.functions[i]? = some g) (hg' : m'.functions[j]? = some g') (hname : g.name = g'.name) :
    i = j := by
  have hi : (m.functions.map ident)[i]? = some g.ident := by
    rw [List.getElem?_map, hg]
    rfl
  have hj : (m.functions.map ident)[j]? = some g.ident := by
    rw [List.getElem?_map, ← h.functions j hj, hg']
    show some (ofFunction g'.name) = some (ofFunction g.name)
    rw [hname]
  have hlt := (List.getElem?_eq_some_iff.mp hi).1
  exact (List.getElem?_inj hlt h.idents).mp (hi.trans hj.symm)

theorem binary_append_inj (h : Agree m m' n f f' k) {name name' : Text} {op op' : BinaryOp}
    {ty ty' : Ty} {x y x' y' : Operand} (hi : (Inst.binary name op ty x y).Typed m n f k)
    (hi' : (Inst.binary name' op' ty' x' y').Typed m' n f' k) {s t : Text} (hs : Breaks s)
    (ht : Breaks t)
    (heq : f.operandsText m (.binary name op ty x y) ++ s =
      f'.operandsText m' (.binary name' op' ty' x' y') ++ t) :
    (ty = ty' ∧ x = x' ∧ y = y') ∧ s = t := by
  obtain ⟨hty, hx, hy⟩ := hi
  obtain ⟨hty', hx', hy'⟩ := hi'
  simp only [operandsText, List.append_assoc] at heq
  obtain ⟨rfl, hrest⟩ := Ty.text_append_inj hty hty' (breaks_append rfl _) (breaks_append rfl _) heq
  obtain ⟨rfl, hlast⟩ := operandText_append_inj h hx hx' (breaks_append rfl _) (breaks_append rfl _)
    (List.append_cancel_left hrest)
  obtain ⟨rfl, hst⟩ := operandText_append_inj h hy hy' hs ht (List.append_cancel_left hlast)
  exact ⟨⟨rfl, rfl, rfl⟩, hst⟩

theorem convert_append_inj (h : Agree m m' n f f' k) {name name' : Text} {op op' : ConvertOp}
    {source target source' target' : Ty} {x x' : Operand}
    (hi : (Inst.convert name op source x target).Typed m n f k)
    (hi' : (Inst.convert name' op' source' x' target').Typed m' n f' k) {s t : Text} (hs : Breaks s)
    (ht : Breaks t)
    (heq : f.operandsText m (.convert name op source x target) ++ s =
      f'.operandsText m' (.convert name' op' source' x' target') ++ t) :
    (source = source' ∧ x = x' ∧ target = target') ∧ s = t := by
  obtain ⟨hx, a, b, ha, hb, -⟩ := hi
  obtain ⟨hx', a', b', ha', hb', -⟩ := hi'
  simp only [operandsText, List.append_assoc] at heq
  obtain ⟨harg, hrest⟩ := typedText_append_inj h ⟨a, ha⟩ ⟨a', ha'⟩ hx hx' (breaks_append rfl _)
    (breaks_append rfl _) heq
  cases harg
  obtain ⟨rfl, hst⟩ := Ty.text_append_inj ⟨b, hb⟩ ⟨b', hb'⟩ hs ht (List.append_cancel_left hrest)
  exact ⟨⟨rfl, rfl, rfl⟩, hst⟩

theorem integers_of_call (hm : m.OverIntegers) {name : Text} {result : Ty} {callee : Option Nat}
    {args : List (Ty × Operand)} {attachments : List Attachment}
    (hi : (Inst.call name result callee args attachments).Typed m n f k) :
    (∃ w, result = .int w) ∧ ∀ a ∈ args, (∃ w, a.1 = .int w) ∧ f.Scoped k a.1 a.2 := by
  obtain ⟨position, g, -, -, hg, hresult, hparams, hargs⟩ := hi
  have hints := hm g (List.mem_of_getElem? hg)
  refine ⟨hresult ▸ hints g.result List.mem_cons_self, fun a ha => ⟨?_, hargs a ha⟩⟩
  have hmem : a.1 ∈ g.params.map Param.ty := hparams ▸ List.mem_map_of_mem ha
  exact hints a.1 (List.mem_cons_of_mem _ hmem)

theorem call_append_inj (h : Agree m m' n f f' k) (hm : m.OverIntegers) (hm' : m'.OverIntegers)
    {name name' : Text} {result result' : Ty} {callee callee' : Option Nat}
    {args args' : List (Ty × Operand)} {attachments attachments' : List Attachment}
    (hi : (Inst.call name result callee args attachments).Typed m n f k)
    (hi' : (Inst.call name' result' callee' args' attachments').Typed m' n f' k) {s t : Text}
    (heq : f.operandsText m (.call name result callee args attachments) ++ s =
      f'.operandsText m' (.call name' result' callee' args' attachments') ++ t) :
    (result = result' ∧ callee = callee' ∧ args = args') ∧ s = t := by
  obtain ⟨hty, hargs⟩ := integers_of_call hm hi
  obtain ⟨hty', hargs'⟩ := integers_of_call hm' hi'
  obtain ⟨i, g, rfl, -, hg, -⟩ := hi
  obtain ⟨j, g', rfl, hj, hg', -⟩ := hi'
  simp only [operandsText, calleeIdent_eq hg, calleeIdent_eq hg', ofFunction, List.append_assoc] at heq
  obtain ⟨rfl, hrest⟩ := Ty.text_append_inj hty hty' (breaks_append rfl _) (breaks_append rfl _) heq
  have hrest := List.append_cancel_left (List.append_cancel_left hrest)
  obtain ⟨hname, hrest⟩ := written_append_inj (breaks_append rfl _) (breaks_append rfl _) hrest
  have hne : ∀ {f : Function} {a : Ty × Operand} {s t : Text},
      (∃ w, a.1 = .int w) ∧ f.Scoped k a.1 a.2 → f.typedText a ++ s ≠ ")" ++ t := by
    intro f a s t ha
    simp only [typedText, List.append_assoc]
    exact Ty.text_append_ne ha.1 _ _
  obtain ⟨rfl, hst⟩ := bracketed_append_inj
    (fun ha hb hs ht heq => typedText_append_inj h ha.1 hb.1 ha.2 hb.2 hs ht heq) hne hne hargs hargs'
    (List.append_cancel_left hrest)
  rw [h.position_eq hj hg hg' hname]
  exact ⟨⟨rfl, rfl, rfl⟩, hst⟩

/-- An instruction in its place can be read back. -/
theorem instText_append_inj (h : Agree m m' n f f' k) (hm : m.OverIntegers) (hm' : m'.OverIntegers)
    {i i' : Inst} (hi : i.Typed m n f k) (hi' : i'.Typed m' n f' k) (hbare : i.bare = i)
    (hbare' : i'.bare = i') {s t : Text} (hs : Breaks s) (ht : Breaks t)
    (heq : f.instText m i ++ s = f'.instText m' i' ++ t) : i = i' ∧ s = t := by
  rw [instText_append hi hbare, instText_append hi' hbare'] at heq
  obtain ⟨hname, hrest⟩ := ofValue_append_inj (breaks_append rfl _) (breaks_append rfl _) heq
  obtain ⟨hop, hrest⟩ := token_append_inj (opcode_isToken hi) (opcode_isToken hi')
    (breaks_append rfl _) (breaks_append rfl _) (List.append_cancel_left hrest)
  have hrest := List.append_cancel_left hrest
  cases i with
  | binary name op ty x y =>
    cases i' with
    | binary name' op' ty' x' y' =>
      obtain ⟨⟨rfl, rfl, rfl⟩, hst⟩ := binary_append_inj h hi hi' hs ht hrest
      cases hname
      rw [BinaryOp.text_injective hop]
      exact ⟨rfl, hst⟩
    | convert name' op' source target x => exact absurd hop (op.text_ne_convert op')
    | call name' result callee args attachments => exact absurd hop op.text_ne_call
    | foreign name' op' ty' => exact hi'.elim
  | convert name op source x target =>
    cases i' with
    | binary name' op' ty' x' y' => exact absurd hop.symm (op'.text_ne_convert op)
    | convert name' op' source' x' target' =>
      obtain ⟨⟨rfl, rfl, rfl⟩, hst⟩ := convert_append_inj h hi hi' hs ht hrest
      cases hname
      rw [ConvertOp.text_injective hop]
      exact ⟨rfl, hst⟩
    | call name' result callee args attachments => exact absurd hop op.text_ne_call
    | foreign name' op' ty' => exact hi'.elim
  | call name result callee args attachments =>
    cases i' with
    | binary name' op' ty' x' y' => exact absurd hop.symm op'.text_ne_call
    | convert name' op' source' x' target' => exact absurd hop.symm op'.text_ne_call
    | call name' result' callee' args' attachments' =>
      obtain ⟨⟨rfl, rfl, rfl⟩, hst⟩ := call_append_inj h hm hm' hi hi' hrest
      cases hname
      rw [← hbare, ← hbare']
      exact ⟨rfl, hst⟩
    | foreign name' op' ty' => exact hi'.elim
  | foreign name op ty => exact hi.elim

end Instructions

/-! ## Functions -/

def linesText (m : Module) (f : Function) (insts : List Inst) : Text :=
  insts.flatMap fun i => ("\t" ++ f.instText m i ++ "\n" : Text)

theorem linesText_cons (m : Module) (f : Function) (i : Inst) (rest : List Inst) (s : Text) :
    f.linesText m (i :: rest) ++ s =
      "\t" ++ (f.instText m i ++ ("\n" ++ (f.linesText m rest ++ s))) := by
  simp only [linesText, List.flatMap_cons, List.append_assoc]

section Functions

variable {m m' : Module} {n : Nat} {f f' : Function}

theorem Agree.after (h : Agree m m' n f f' 0) {done rest rest' : List Inst}
    (hf : f.insts = done ++ rest) (hf' : f'.insts = done ++ rest') :
    Agree m m' n f f' done.length where
  functions := h.functions
  params := h.params
  insts := by
    intro i hi
    rw [hf, hf', List.getElem?_append_left hi, List.getElem?_append_left hi]
  idents := h.idents
  locals := h.locals

theorem linesText_append_ne {k : Nat} {i : Inst} {rest : List Inst} (hi : i.Typed m n f k)
    (hbare : i.bare = i) (s t : Text) : f.linesText m (i :: rest) ++ s ≠ "\tret " ++ t := by
  intro h
  rw [linesText_cons, instText_append hi hbare] at h
  exact absurd (List.cons.inj (List.cons.inj h).2).1 (by decide)

/-- Run: the instructions one after another, up to the return. -/
theorem linesText_append_inj (h : Agree m m' n f f' 0) (hm : m.OverIntegers) (hm' : m'.OverIntegers)
    {done rest rest' : List Inst} (hf : f.insts = done ++ rest) (hf' : f'.insts = done ++ rest')
    (hi : f.TypedFrom m n done.length rest) (hi' : f'.TypedFrom m' n done.length rest')
    (hbare : ∀ i ∈ rest, i.bare = i) (hbare' : ∀ i ∈ rest', i.bare = i) {s t : Text}
    (heq : f.linesText m rest ++ ("\tret " ++ s) = f'.linesText m' rest' ++ ("\tret " ++ t)) :
    rest = rest' ∧ s = t := by
  induction rest generalizing done rest' with
  | nil =>
    cases rest' with
    | nil => exact ⟨rfl, List.append_cancel_left heq⟩
    | cons i' rest' =>
      exact absurd heq.symm (linesText_append_ne hi'.1 (hbare' i' List.mem_cons_self) _ _)
  | cons i rest ih =>
    cases rest' with
    | nil => exact absurd heq (linesText_append_ne hi.1 (hbare i List.mem_cons_self) _ _)
    | cons i' rest' =>
      rw [linesText_cons, linesText_cons] at heq
      obtain ⟨rfl, hrest⟩ := instText_append_inj (h.after hf hf') hm hm' hi.1 hi'.1
        (hbare i List.mem_cons_self) (hbare' i' List.mem_cons_self) (breaks_append rfl _)
        (breaks_append rfl _) (List.append_cancel_left heq)
      have hlength : (done ++ [i]).length = done.length + 1 := List.length_append
      have hf₁ : f.insts = (done ++ [i]) ++ rest := by rw [hf, List.append_assoc]; rfl
      have hf₁' : f'.insts = (done ++ [i]) ++ rest' := by rw [hf', List.append_assoc]; rfl
      obtain ⟨rfl, hst⟩ := ih hf₁ hf₁' (hlength ▸ hi.2) (hlength ▸ hi'.2)
        (fun j hj => hbare j (List.mem_cons_of_mem i hj))
        (fun j hj => hbare' j (List.mem_cons_of_mem i hj)) (List.append_cancel_left hrest)
      exact ⟨rfl, hst⟩

theorem insts_of_blocks {name : Text} {insts : List Inst} {term : Terminator}
    (h : f.blocks = [⟨name, insts, term⟩]) : f.insts = insts := by
  rw [Function.insts, h]
  exact List.append_nil insts

theorem insts_bare_of_bare (h : f.bare = f) : ∀ i ∈ f.insts, i.bare = i := by
  have hinsts : f.insts.map Inst.bare = f.insts.map id := by rw [← insts_bare, h, List.map_id]
  exact List.map_inj_left.mp hinsts

def paramText (p : Param) : Text := p.ty.text ++ " " ++ ofValue p.name

theorem integers_of_mem (hm : m.OverIntegers) (hf : f ∈ m.functions) :
    ∀ p ∈ f.params, ∃ w, p.ty = .int w := by
  intro p hp
  exact hm f hf p.ty (List.mem_cons_of_mem _ (List.mem_map_of_mem hp))

theorem params_append_inj {ps ps' : List Param} (hps : ∀ p ∈ ps, ∃ w, p.ty = .int w)
    (hps' : ∀ p ∈ ps', ∃ w, p.ty = .int w) {s t : Text}
    (h : Text.join ", " (ps.map paramText) ++ (")" ++ s) =
      Text.join ", " (ps'.map paramText) ++ (")" ++ t)) : ps = ps' ∧ s = t := by
  have hne : ∀ {p : Param} {s t : Text}, (∃ w, p.ty = .int w) → paramText p ++ s ≠ ")" ++ t := by
    intro p s t hp
    simp only [paramText, List.append_assoc]
    exact Ty.text_append_ne hp _ _
  refine bracketed_append_inj ?_ hne hne hps hps' h
  rintro ⟨name, ty⟩ ⟨name', ty'⟩ s t hp hp' hs ht heq
  simp only [paramText, List.append_assoc] at heq
  obtain ⟨rfl, hrest⟩ := Ty.text_append_inj hp hp' (breaks_append rfl _) (breaks_append rfl _) heq
  obtain ⟨rfl, hst⟩ := ofValue_append_inj hs ht (List.append_cancel_left hrest)
  exact ⟨rfl, hst⟩

theorem text_append {insts : List Inst} {value : Operand} (hbare : f.bare = f)
    (hblocks : f.blocks = [⟨"entry", insts, .ret (some (f.result, value))⟩]) (s : Text) :
    f.text m ++ s = "define " ++ (f.result.text ++ (" @" ++ (written f.name ++ ("(" ++
      (Text.join ", " (f.params.map paramText) ++ (")" ++ (" \x7b\nentry:\n" ++
        (f.linesText m insts ++ ("\tret " ++ (f.typedText (f.result, value) ++
          ("\n\x7d\n" ++ s))))))))))) := by
  have hnone : f.attachments = [] := by rw [← hbare]; rfl
  have hentry : written (Text.ofString "entry") = Text.ofString "entry" := by decide
  have hopen : Text.ofString " \x7b\nentry:\n" =
      Text.ofString " \x7b\n" ++ (Text.ofString "entry" ++ Text.ofString ":\n") := by decide
  have hat : Text.ofString " @" = Text.ofString " " ++ Text.ofString "@" := by decide
  have hret : Text.ofString "\tret " = Text.ofString "\t" ++ Text.ofString "ret " := by decide
  have hclose : Text.ofString "\n\x7d\n" = Text.ofString "\n" ++ Text.ofString "\x7d\n" := by decide
  have hparam : paramText = fun p => p.ty.text ++ Text.ofString " " ++ ofValue p.name := rfl
  rw [hopen, hat, hret, hclose, hparam]
  simp only [text, hblocks, List.isEmpty_cons, Bool.false_eq_true, if_false, headerText, attachmentsText,
    hnone, List.flatMap_nil, List.map_cons, List.map_nil, Text.join, blockText, termText, ident,
    ofFunction, hentry, linesText, List.append_assoc, List.nil_append]

/-- A function in its place can be read back. -/
theorem text_append_inj (hfuncs : ∀ i < n, m'.functions[i]? = m.functions[i]?)
    (hidents : (m.functions.map ident).Nodup) (hm : m.OverIntegers) (hm' : m'.OverIntegers)
    (hf : f.WellFormed m n) (hf' : f'.WellFormed m' n) (hmem : f ∈ m.functions)
    (hmem' : f' ∈ m'.functions) (hbare : f.bare = f) (hbare' : f'.bare = f') {s t : Text}
    (heq : f.text m ++ s = f'.text m' ++ t) : f = f' ∧ s = t := by
  obtain ⟨insts, value, hblocks, hvalue⟩ := hf.block
  obtain ⟨insts', value', hblocks', hvalue'⟩ := hf'.block
  have hty := hm f hmem f.result List.mem_cons_self
  have hty' := hm' f' hmem' f'.result List.mem_cons_self
  have hinsts := insts_of_blocks hblocks
  have hinsts' := insts_of_blocks hblocks'
  rw [text_append hbare hblocks, text_append hbare' hblocks'] at heq
  have hrest := List.append_cancel_left heq
  -- The head: result, name, parameters.
  obtain ⟨hresult, hrest⟩ := Ty.text_append_inj hty hty' (breaks_append rfl _) (breaks_append rfl _)
    hrest
  obtain ⟨hname, hrest⟩ := written_append_inj (breaks_append rfl _) (breaks_append rfl _)
    (List.append_cancel_left hrest)
  obtain ⟨hparams, hrest⟩ := params_append_inj (integers_of_mem hm hmem) (integers_of_mem hm' hmem')
    (List.append_cancel_left hrest)
  -- The instructions and the value they end in.
  have hagree : Agree m m' n f f' 0 :=
    ⟨hfuncs, hparams.symm, fun i hi => absurd hi (Nat.not_lt_zero i), hidents, hf.locals⟩
  have hbares := insts_bare_of_bare hbare
  have hbares' := insts_bare_of_bare hbare'
  have htyped := hf.insts
  have htyped' := hf'.insts
  rw [hinsts] at hbares htyped
  rw [hinsts'] at hbares' htyped'
  obtain ⟨hlines, hrest⟩ := linesText_append_inj hagree hm hm' (show f.insts = [] ++ insts from hinsts)
    hinsts' htyped htyped' hbares hbares' (List.append_cancel_left hrest)
  rw [← hlines] at hinsts' hvalue' hblocks'
  have hlast := hagree.after (hinsts.trans (List.append_nil insts).symm)
    (hinsts'.trans (List.append_nil insts).symm)
  obtain ⟨hpair, hrest⟩ := typedText_append_inj hlast hty hty' hvalue hvalue' (breaks_append rfl _)
    (breaks_append rfl _) hrest
  have hbody : f.blocks = f'.blocks := by
    rw [hblocks, hblocks', hresult, show value = value' from congrArg Prod.snd hpair]
  have hattachments : f.attachments = f'.attachments := by rw [← hbare, ← hbare']; rfl
  refine ⟨?_, List.append_cancel_left hrest⟩
  calc f = ⟨f.name, f.result, f.params, f.blocks, f.attachments⟩ := rfl
    _ = f' := by rw [hname, hresult, hparams, hbody, hattachments]

theorem text_ne_nil (m : Module) (f : Function) : f.text m ≠ [] := by
  unfold text
  split
  · exact List.cons_ne_nil _ _
  · exact List.cons_ne_nil _ _

end Functions
end Function

/-! ## Modules -/

namespace Module

/-- A module of well-formed integer code and nothing else. -/
structure IsCode (m : Module) : Prop where
  wellFormed : m.WellFormed
  integers : m.OverIntegers
  bare : ∀ f ∈ m.functions, f.bare = f
  listed : m.listed = m.functions
  definitions : m.definitions = []
  named : m.named = []

def spacedText (m : Module) (fs : List Function) : Text := fs.flatMap fun f => 0x0A :: f.text m

variable {m m' : Module}

theorem spacedText_nil (m : Module) : m.spacedText [] = [] := rfl

theorem spacedText_cons (m : Module) (f : Function) (fs : List Function) :
    m.spacedText (f :: fs) = 0x0A :: (f.text m ++ m.spacedText fs) := List.flatMap_cons

theorem join_functions (m : Module) (t : Text) (fs : List Function) :
    Text.join "\n" (t :: fs.map (Function.text m)) = t ++ m.spacedText fs := by
  rw [join_cons, List.flatMap_map, show Text.ofString "\n" = [0x0A] by decide]
  rfl

theorem text_of_isCode (h : m.IsCode) :
    m.text = if m.header = [] then Text.join "\n" (m.functions.map (Function.text m))
      else m.header ++ m.spacedText m.functions := by
  have hfuncs : (m.functions.map (Function.text m)).filter (fun part => !part.isEmpty) =
      m.functions.map (Function.text m) := by
    refine List.filter_eq_self.mpr fun part hpart => ?_
    obtain ⟨f, -, rfl⟩ := List.mem_map.mp hpart
    cases ht : f.text m with
    | nil => exact absurd ht (f.text_ne_nil m)
    | cons b t => rfl
  have hparts : m.parts = [m.header].filter (fun part => !part.isEmpty) ++
      m.functions.map (Function.text m) := by
    unfold parts
    rw [h.listed, h.definitions, h.named, List.filter_append, List.filter_append, hfuncs]
    exact List.append_nil _
  unfold text
  rw [hparts]
  cases hheader : m.header with
  | nil => rfl
  | cons b t =>
    rw [if_neg (List.cons_ne_nil b t)]
    exact join_functions m (b :: t) m.functions

/-- Run: the functions one after another. -/
theorem functions_eq_of_spacedText (h : m.IsCode) (h' : m'.IsCode) {done fs gs : List Function}
    (hf : m.functions = done ++ fs) (hg : m'.functions = done ++ gs)
    (heq : m.spacedText fs = m'.spacedText gs) : fs = gs := by
  induction fs generalizing done gs with
  | nil =>
    cases gs with
    | nil => rfl
    | cons g gs =>
      rw [spacedText_nil, spacedText_cons] at heq
      cases heq
  | cons f fs ih =>
    rw [spacedText_cons] at heq
    cases gs with
    | nil => cases heq
    | cons g gs =>
      rw [spacedText_cons] at heq
      have hmem : f ∈ m.functions := by rw [hf]; simp
      have hmem' : g ∈ m'.functions := by rw [hg]; simp
      have hplace : m.functions[done.length]? = some f := by rw [hf]; simp
      have hplace' : m'.functions[done.length]? = some g := by rw [hg]; simp
      have hbefore : ∀ i < done.length, m'.functions[i]? = m.functions[i]? := by
        intro i hi
        rw [hf, hg, List.getElem?_append_left hi, List.getElem?_append_left hi]
      have hrest : f.text m ++ m.spacedText fs = g.text m' ++ m'.spacedText gs :=
        (List.cons.inj heq).2
      obtain ⟨rfl, htail⟩ := Function.text_append_inj hbefore h.wellFormed.idents h.integers h'.integers
        (h.wellFormed.functions _ _ hplace) (h'.wellFormed.functions _ _ hplace') hmem hmem'
        (h.bare f hmem) (h'.bare g hmem') hrest
      have hf₁ : m.functions = (done ++ [f]) ++ fs := by rw [hf, List.append_assoc]; rfl
      have hg₁ : m'.functions = (done ++ [f]) ++ gs := by rw [hg, List.append_assoc]; rfl
      rw [ih hf₁ hg₁ htail]

/-- Two modules of code with the same heading and the same text have the same functions. -/
theorem functions_eq_of_text (h : m.IsCode) (h' : m'.IsCode) (hheader : m.header = m'.header)
    (htext : m.text = m'.text) : m.functions = m'.functions := by
  have hspaced : m.spacedText m.functions = m'.spacedText m'.functions := by
    rw [text_of_isCode h, text_of_isCode h', ← hheader] at htext
    by_cases hempty : m.header = []
    · rw [if_pos hempty, if_pos hempty] at htext
      have hnonempty : ∀ (m : Module) (f : Function) (fs : List Function),
          Text.join "\n" ((f :: fs).map (Function.text m)) ≠ [] := by
        intro m f fs hnil
        rw [List.map_cons, join_functions] at hnil
        exact f.text_ne_nil m (List.append_eq_nil_iff.mp hnil).1
      cases hfs : m.functions with
      | nil =>
        cases hgs : m'.functions with
        | nil => rw [spacedText_nil, spacedText_nil]
        | cons g gs =>
          rw [hfs, hgs] at htext
          exact absurd htext.symm (hnonempty m' g gs)
      | cons f fs =>
        cases hgs : m'.functions with
        | nil =>
          rw [hfs, hgs] at htext
          exact absurd htext (hnonempty m f fs)
        | cons g gs =>
          rw [hfs, hgs, List.map_cons, List.map_cons, join_functions, join_functions] at htext
          rw [spacedText_cons, spacedText_cons, htext]
    · rw [if_neg hempty, if_neg hempty] at htext
      exact List.append_cancel_left htext
  exact functions_eq_of_spacedText h h' (show m.functions = [] ++ m.functions from rfl) rfl hspaced

end Module

end Ir
end FeltLowering
