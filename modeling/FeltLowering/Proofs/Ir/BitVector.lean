import FeltLowering.Proofs.Ir.TwosComplement

/-
Straight-line code over bit-vectors.

This is the reference the evaluator is measured against.  A value is a word, which is a
width and that many bits, and an instruction has a meaning only on words of the widths it
names: `none` stands for code without a meaning.  Sums, differences and products are those
of bit-vectors, remainders are undefined for a zero divisor, and a call starts over with no
locals.  Calls may nest as deep as a given number of activations and no deeper.

Two theorems say that nothing else is in it.  `denote_remByZero_iff` says that a division
by zero is reported exactly if the evaluation comes to one, and `denote_mono` says that the
bound on nested calls shows in no other answer than the report that it was hit.
-/
namespace FeltLowering
namespace Ir

structure Word where
  width : Nat
  bits : BitVec width
  deriving DecidableEq, Repr

namespace Word

def ofInt (w : Nat) (v : Int) : Word := ⟨w, BitVec.ofInt w v⟩

def toInt (x : Word) : Int := x.bits.toNat

def ty (x : Word) : Ty := .int x.width

def at? (x : Word) (w : Nat) : Option (BitVec w) :=
  if h : x.width = w then some (x.bits.cast h) else none

@[simp] theorem at?_mk {w : Nat} (b : BitVec w) : (Word.mk w b).at? w = some b := by
  simp [at?]

@[simp] theorem toInt_mk {w : Nat} (b : BitVec w) : (Word.mk w b).toInt = b.toNat := rfl

end Word

/-- The operation on words of one width; remainders have no value for a zero divisor. -/
def BinaryOp.onBits {w : Nat} (op : BinaryOp) (a b : BitVec w) : Option (BitVec w) :=
  match op with
  | .add => some (a + b)
  | .sub => some (a - b)
  | .mul => some (a * b)
  | .urem => if b = 0 then none else some (a % b)
  | .srem => if b = 0 then none else some (a.srem b)

def ConvertOp.onBits {s : Nat} (op : ConvertOp) (t : Nat) (a : BitVec s) : BitVec t :=
  match op with
  | .sext => a.signExtend t
  | .zext | .trunc => a.setWidth t

structure WordFrame where
  params : List Word
  locals : List Word := []

namespace WordFrame

def word? (fr : WordFrame) : Operand → Option Word
  | .const w v => some (.ofInt w v)
  | .param i => fr.params[i]?
  | .inst i => fr.locals[i]?
  | .symbol .. => none

def bits? (fr : WordFrame) (w : Nat) (x : Operand) : Option (BitVec w) :=
  (fr.word? x).bind (·.at? w)

def push (fr : WordFrame) (x : Word) : WordFrame := { fr with locals := fr.locals ++ [x] }

end WordFrame

/-- What a call means: nothing, a report or a word. -/
abbrev Invoke := Nat → List Word → Option (Except EvalError Word)

namespace Function

def denoteInst (invoke : Invoke) (f : Function) (fr : WordFrame) :
    Inst → Option (Except EvalError Word)
  | .binary _ op (.int w) x y => do
    let a ← fr.bits? w x
    let b ← fr.bits? w y
    return ((op.onBits a b).map (Word.mk w)).elim (f.fail (.remByZero op)) .ok
  | .convert _ op (.int s) x (.int t) => do
    let a ← fr.bits? s x
    return .ok ⟨t, op.onBits t a⟩
  | .call _ _ (some position) args _ => do
    let words ← args.mapM fun arg => fr.word? arg.2
    invoke position words
  | _ => none

def denoteInsts (invoke : Invoke) (f : Function) :
    WordFrame → List Inst → Option (Except EvalError WordFrame)
  | fr, [] => some (.ok fr)
  | fr, i :: rest =>
    match f.denoteInst invoke fr i with
    | some (.ok x) => f.denoteInsts invoke (fr.push x) rest
    | some (.error e) => some (.error e)
    | none => none

def denoteTerm (fr : WordFrame) : Terminator → Option Word
  | .ret (some v) => fr.word? v.2
  | _ => none

/-- One activation, on words of the types of the parameters. -/
def denoteBody (invoke : Invoke) (f : Function) (args : List Word) :
    Option (Except EvalError Word) :=
  if args.map Word.ty = f.params.map Param.ty then
    match f.blocks with
    | [b] =>
      match f.denoteInsts invoke { params := args } b.insts with
      | some (.ok fr) => (denoteTerm fr b.term).map .ok
      | some (.error e) => some (.error e)
      | none => none
    | _ => none
  else none

end Function

namespace Module

/-- The meaning of a function with `depth` nested activations left. -/
def denote (m : Module) : (depth : Nat) → Function → List Word → Option (Except EvalError Word)
  | 0, f, _ => some (f.fail .depth)
  | depth + 1, f, args =>
    f.denoteBody (fun position words => m.functions[position]?.bind fun g => m.denote depth g words)
      args

def invoke (m : Module) (depth : Nat) : Invoke :=
  fun position words => m.functions[position]?.bind fun g => m.denote depth g words

theorem denote_succ (m : Module) (depth : Nat) (f : Function) (args : List Word) :
    m.denote (depth + 1) f args = f.denoteBody (m.invoke depth) args := rfl

end Module

/-! ## Inversion -/

namespace Function

variable {invoke : Invoke} {f : Function} {fr : WordFrame} {args : List Word}

theorem denoteInsts_cons_eq_some_iff {i : Inst} {rest : List Inst}
    {r : Except EvalError WordFrame} :
    f.denoteInsts invoke fr (i :: rest) = some r ↔
      (∃ x, f.denoteInst invoke fr i = some (.ok x) ∧
          f.denoteInsts invoke (fr.push x) rest = some r) ∨
        ∃ e, f.denoteInst invoke fr i = some (.error e) ∧ r = .error e := by
  rw [denoteInsts]
  cases hi : f.denoteInst invoke fr i with
  | none => simp
  | some v =>
    cases v with
    | error e => simp [eq_comm]
    | ok x => simp

theorem denoteInsts_append {before rest : List Inst} {fr' : WordFrame}
    {r : Except EvalError WordFrame} (hbefore : f.denoteInsts invoke fr before = some (.ok fr'))
    (hrest : f.denoteInsts invoke fr' rest = some r) :
    f.denoteInsts invoke fr (before ++ rest) = some r := by
  induction before generalizing fr with
  | nil =>
    cases hbefore
    exact hrest
  | cons i before ih =>
    rcases denoteInsts_cons_eq_some_iff.mp hbefore with ⟨x, hi, hx⟩ | ⟨e, -, he⟩
    · exact denoteInsts_cons_eq_some_iff.mpr (Or.inl ⟨x, hi, ih hx⟩)
    · cases he

/-- A run that ends in a report comes to the instruction that makes it. -/
theorem denoteInsts_eq_error {insts : List Inst} {e : EvalError}
    (h : f.denoteInsts invoke fr insts = some (.error e)) :
    ∃ before i after fr', insts = before ++ i :: after ∧
      f.denoteInsts invoke fr before = some (.ok fr') ∧
      f.denoteInst invoke fr' i = some (.error e) := by
  induction insts generalizing fr with
  | nil => cases h
  | cons i rest ih =>
    rcases denoteInsts_cons_eq_some_iff.mp h with ⟨x, hi, hx⟩ | ⟨e', hi, he⟩
    · obtain ⟨before, j, after, fr', rfl, hbefore, hj⟩ := ih hx
      refine ⟨i :: before, j, after, fr', rfl, ?_, hj⟩
      exact denoteInsts_cons_eq_some_iff.mpr (Or.inl ⟨x, hi, hbefore⟩)
    · cases he
      exact ⟨[], i, rest, fr, rfl, rfl, hi⟩

/-- The activation on the given words comes to an instruction. -/
def ComesTo (invoke : Invoke) (f : Function) (args : List Word) (fr : WordFrame) (i : Inst) : Prop :=
  args.map Word.ty = f.params.map Param.ty ∧ ∃ b before after, f.blocks = [b] ∧
    b.insts = before ++ i :: after ∧
    f.denoteInsts invoke { params := args } before = some (.ok fr)

/-- An activation ends in a report exactly if it comes to an instruction that makes it. -/
theorem denoteBody_eq_error_iff {e : EvalError} :
    f.denoteBody invoke args = some (.error e) ↔
      ∃ fr i, f.ComesTo invoke args fr i ∧ f.denoteInst invoke fr i = some (.error e) := by
  unfold denoteBody
  constructor
  · intro h
    split at h
    · next htypes =>
      split at h
      · next b hb =>
        split at h
        · next fr hrun =>
          obtain ⟨x, -, hx⟩ := Option.map_eq_some_iff.mp h
          cases hx
        · next e' hrun =>
          cases h
          obtain ⟨before, i, after, fr, hinsts, hbefore, hi⟩ := denoteInsts_eq_error hrun
          exact ⟨fr, i, ⟨htypes, b, before, after, hb, hinsts, hbefore⟩, hi⟩
        · cases h
      · cases h
    · cases h
  · rintro ⟨fr, i, ⟨htypes, b, before, after, hb, hinsts, hbefore⟩, hi⟩
    have hrun : f.denoteInsts invoke { params := args } b.insts = some (.error e) := by
      rw [hinsts]
      refine denoteInsts_append hbefore ?_
      exact denoteInsts_cons_eq_some_iff.mpr (Or.inr ⟨e, hi, rfl⟩)
    rw [if_pos htypes, hb]
    simp only [hrun]

end Function

/-! ## Division by zero -/

def WordFrame.DividesByZero (fr : WordFrame) (op : BinaryOp) : Inst → Prop
  | .binary _ op' (.int w) x y =>
    op' = op ∧ (op = .urem ∨ op = .srem) ∧ (∃ a, fr.bits? w x = some a) ∧ fr.bits? w y = some 0
  | _ => False

/-- An evaluation visits the instructions it comes to, and those its calls visit. -/
inductive Module.Visits (m : Module) :
    Nat → Function → List Word → Function → WordFrame → Inst → Prop
  | own {depth : Nat} {f : Function} {args : List Word} {fr : WordFrame} {i : Inst}
      (h : f.ComesTo (m.invoke depth) args fr i) : Visits m (depth + 1) f args f fr i
  | inside {depth position : Nat} {f g f' : Function} {args words : List Word} {fr fr' : WordFrame}
      {name : Text} {result : Ty} {operands : List (Ty × Operand)} {attachments : List Attachment}
      {i : Inst}
      (h : f.ComesTo (m.invoke depth) args fr (.call name result (some position) operands attachments))
      (hwords : operands.mapM (fun arg => fr.word? arg.2) = some words)
      (hg : m.functions[position]? = some g) (hvisit : Visits m depth g words f' fr' i) :
      Visits m (depth + 1) f args f' fr' i

theorem BinaryOp.onBits_eq_none_iff {w : Nat} {op : BinaryOp} {a b : BitVec w} :
    op.onBits a b = none ↔ (op = .urem ∨ op = .srem) ∧ b = 0 := by
  cases op with
  | add => simp [onBits]
  | sub => simp [onBits]
  | mul => simp [onBits]
  | urem => simp [onBits]
  | srem => simp [onBits]

namespace Function

variable {invoke : Invoke} {f : Function} {fr : WordFrame}

theorem denoteInst_binary_eq_some_iff {name : Text} {op : BinaryOp} {w : Nat} {x y : Operand}
    {r : Except EvalError Word} :
    f.denoteInst invoke fr (.binary name op (.int w) x y) = some r ↔
      ∃ a b, fr.bits? w x = some a ∧ fr.bits? w y = some b ∧
        r = ((op.onBits a b).map (Word.mk w)).elim (f.fail (.remByZero op)) .ok := by
  constructor
  · intro h
    obtain ⟨a, ha, h⟩ := Option.bind_eq_some_iff.mp h
    obtain ⟨b, hb, h⟩ := Option.bind_eq_some_iff.mp h
    exact ⟨a, b, ha, hb, (Option.some.inj h).symm⟩
  · rintro ⟨a, b, ha, hb, rfl⟩
    exact Option.bind_eq_some_iff.mpr ⟨a, ha, Option.bind_eq_some_iff.mpr ⟨b, hb, rfl⟩⟩

theorem denoteInst_call_eq_some_iff {name : Text} {result : Ty} {position : Nat}
    {operands : List (Ty × Operand)} {attachments : List Attachment} {r : Except EvalError Word} :
    f.denoteInst invoke fr (.call name result (some position) operands attachments) = some r ↔
      ∃ words, operands.mapM (fun arg => fr.word? arg.2) = some words ∧
        invoke position words = some r := by
  unfold denoteInst
  exact Option.bind_eq_some_iff

/-- A report comes from a remainder or from a call. -/
theorem denoteInst_eq_error_iff {i : Inst} {e : EvalError} :
    f.denoteInst invoke fr i = some (.error e) ↔
      (∃ op, fr.DividesByZero op i ∧ e = ⟨f.displayName, .remByZero op⟩) ∨
        ∃ name result position operands attachments words,
          i = .call name result (some position) operands attachments ∧
          operands.mapM (fun arg => fr.word? arg.2) = some words ∧
          invoke position words = some (.error e) := by
  constructor
  · intro h
    match i with
    | .binary name op (.int w) x y =>
      obtain ⟨a, b, ha, hb, hr⟩ := denoteInst_binary_eq_some_iff.mp h
      cases hop : op.onBits a b with
      | some c =>
        rw [hop] at hr
        cases hr
      | none =>
        rw [hop] at hr
        obtain ⟨hrem, hzero⟩ := BinaryOp.onBits_eq_none_iff.mp hop
        rw [hzero] at hb
        exact Or.inl ⟨op, ⟨rfl, hrem, ⟨a, ha⟩, hb⟩, Except.error.inj hr⟩
    | .binary name op (.other t) x y => cases h
    | .convert name op (.int s) x (.int t) =>
      obtain ⟨a, -, hr⟩ := Option.bind_eq_some_iff.mp h
      cases hr
    | .convert name op (.int s) x (.other t) => cases h
    | .convert name op (.other s) x t => cases h
    | .call name result none operands attachments => cases h
    | .call name result (some position) operands attachments =>
      obtain ⟨words, hwords, hr⟩ := denoteInst_call_eq_some_iff.mp h
      exact Or.inr ⟨name, result, position, operands, attachments, words, rfl, hwords, hr⟩
    | .foreign name op ty => cases h
  · rintro (⟨op, hdiv, rfl⟩ |
      ⟨name, result, position, operands, attachments, words, rfl, hwords, hr⟩)
    · match i, hdiv with
      | .binary name op' (.int w) x y, ⟨hop, hrem, ⟨a, ha⟩, hb⟩ =>
        subst hop
        have hnone : op'.onBits a 0 = none := BinaryOp.onBits_eq_none_iff.mpr ⟨hrem, rfl⟩
        refine denoteInst_binary_eq_some_iff.mpr ⟨a, 0, ha, hb, ?_⟩
        rw [hnone]
        rfl
    · exact denoteInst_call_eq_some_iff.mpr ⟨words, hwords, hr⟩

end Function

namespace Module

variable {m : Module}

/-- A report at some depth is a report of the depth, or one an instruction makes. -/
theorem denote_succ_eq_error_iff {depth : Nat} {f : Function} {args : List Word} {e : EvalError} :
    m.denote (depth + 1) f args = some (.error e) ↔
      (∃ fr i op, f.ComesTo (m.invoke depth) args fr i ∧ fr.DividesByZero op i ∧
          e = ⟨f.displayName, .remByZero op⟩) ∨
        ∃ fr name result position operands attachments words g,
          f.ComesTo (m.invoke depth) args fr
            (.call name result (some position) operands attachments) ∧
          operands.mapM (fun arg => fr.word? arg.2) = some words ∧
          m.functions[position]? = some g ∧ m.denote depth g words = some (.error e) := by
  rw [denote_succ, Function.denoteBody_eq_error_iff]
  constructor
  · rintro ⟨fr, i, hcomes, hi⟩
    rcases Function.denoteInst_eq_error_iff.mp hi with ⟨op, hdiv, he⟩ |
      ⟨name, result, position, operands, attachments, words, rfl, hwords, hr⟩
    · exact Or.inl ⟨fr, i, op, hcomes, hdiv, he⟩
    · obtain ⟨g, hg, hr⟩ := Option.bind_eq_some_iff.mp hr
      exact Or.inr ⟨fr, name, result, position, operands, attachments, words, g, hcomes, hwords,
        hg, hr⟩
  · rintro (⟨fr, i, op, hcomes, hdiv, he⟩ |
      ⟨fr, name, result, position, operands, attachments, words, g, hcomes, hwords, hg, hr⟩)
    · exact ⟨fr, i, hcomes, Function.denoteInst_eq_error_iff.mpr (Or.inl ⟨op, hdiv, he⟩)⟩
    · refine ⟨fr, _, hcomes, Function.denoteInst_eq_error_iff.mpr (Or.inr ?_)⟩
      exact ⟨name, result, position, operands, attachments, words, rfl, hwords,
        Option.bind_eq_some_iff.mpr ⟨g, hg, hr⟩⟩

/-- A division by zero is reported exactly if the evaluation visits one. -/
theorem denote_remByZero_iff {depth : Nat} {f : Function} {args : List Word} {op : BinaryOp} :
    (∃ e, m.denote depth f args = some (.error e) ∧ e.fault = .remByZero op) ↔
      ∃ g fr i, m.Visits depth f args g fr i ∧ fr.DividesByZero op i := by
  constructor
  · rintro ⟨e, he, hfault⟩
    induction depth generalizing f args with
    | zero =>
      cases he
      cases hfault
    | succ depth ih =>
      rcases denote_succ_eq_error_iff.mp he with ⟨fr, i, op', hcomes, hdiv, rfl⟩ |
        ⟨fr, name, result, position, operands, attachments, words, g, hcomes, hwords, hg, hr⟩
      · cases hfault
        exact ⟨f, fr, i, .own hcomes, hdiv⟩
      · obtain ⟨f', fr', i, hvisit, hdiv⟩ := ih hr
        exact ⟨f', fr', i, .inside hcomes hwords hg hvisit, hdiv⟩
  · rintro ⟨g, fr, i, hvisit, hdiv⟩
    induction hvisit with
    | @own depth f args fr i hcomes =>
      exact ⟨_, denote_succ_eq_error_iff.mpr (Or.inl ⟨fr, i, op, hcomes, hdiv, rfl⟩), rfl⟩
    | inside hcomes hwords hg _ ih =>
      obtain ⟨e, he, hfault⟩ := ih hdiv
      refine ⟨e, denote_succ_eq_error_iff.mpr (Or.inr ?_), hfault⟩
      exact ⟨_, _, _, _, _, _, _, _, hcomes, hwords, hg, he⟩

/-- Nothing is reported but divisions by zero and calls that nest too deep. -/
theorem denote_error_cases {depth : Nat} {f : Function} {args : List Word} {e : EvalError}
    (h : m.denote depth f args = some (.error e)) :
    (∃ op, e.fault = .remByZero op) ∨ e.fault = .depth := by
  induction depth generalizing f args with
  | zero =>
    cases h
    exact Or.inr rfl
  | succ depth ih =>
    rcases denote_succ_eq_error_iff.mp h with ⟨fr, i, op, -, -, rfl⟩ |
      ⟨fr, name, result, position, operands, attachments, words, g, -, -, -, hr⟩
    · exact Or.inl ⟨op, rfl⟩
    · exact ih hr

end Module

/-! ## The bound on nested calls -/

/-- A report that the bound was hit. -/
def TooDeep (r : Except EvalError Word) : Prop := ∃ e, r = .error e ∧ e.fault = .depth

/-- The second meaning of calls agrees with the first wherever that is not too deep. -/
def Invoke.Le (invoke invoke' : Invoke) : Prop :=
  ∀ position words r, invoke position words = some r → ¬ TooDeep r → invoke' position words = some r

namespace Function

variable {invoke invoke' : Invoke} {f : Function}

theorem denoteInst_mono (hle : invoke.Le invoke') {fr : WordFrame} {i : Inst}
    {r : Except EvalError Word} (h : f.denoteInst invoke fr i = some r) (hr : ¬ TooDeep r) :
    f.denoteInst invoke' fr i = some r := by
  match i with
  | .binary name op (.int w) x y => exact h
  | .binary name op (.other t) x y => exact h
  | .convert name op (.int s) x (.int t) => exact h
  | .convert name op (.int s) x (.other t) => exact h
  | .convert name op (.other s) x t => cases h
  | .call name result none operands attachments => exact h
  | .call name result (some position) operands attachments =>
    obtain ⟨words, hwords, hcall⟩ := denoteInst_call_eq_some_iff.mp h
    exact denoteInst_call_eq_some_iff.mpr ⟨words, hwords, hle _ _ _ hcall hr⟩
  | .foreign name op ty => exact h

theorem not_tooDeep_ok (x : Word) : ¬ TooDeep (.ok x) := by
  rintro ⟨e, he, -⟩
  cases he

theorem denoteInsts_mono (hle : invoke.Le invoke') {fr fr' : WordFrame} {insts : List Inst}
    (h : f.denoteInsts invoke fr insts = some (.ok fr')) :
    f.denoteInsts invoke' fr insts = some (.ok fr') := by
  induction insts generalizing fr with
  | nil => exact h
  | cons i rest ih =>
    rcases denoteInsts_cons_eq_some_iff.mp h with ⟨x, hi, hx⟩ | ⟨e, -, he⟩
    · refine denoteInsts_cons_eq_some_iff.mpr (Or.inl ⟨x, ?_, ih hx⟩)
      exact denoteInst_mono hle hi (not_tooDeep_ok x)
    · cases he

theorem denoteBody_mono (hle : invoke.Le invoke') {args : List Word} {r : Except EvalError Word}
    (h : f.denoteBody invoke args = some r) (hr : ¬ TooDeep r) :
    f.denoteBody invoke' args = some r := by
  cases r with
  | error e =>
    obtain ⟨fr, i, ⟨htypes, b, before, after, hb, hinsts, hbefore⟩, hi⟩ :=
      denoteBody_eq_error_iff.mp h
    refine denoteBody_eq_error_iff.mpr ⟨fr, i, ?_, denoteInst_mono hle hi hr⟩
    exact ⟨htypes, b, before, after, hb, hinsts, denoteInsts_mono hle hbefore⟩
  | ok x =>
    unfold denoteBody at h ⊢
    split at h
    · next htypes =>
      rw [if_pos htypes]
      split at h
      · next b hb =>
        split at h
        · next fr hrun =>
          simp only [denoteInsts_mono hle hrun]
          exact h
        · cases h
        · cases h
      · cases h
    · cases h

end Function

/-- An answer that is not too deep is the answer at every greater depth. -/
theorem Module.denote_mono {m : Module} {depth depth' : Nat} (hle : depth ≤ depth') {f : Function}
    {args : List Word} {r : Except EvalError Word} (h : m.denote depth f args = some r)
    (hr : ¬ TooDeep r) : m.denote depth' f args = some r := by
  induction depth generalizing depth' f args r with
  | zero =>
    cases h
    exact absurd ⟨_, rfl, rfl⟩ hr
  | succ depth ih =>
    obtain ⟨k, rfl⟩ : ∃ k, depth' = k + 1 := ⟨depth' - 1, by omega⟩
    rw [denote_succ] at h ⊢
    refine Function.denoteBody_mono (fun position words r hcall hdeep => ?_) h hr
    obtain ⟨g, hg, hcall⟩ := Option.bind_eq_some_iff.mp hcall
    exact Option.bind_eq_some_iff.mpr ⟨g, hg, ih (by omega) hcall hdeep⟩

end Ir
end FeltLowering
