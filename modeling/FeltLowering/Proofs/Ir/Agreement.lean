import FeltLowering.Proofs.Ir.BitVector
import FeltLowering.Proofs.Ir.WellFormed

/-
The evaluator computes on bit-vectors.

The evaluator keeps its values as integers, wraps the result of every instruction to the
width of its type and reads operands as signed where an instruction asks for that.  On
typed integer code this is evaluation over words: `eval_agrees` is proved by induction on
the number of nested calls, and within one activation along the instructions.  What is
carried along is `WordFrame.Fits`: every local is a word of the type of its instruction.

Code is typed here by widths alone.  Constants may have any value, since they are taken at
their width, a function may call itself or a later one, and a width may be zero.
-/
namespace FeltLowering
namespace Ir

/-! ## Words as integers -/

theorem wrap_eq_toNat_ofInt (w : Nat) (v : Int) : wrap w v = (BitVec.ofInt w v).toNat := by
  rw [BitVec.toNat_ofInt]
  exact (Int.toNat_of_nonneg (wrap_nonneg w v)).symm

theorem ofInt_toNat {w : Nat} (t : Nat) (a : BitVec w) :
    BitVec.ofInt t (a.toNat : Int) = a.setWidth t := by
  rw [BitVec.ofInt_natCast, BitVec.ofNat_toNat]

theorem toSigned_toNat {w : Nat} (a : BitVec w) : toSigned w a.toNat = a.toInt := by
  rcases Nat.eq_zero_or_pos w with rfl | hw
  · rw [Subsingleton.elim a 0]
    rfl
  · have hlt : (a.toNat : Int) < twoPow w := Int.ofNat_lt.mpr a.isLt
    have hwrap : wrap w a.toNat = a.toNat := wrap_of_range (Int.natCast_nonneg _) hlt
    rw [← hwrap, toSigned_wrap hw, BitVec.toInt_eq_toNat_bmod]
    rfl

namespace Word

theorem toInt_ofInt (w : Nat) (v : Int) : (Word.ofInt w v).toInt = wrap w v :=
  (wrap_eq_toNat_ofInt w v).symm

theorem ofInt_toInt (x : Word) : Word.ofInt x.width x.toInt = x := by
  obtain ⟨w, b⟩ := x
  show Word.mk w (BitVec.ofInt w (b.toNat : Int)) = ⟨w, b⟩
  rw [ofInt_toNat, BitVec.setWidth_eq]

theorem toInt_nonneg (x : Word) : 0 ≤ x.toInt := Int.natCast_nonneg _

theorem toInt_lt (x : Word) : x.toInt < 2 ^ x.width := by
  have h : x.bits.toNat < 2 ^ x.width := x.bits.isLt
  show (x.bits.toNat : Int) < 2 ^ x.width
  exact_mod_cast h

end Word

/-- An operation on integers, wrapped, is the operation on bits. -/
theorem binaryValue_toNat (f : Function) (op : BinaryOp) {w : Nat} (a b : BitVec w) :
    (f.binaryValue op w a.toNat b.toNat).map (wrap w) =
      (((op.onBits a b).map (Word.mk w)).elim (f.fail (.remByZero op)) .ok).map Word.toInt := by
  have hself (c : BitVec w) : BitVec.ofInt w (c.toNat : Int) = c := by
    rw [ofInt_toNat, BitVec.setWidth_eq]
  have hzero : (b.toNat : Int) = 0 ↔ b = 0 := by
    rw [Int.natCast_eq_zero, ← BitVec.toNat_inj]
    rfl
  cases op with
  | add =>
    show Except.ok (wrap w (a.toNat + b.toNat)) = Except.ok ((a + b).toNat : Int)
    rw [wrap_eq_toNat_ofInt, BitVec.ofInt_add, hself, hself]
  | sub =>
    show Except.ok (wrap w (a.toNat - b.toNat)) = Except.ok ((a - b).toNat : Int)
    rw [wrap_eq_toNat_ofInt, Int.sub_eq_add_neg, BitVec.ofInt_add, BitVec.ofInt_neg, hself, hself,
      BitVec.sub_eq_add_neg]
  | mul =>
    show Except.ok (wrap w (a.toNat * b.toNat)) = Except.ok ((a * b).toNat : Int)
    rw [wrap_eq_toNat_ofInt, BitVec.ofInt_mul, hself, hself]
  | urem =>
    by_cases hb : b = 0
    · simp only [Function.binaryValue, BinaryOp.onBits, hb, if_true]
      rfl
    · have hrem : (a.toNat : Int).tmod b.toNat = ((a % b).toNat : Int) := by
        rw [BitVec.toNat_umod]
        rfl
      simp only [Function.binaryValue, BinaryOp.onBits, mt hzero.mp hb, hb, if_false]
      show Except.ok (wrap w ((a.toNat : Int).tmod b.toNat)) = Except.ok ((a % b).toNat : Int)
      rw [hrem, wrap_eq_toNat_ofInt, hself]
  | srem =>
    by_cases hb : b = 0
    · simp only [Function.binaryValue, BinaryOp.onBits, hb, if_true]
      rfl
    · simp only [Function.binaryValue, BinaryOp.onBits, mt hzero.mp hb, hb, if_false]
      show Except.ok (wrap w ((toSigned w a.toNat).tmod (toSigned w b.toNat))) =
        Except.ok ((a.srem b).toNat : Int)
      rw [toSigned_toNat, toSigned_toNat, ← BitVec.toInt_srem, wrap_eq_toNat_ofInt,
        BitVec.ofInt_toInt]

theorem convert_toNat (op : ConvertOp) {s : Nat} (t : Nat) (a : BitVec s) :
    wrap t (if op = .sext then toSigned s a.toNat else a.toNat) = (op.onBits t a).toNat := by
  rw [wrap_eq_toNat_ofInt]
  cases op with
  | sext =>
    rw [if_pos rfl, toSigned_toNat]
    rfl
  | zext =>
    rw [if_neg (by decide), ofInt_toNat]
    rfl
  | trunc =>
    rw [if_neg (by decide), ofInt_toNat]
    rfl

/-! ## Typed integer code -/

/-- An operand of `w` bits, in an instruction that follows the first `k` of its function. -/
def Function.HasWidth (f : Function) (k w : Nat) : Operand → Prop
  | .param i => f.params[i]?.map Param.ty = some (.int w)
  | .inst i => i < k ∧ f.insts[i]?.map Inst.resultType = some (.int w)
  | .const w' _ => w' = w
  | .symbol .. => False

/-- An instruction in its place as number `k` of a function. -/
def Inst.IntegerCode (m : Module) (f : Function) (k : Nat) : Inst → Prop
  | .binary _ _ ty x y => ∃ w, ty = .int w ∧ f.HasWidth k w x ∧ f.HasWidth k w y
  | .convert _ op source x target =>
    ∃ s t, source = .int s ∧ target = .int t ∧ op.Converts s t ∧ f.HasWidth k s x
  | .call _ result callee args _ =>
    ∃ position g, callee = some position ∧ m.functions[position]? = some g ∧
      result = g.result ∧ args.map Prod.fst = g.params.map Param.ty ∧
      ∀ a ∈ args, ∃ w, a.1 = .int w ∧ f.HasWidth k w a.2
  | .foreign .. => False

structure Function.IntegerCode (m : Module) (f : Function) : Prop where
  params : ∀ p ∈ f.params, ∃ w, p.ty = .int w
  block : ∃ name insts x w, f.blocks = [⟨name, insts, .ret (some (f.result, x))⟩] ∧
    f.result = .int w ∧ f.HasWidth insts.length w x
  insts : ∀ (k : Nat) (i : Inst), f.insts[k]? = some i → i.IntegerCode m f k

def Module.IntegerCode (m : Module) : Prop := ∀ f ∈ m.functions, f.IntegerCode m

/-! ## Frames -/

namespace WordFrame

def toFrame (fr : WordFrame) : Frame := ⟨fr.params.map Word.toInt, fr.locals.map Word.toInt⟩

/-- The words have the types of the parameters and of the first instructions. -/
structure Fits (f : Function) (fr : WordFrame) : Prop where
  params : fr.params.map Word.ty = f.params.map Param.ty
  locals : fr.locals.map Word.ty = (f.insts.take fr.locals.length).map Inst.resultType

theorem toFrame_push (fr : WordFrame) (x : Word) :
    (fr.push x).toFrame = { fr.toFrame with locals := fr.toFrame.locals ++ [x.toInt] } := by
  simp only [toFrame, push, List.map_append, List.map_cons, List.map_nil]

theorem length_push (fr : WordFrame) (x : Word) :
    (fr.push x).locals.length = fr.locals.length + 1 := List.length_append

variable {f : Function} {fr : WordFrame}

/-- The next local is a word of the type of the next instruction. -/
theorem Fits.push (h : fr.Fits f) {i : Inst} (hi : f.insts[fr.locals.length]? = some i) {x : Word}
    (hx : x.ty = i.resultType) : (fr.push x).Fits f where
  params := h.params
  locals := by
    rw [length_push, List.take_add_one, hi, List.map_append, ← h.locals]
    show (fr.locals ++ [x]).map Word.ty = _
    rw [List.map_append, List.map_singleton, hx]
    rfl

theorem bits_of_ty {words : List Word} {i w : Nat} (h : words[i]?.map Word.ty = some (.int w)) :
    ∃ b : BitVec w, words[i]? = some ⟨w, b⟩ := by
  obtain ⟨⟨w', b⟩, hx, hty⟩ := Option.map_eq_some_iff.mp h
  cases hty
  exact ⟨b, hx⟩

/-- An operand of `w` bits has a word of that width, and the evaluator has its value. -/
theorem Fits.operand (h : fr.Fits f) {x : Operand} {w : Nat} (hx : f.HasWidth fr.locals.length w x) :
    ∃ b : BitVec w, fr.word? x = some ⟨w, b⟩ ∧ f.operandValue fr.toFrame x = .ok (b.toNat : Int) := by
  cases x with
  | const w' v =>
    obtain rfl : w' = w := hx
    refine ⟨BitVec.ofInt w' v, rfl, ?_⟩
    show Except.ok (wrap w' v) = _
    rw [wrap_eq_toNat_ofInt]
  | param i =>
    have hty : (fr.params[i]?).map Word.ty = some (.int w) := by
      rw [← List.getElem?_map, h.params, List.getElem?_map]
      exact hx
    obtain ⟨b, hb⟩ := bits_of_ty hty
    refine ⟨b, hb, ?_⟩
    simp only [Function.operandValue, toFrame, List.getElem?_map, hb, Option.map_some, Word.toInt_mk]
  | inst i =>
    obtain ⟨hlt, hres⟩ := hx
    have hty : (fr.locals[i]?).map Word.ty = some (.int w) := by
      rw [← List.getElem?_map, h.locals, List.getElem?_map, List.getElem?_take_of_lt hlt]
      exact hres
    obtain ⟨b, hb⟩ := bits_of_ty hty
    refine ⟨b, hb, ?_⟩
    simp only [Function.operandValue, toFrame, List.getElem?_map, hb, Option.map_some, Word.toInt_mk]
  | symbol ty name => exact hx.elim

theorem bits?_of_word {x : Operand} {w : Nat} {b : BitVec w} (h : fr.word? x = some ⟨w, b⟩) :
    fr.bits? w x = some b := by
  rw [bits?, h]
  exact Word.at?_mk b

theorem Fits.operands (h : fr.Fits f) {args : List (Ty × Operand)}
    (hargs : ∀ a ∈ args, ∃ w, a.1 = .int w ∧ f.HasWidth fr.locals.length w a.2) :
    ∃ words, args.mapM (fun arg => fr.word? arg.2) = some words ∧
      args.mapM (fun arg => f.operandValue fr.toFrame arg.2) = .ok (words.map Word.toInt) ∧
      words.map Word.ty = args.map Prod.fst := by
  induction args with
  | nil => exact ⟨[], rfl, rfl, rfl⟩
  | cons a args ih =>
    obtain ⟨w, hw, hwidth⟩ := hargs a List.mem_cons_self
    obtain ⟨b, hword, hvalue⟩ := h.operand hwidth
    obtain ⟨words, hwords, hvalues, htypes⟩ := ih fun a' ha' => hargs a' (List.mem_cons_of_mem a ha')
    refine ⟨⟨w, b⟩ :: words, ?_, ?_, ?_⟩
    · rw [List.mapM_cons, hword, hwords]
      rfl
    · rw [List.mapM_cons, hvalue, hvalues]
      rfl
    · rw [List.map_cons, List.map_cons, htypes, hw]
      rfl

end WordFrame

/-! ## Agreement -/

def Function.words (f : Function) (args : List Int) : List Word :=
  List.zipWith (fun p a => Word.ofInt p.ty.size a) f.params args

/-- The code has a meaning, the evaluator gives its value, and a word has the given type. -/
def Agrees (ty : Ty) (meaning : Option (Except EvalError Word)) (value : Except EvalError Int) : Prop :=
  ∃ r, meaning = some r ∧ value = r.map Word.toInt ∧ ∀ x, r = .ok x → x.ty = ty

namespace Agrees

variable {ty : Ty} {meaning : Option (Except EvalError Word)} {value : Except EvalError Int}

/-- A value is the unsigned value of a word, so it is in the range of its type. -/
theorem range (h : Agrees ty meaning value) {v : Int} (hv : value = .ok v) :
    ∃ w, ty = .int w ∧ 0 ≤ v ∧ v < 2 ^ w := by
  obtain ⟨r, -, hvalue, hty⟩ := h
  rw [hvalue] at hv
  cases r with
  | error e => cases hv
  | ok x =>
    cases hv
    exact ⟨x.width, (hty x rfl).symm, x.toInt_nonneg, x.toInt_lt⟩

theorem error_iff (h : Agrees ty meaning value) (e : EvalError) :
    value = .error e ↔ meaning = some (.error e) := by
  obtain ⟨r, hr, hvalue, -⟩ := h
  rw [hvalue, hr]
  cases r with
  | error e' => simp [Except.map]
  | ok x => simp [Except.map]

end Agrees

namespace Function

variable {m : Module} {f : Function} {fr : WordFrame} {denoted : Invoke}
  {invoke : Nat → List Int → Option (Except EvalError Int)}

theorem map_ty_words {ps : List Param} {args : List Int} (hps : ∀ p ∈ ps, ∃ w, p.ty = .int w)
    (hlen : args.length = ps.length) :
    (List.zipWith (fun (p : Param) a => Word.ofInt p.ty.size a) ps args).map Word.ty =
      ps.map Param.ty := by
  induction ps generalizing args with
  | nil => rfl
  | cons p ps ih =>
    cases args with
    | nil => cases hlen
    | cons a args =>
      obtain ⟨w, hw⟩ := hps p List.mem_cons_self
      have hrest := ih (fun q hq => hps q (List.mem_cons_of_mem p hq)) (Nat.succ.inj hlen)
      rw [List.zipWith_cons_cons, List.map_cons, hrest, List.map_cons, hw]
      rfl

theorem map_toInt_words (f : Function) (args : List Int) :
    (f.words args).map Word.toInt = List.zipWith (fun p a => wrap p.ty.size a) f.params args := by
  rw [words, List.map_zipWith]
  simp only [Word.toInt_ofInt]

theorem words_map_toInt {words : List Word} (h : words.map Word.ty = f.params.map Param.ty) :
    f.words (words.map Word.toInt) = words := by
  unfold Function.words
  generalize f.params = ps at h
  induction ps generalizing words with
  | nil =>
    rw [List.map_nil, List.map_eq_nil_iff] at h
    rw [h]
    rfl
  | cons p ps ih =>
    cases words with
    | nil => cases h
    | cons x words =>
      rw [List.map_cons, List.map_cons, List.cons.injEq] at h
      obtain ⟨hty, hrest⟩ := h
      have hsize : p.ty.size = x.width := by
        rw [← hty]
        rfl
      rw [List.map_cons, List.zipWith_cons_cons, ih hrest, hsize, Word.ofInt_toInt]

/-- Calls with the right number of arguments agree with their meaning. -/
def InvokeAgrees (m : Module) (denoted : Invoke)
    (invoke : Nat → List Int → Option (Except EvalError Int)) : Prop :=
  ∀ position g args, m.functions[position]? = some g → args.length = g.params.length →
    ∃ value, invoke position args = some value ∧ Agrees g.result (denoted position (g.words args)) value

/-- Step: one instruction. -/
theorem instValue_agrees (hcalls : InvokeAgrees m denoted invoke) (h : fr.Fits f) {i : Inst}
    (hi : i.IntegerCode m f fr.locals.length) :
    Agrees i.resultType (f.denoteInst denoted fr i) (f.instValue invoke fr.toFrame i) := by
  cases i with
  | binary name op ty x y =>
    obtain ⟨w, rfl, hx, hy⟩ := hi
    obtain ⟨a, haw, ha⟩ := h.operand hx
    obtain ⟨b, hbw, hb⟩ := h.operand hy
    refine ⟨_, denoteInst_binary_eq_some_iff.mpr
      ⟨a, b, WordFrame.bits?_of_word haw, WordFrame.bits?_of_word hbw, rfl⟩, ?_, ?_⟩
    · have hvalue : f.instValue invoke fr.toFrame (.binary name op (.int w) x y) =
          (f.binaryValue op w a.toNat b.toNat).map (wrap w) := by
        simp only [instValue, widthOf, ha, hb]
        show (f.binaryValue op w a.toNat b.toNat >>= fun r => pure (wrap w r)) = _
        cases f.binaryValue op w a.toNat b.toNat with
        | error e => rfl
        | ok v => rfl
      rw [hvalue, binaryValue_toNat]
    · intro c hc
      cases hop : op.onBits a b with
      | none =>
        rw [hop] at hc
        cases hc
      | some r =>
        rw [hop] at hc
        cases hc
        rfl
  | convert name op source x target =>
    obtain ⟨s, t, rfl, rfl, -, hx⟩ := hi
    obtain ⟨a, haw, ha⟩ := h.operand hx
    refine ⟨.ok ⟨t, op.onBits t a⟩, ?_, ?_, ?_⟩
    · exact Option.bind_eq_some_iff.mpr ⟨a, WordFrame.bits?_of_word haw, rfl⟩
    · simp only [instValue, widthOf, ha]
      show Except.ok (wrap t (if op = .sext then toSigned s a.toNat else a.toNat)) = _
      rw [convert_toNat]
      rfl
    · intro c hc
      cases hc
      rfl
  | call name result callee args attachments =>
    obtain ⟨position, g, rfl, hg, rfl, htypes, hargs⟩ := hi
    obtain ⟨words, hwords, hvalues, hwordty⟩ := h.operands hargs
    have hfit : words.map Word.ty = g.params.map Param.ty := hwordty.trans htypes
    have hlen : (words.map Word.toInt).length = g.params.length := by
      have := congrArg List.length hfit
      rwa [List.length_map, List.length_map, ← List.length_map Word.toInt] at this
    obtain ⟨value, hvalue, r, hr, hmap, hty⟩ := hcalls position g _ hg hlen
    rw [words_map_toInt hfit] at hr
    refine ⟨r, denoteInst_call_eq_some_iff.mpr ⟨words, hwords, hr⟩, ?_, hty⟩
    simp only [instValue, hvalues, bind, Except.bind, hvalue]
    exact hmap
  | foreign name op ty => exact hi.elim

/-- Run: the instructions from the next one on. -/
theorem runInsts_agrees (hcalls : InvokeAgrees m denoted invoke)
    (hcode : ∀ (k : Nat) (i : Inst), f.insts[k]? = some i → i.IntegerCode m f k) {rest : List Inst}
    (h : fr.Fits f) (hrest : f.insts.drop fr.locals.length = rest) :
    ∃ r, f.denoteInsts denoted fr rest = some r ∧
      f.runInsts invoke fr.toFrame rest = r.map WordFrame.toFrame ∧
      ∀ fr', r = .ok fr' → fr'.Fits f ∧ f.insts.length ≤ fr'.locals.length := by
  induction rest generalizing fr with
  | nil =>
    refine ⟨.ok fr, rfl, rfl, fun fr' hfr' => ?_⟩
    cases hfr'
    exact ⟨h, List.drop_eq_nil_iff.mp hrest⟩
  | cons i rest ih =>
    have hi : f.insts[fr.locals.length]? = some i := by
      rw [← List.head?_drop, hrest]
      rfl
    obtain ⟨v, hv, hvalue, hty⟩ := instValue_agrees hcalls h (hcode _ i hi)
    cases v with
    | error e =>
      refine ⟨.error e, denoteInsts_cons_eq_some_iff.mpr (Or.inr ⟨e, hv, rfl⟩), ?_, ?_⟩
      · simp only [runInsts, hvalue]
        rfl
      · intro fr' hfr'
        cases hfr'
    | ok x =>
      have hdrop : f.insts.drop (fr.push x).locals.length = rest := by
        rw [WordFrame.length_push, ← List.drop_drop, hrest]
        rfl
      obtain ⟨r, hr, hrun, hfits⟩ := ih (h.push hi (hty x rfl)) hdrop
      refine ⟨r, denoteInsts_cons_eq_some_iff.mpr (Or.inl ⟨x, hv, hr⟩), ?_, hfits⟩
      rw [runInsts_cons hvalue, ← WordFrame.toFrame_push]
      exact hrun

theorem activate_agrees (hcalls : InvokeAgrees m denoted invoke) (hf : f.IntegerCode m)
    {args : List Int} (hlen : args.length = f.params.length) :
    Agrees f.result (f.denoteBody denoted (f.words args)) (f.activate invoke args) := by
  obtain ⟨name, insts, x, w, hblocks, hresult, hx⟩ := hf.block
  have hinsts : f.insts = insts := by
    rw [Function.insts, hblocks]
    exact List.append_nil insts
  have htypes : (f.words args).map Word.ty = f.params.map Param.ty := map_ty_words hf.params hlen
  have hbind : f.bindParams 0 f.params args = .ok ((f.words args).map Word.toInt) := by
    rw [bindParams_of_int f 0 args hf.params, map_toInt_words]
  have hstart : WordFrame.Fits f { params := f.words args } := ⟨htypes, rfl⟩
  obtain ⟨r, hr, hrun, hfits⟩ := runInsts_agrees hcalls hf.insts hstart hinsts
  cases r with
  | error e =>
    refine ⟨.error e, ?_, ?_, fun y hy => by cases hy⟩
    · rw [denoteBody, if_pos htypes, hblocks]
      simp only [hr]
    · simp only [activate, hlen, ne_eq, not_true, if_false, hblocks, hbind]
      show (f.runInsts invoke ⟨(f.words args).map Word.toInt, []⟩ insts >>= _) = _
      rw [show f.runInsts invoke ⟨(f.words args).map Word.toInt, []⟩ insts = .error e from hrun]
      rfl
  | ok fr =>
    obtain ⟨hfit, hlocals⟩ := hfits fr rfl
    have hwidth : f.HasWidth fr.locals.length w x := by
      cases x with
      | inst i => exact ⟨by have := hx.1; rw [hinsts] at hlocals; omega, hx.2⟩
      | param i => exact hx
      | const w' v => exact hx
      | symbol ty name => exact hx
    obtain ⟨b, hword, hvalue⟩ := hfit.operand hwidth
    refine ⟨.ok ⟨w, b⟩, ?_, ?_, ?_⟩
    · rw [denoteBody, if_pos htypes, hblocks]
      simp only [hr, denoteTerm, hword, Option.map_some]
    · rw [activate_block hblocks hlen hbind hrun]
      exact hvalue
    · intro y hy
      cases hy
      exact hresult.symm

end Function

namespace Module

variable {m : Module}

/-- On typed integer code the evaluator and the bit-vectors agree at every depth. -/
theorem eval_agrees (hm : m.IntegerCode) (depth : Nat) {f : Function} (hf : f ∈ m.functions)
    {args : List Int} (hlen : args.length = f.params.length) :
    Agrees f.result (m.denote depth f (f.words args)) (m.eval depth f args) := by
  induction depth generalizing f args with
  | zero => exact ⟨f.fail .depth, rfl, rfl, fun x hx => by cases hx⟩
  | succ depth ih =>
    refine Function.activate_agrees (fun position g args hg hlen => ?_) (hm f hf) hlen
    have hagrees := ih (List.mem_of_getElem? hg) hlen
    refine ⟨m.eval depth g args, by rw [hg]; rfl, ?_⟩
    rw [hg]
    exact hagrees

theorem mem_functions_of_find? {name : Text} {f : Function} (h : m.find? name = some f) :
    f ∈ m.functions := by
  obtain ⟨⟨g, i⟩, hmem, rfl⟩ := List.mem_map.mp (List.mem_of_find?_eq_some h)
  exact List.mem_of_getElem? (List.mem_zipIdx_iff_getElem?.mp (List.mem_of_mem_filter hmem))

theorem call_agrees (hm : m.IntegerCode) {name : Text} {f : Function} (hf : m.find? name = some f)
    {args : List Int} (hlen : args.length = f.params.length) :
    Agrees f.result (m.denote maxDepth f (f.words args)) (m.call name args) := by
  rw [call, hf]
  exact eval_agrees hm maxDepth (mem_functions_of_find? hf) hlen

end Module

theorem EvalFault.kind_eq_divisionByZero_iff {fault : EvalFault} :
    fault.kind = .divisionByZero ↔ ∃ op, fault = .remByZero op := by
  cases fault with
  | remByZero op => simp [kind]
  | _ => simp [kind]

/-- A call to typed integer code is evaluation over words.  It fails for no other reason than
a division by zero, and then it came to one, or calls that nest too deep; apart from that
report the bound on nested calls has no effect. -/
theorem call_computes_on_words {m : Module} (hm : m.IntegerCode) {name : Text} {f : Function}
    (hf : m.find? name = some f) {args : List Int} (hlen : args.length = f.params.length) :
    ∃ r, m.denote maxDepth f (f.words args) = some r ∧ m.call name args = r.map Word.toInt ∧
      (∀ v, m.call name args = .ok v → ∃ w, f.result = .int w ∧ 0 ≤ v ∧ v < 2 ^ w) ∧
      (∀ e, m.call name args = .error e →
        e.fault.kind = .divisionByZero ∨ e.fault.kind = .depth) ∧
      ((∃ e, m.call name args = .error e ∧ e.fault.kind = .divisionByZero) ↔
        ∃ op g fr i, m.Visits maxDepth f (f.words args) g fr i ∧ fr.DividesByZero op i) ∧
      (¬ TooDeep r → ∀ depth, maxDepth ≤ depth → m.denote depth f (f.words args) = some r) := by
  have hagrees := Module.call_agrees hm hf hlen
  obtain ⟨r, hr, hcall, -⟩ := Module.call_agrees hm hf hlen
  refine ⟨r, hr, hcall, fun v => hagrees.range, fun e he => ?_, ?_,
    fun hdeep depth hle => Module.denote_mono hle hr hdeep⟩
  · rcases Module.denote_error_cases ((hagrees.error_iff e).mp he) with ⟨op, hop⟩ | hdepth
    · exact Or.inl (EvalFault.kind_eq_divisionByZero_iff.mpr ⟨op, hop⟩)
    · rw [hdepth]
      exact Or.inr rfl
  · constructor
    · rintro ⟨e, he, hkind⟩
      obtain ⟨op, hop⟩ := EvalFault.kind_eq_divisionByZero_iff.mp hkind
      exact ⟨op, Module.denote_remByZero_iff.mp ⟨e, (hagrees.error_iff e).mp he, hop⟩⟩
    · rintro ⟨op, hvisit⟩
      obtain ⟨e, he, hop⟩ := Module.denote_remByZero_iff.mpr hvisit
      exact ⟨e, (hagrees.error_iff e).mpr he, EvalFault.kind_eq_divisionByZero_iff.mpr ⟨op, hop⟩⟩

def byteRemainder : Function where
  name := "rem"
  result := .int 8
  params := [⟨"a", .int 8⟩, ⟨"b", .int 8⟩]
  blocks := [⟨"entry", [.binary "r" .srem (.int 8) (.param 0) (.param 1)],
    .ret (some (.int 8, .inst 0))⟩]

/-- Calls the remainder and widens its answer. -/
def wideRemainder : Function where
  name := "wide"
  result := .int 16
  params := [⟨"a", .int 8⟩, ⟨"b", .int 8⟩]
  blocks := [⟨"entry",
    [.call "r" (.int 8) (some 0) [(.int 8, .param 0), (.int 8, .param 1)] [],
      .convert "w" .sext (.int 8) (.inst 0) (.int 16)],
    .ret (some (.int 16, .inst 1))⟩]

def remainders : Module where
  functions := [byteRemainder, wideRemainder]

theorem remainders_integerCode : remainders.IntegerCode := by
  have hparams : ∀ p ∈ [Param.mk "a" (.int 8), ⟨"b", .int 8⟩], ∃ w, p.ty = .int w := by
    intro p hp
    simp only [List.mem_cons, List.not_mem_nil, or_false] at hp
    rcases hp with rfl | rfl
    · exact ⟨8, rfl⟩
    · exact ⟨8, rfl⟩
  intro f hf
  rcases List.mem_cons.mp hf with rfl | hf
  · refine ⟨hparams, ⟨_, _, _, 8, rfl, rfl, by decide, rfl⟩, fun k i hi => ?_⟩
    rcases k with _ | k
    · cases hi
      exact ⟨8, rfl, rfl, rfl⟩
    · cases hi
  · rcases List.mem_singleton.mp hf with rfl
    refine ⟨hparams, ⟨_, _, _, 16, rfl, rfl, by decide, rfl⟩, fun k i hi => ?_⟩
    rcases k with _ | _ | k
    · cases hi
      refine ⟨0, byteRemainder, rfl, rfl, rfl, rfl, fun a ha => ?_⟩
      simp only [List.mem_cons, List.not_mem_nil, or_false] at ha
      rcases ha with rfl | rfl
      · exact ⟨8, rfl, rfl⟩
      · exact ⟨8, rfl, rfl⟩
    · cases hi
      exact ⟨8, 16, rfl, rfl, show 8 < 16 by decide, by decide, rfl⟩
    · cases hi

/-- The remainder of `-7` by 3 is `-1`, which is widened with its sign, and 256 is a zero
divisor at eight bits. -/
theorem remainders_compute_on_words :
    remainders.IntegerCode ∧ remainders.find? "wide" = some wideRemainder ∧
      remainders.call "wide" [-7, 3] = .ok 65535 ∧
      ∃ op g fr i, remainders.Visits maxDepth wideRemainder (wideRemainder.words [1, 256]) g fr i ∧
        fr.DividesByZero op i := by
  have hfind : remainders.find? "wide" = some wideRemainder := by decide
  refine ⟨remainders_integerCode, hfind, ?_, ?_⟩
  · obtain ⟨r, hr, hcall, -⟩ := call_computes_on_words remainders_integerCode hfind
      (show [-7, 3].length = 2 from rfl)
    have hword : remainders.denote maxDepth wideRemainder (wideRemainder.words [-7, 3]) =
        some (.ok ⟨16, 65535⟩) := by decide
    rw [hcall, ← Option.some.inj (hword.symm.trans hr)]
    rfl
  · obtain ⟨r, -, -, -, -, hzero, -⟩ := call_computes_on_words remainders_integerCode hfind
      (show [1, 256].length = 2 from rfl)
    have hcall : remainders.call "wide" [1, 256] = .error ⟨"rem", .remByZero .srem⟩ := by decide
    exact hzero.mp ⟨_, hcall, rfl⟩

end Ir
end FeltLowering
