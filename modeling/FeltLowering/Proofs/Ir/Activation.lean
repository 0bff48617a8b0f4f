import FeltLowering.Ir.Eval

/-
Where a failure comes from.

An activation runs its instructions in order and stops at the first one that fails.  Two
faults are never found in a function as such: a division by zero is made by a remainder,
and only calls can nest too deep.  A report of one of them belongs to an instruction that
the activation arrives at (`activate_eq_error_iff`), and `eval_succ_eq_error_iff` follows
it through the calls.

The code may be anything at all: operands may lack a value or have other widths than their
instruction, and functions may call themselves.
-/
namespace FeltLowering
namespace Ir

/-- Whether only instructions make the fault. -/
def EvalFault.raised : EvalFault → Bool
  | .remByZero _ => true
  | .depth => true
  | _ => false

def Quiet {α : Type} (r : Except EvalError α) : Prop := ∀ e, r = .error e → ¬ e.fault.raised

namespace Quiet

variable {α β : Type}

theorem ok (a : α) : Quiet (.ok a) := fun _ h => nomatch h

theorem fail (f : Function) (fault : EvalFault) (h : fault.raised = false) :
    Quiet (f.fail fault : Except EvalError α) := by
  intro e he
  cases he
  exact Bool.eq_false_iff.mp h

theorem bind {r : Except EvalError α} {k : α → Except EvalError β} (hr : Quiet r)
    (hk : ∀ a, Quiet (k a)) : Quiet (r >>= k) := by
  cases r with
  | error e =>
    intro e' he'
    cases he'
    exact hr e rfl
  | ok a => exact hk a

/-- A fault behind a quiet step is made by what follows it. -/
theorem bind_eq_error_iff {r : Except EvalError α} {k : α → Except EvalError β} {e : EvalError}
    (hr : Quiet r) (he : e.fault.raised) :
    r >>= k = .error e ↔ ∃ a, r = .ok a ∧ k a = .error e := by
  cases r with
  | error e' =>
    constructor
    · intro h
      cases h
      exact absurd he (hr e rfl)
    · rintro ⟨a, ha, -⟩
      cases ha
  | ok a =>
    constructor
    · exact fun h => ⟨a, rfl, h⟩
    · rintro ⟨a', ha', h⟩
      cases ha'
      exact h

end Quiet

namespace Function

section Quiet

variable (f : Function)

theorem quiet_widthOf (ty : Ty) : Quiet (f.widthOf ty) := by
  cases ty with
  | int w => exact .ok w
  | other t => exact .fail f _ rfl

theorem quiet_operandValue (fr : Frame) (x : Operand) : Quiet (f.operandValue fr x) := by
  unfold operandValue
  dsimp only
  split
  · exact .ok _
  · exact .fail f _ rfl

theorem quiet_operandValues (fr : Frame) (args : List (Ty × Operand)) :
    Quiet (args.mapM fun arg => f.operandValue fr arg.2) := by
  induction args with
  | nil => exact .ok []
  | cons arg args ih =>
    rw [List.mapM_cons]
    exact (f.quiet_operandValue fr arg.2).bind fun v => ih.bind fun vs => .ok (v :: vs)

theorem quiet_bindParams (index : Nat) (ps : List Param) (args : List Int) :
    Quiet (f.bindParams index ps args) := by
  induction ps generalizing index args with
  | nil => exact .ok []
  | cons p ps ih =>
    cases args with
    | nil => exact .ok []
    | cons a args =>
      obtain ⟨name, ty⟩ := p
      cases ty with
      | int w => exact (ih (index + 1) args).bind fun vs => .ok (wrap w a :: vs)
      | other t => exact .fail f _ rfl

theorem quiet_returnValue (fr : Frame) (b : Block) : Quiet (f.returnValue fr b) := by
  unfold returnValue
  split
  · exact f.quiet_operandValue fr _
  · exact .fail f _ rfl
  · exact .fail f _ rfl

end Quiet

/-! ## Instructions -/

/-- The instruction is a remainder whose divisor is zero. -/
def DividesByZero (f : Function) (fr : Frame) (op : BinaryOp) : Inst → Prop
  | .binary _ op' (.int _) x y =>
    op' = op ∧ (op = .urem ∨ op = .srem) ∧ (∃ a, f.operandValue fr x = .ok a) ∧
      f.operandValue fr y = .ok 0
  | _ => False

variable {invoke : Nat → List Int → Option (Except EvalError Int)} {f : Function} {fr : Frame}
  {args : List Int} {e : EvalError}

theorem binaryValue_eq_error_iff {op : BinaryOp} {w : Nat} {a b : Int} :
    f.binaryValue op w a b = .error e ↔
      (op = .urem ∨ op = .srem) ∧ b = 0 ∧ e = ⟨f.displayName, .remByZero op⟩ := by
  cases op with
  | add => simp [binaryValue]
  | sub => simp [binaryValue]
  | mul => simp [binaryValue]
  | urem => by_cases hb : b = 0 <;> simp [binaryValue, fail, hb, eq_comm]
  | srem => by_cases hb : b = 0 <;> simp [binaryValue, fail, hb, eq_comm]

theorem instValue_binary_eq_error_iff (he : e.fault.raised) {name : Text} {op : BinaryOp} {w : Nat}
    {x y : Operand} :
    f.instValue invoke fr (.binary name op (.int w) x y) = .error e ↔
      f.DividesByZero fr op (.binary name op (.int w) x y) ∧
        e = ⟨f.displayName, .remByZero op⟩ := by
  have hwrap (a b : Int) : (do return wrap w (← f.binaryValue op w a b)) = .error e ↔
      f.binaryValue op w a b = .error e := by
    cases f.binaryValue op w a b with
    | error e' => exact Iff.rfl
    | ok v => exact ⟨(nomatch ·), (nomatch ·)⟩
  unfold instValue
  rw [(f.quiet_widthOf _).bind_eq_error_iff he]
  constructor
  · rintro ⟨w', hw, h⟩
    cases hw
    obtain ⟨a, ha, h⟩ := ((f.quiet_operandValue fr x).bind_eq_error_iff he).mp h
    obtain ⟨b, hb, h⟩ := ((f.quiet_operandValue fr y).bind_eq_error_iff he).mp h
    obtain ⟨hrem, rfl, rfl⟩ := binaryValue_eq_error_iff.mp ((hwrap a b).mp h)
    exact ⟨⟨rfl, hrem, ⟨a, ha⟩, hb⟩, rfl⟩
  · rintro ⟨⟨-, hrem, ⟨a, ha⟩, hb⟩, hfault⟩
    refine ⟨w, rfl, ((f.quiet_operandValue fr x).bind_eq_error_iff he).mpr ⟨a, ha, ?_⟩⟩
    refine ((f.quiet_operandValue fr y).bind_eq_error_iff he).mpr ⟨0, hb, ?_⟩
    exact (hwrap a 0).mpr (binaryValue_eq_error_iff.mpr ⟨hrem, rfl, hfault⟩)

theorem instValue_call_eq_error_iff (he : e.fault.raised) {name : Text} {result : Ty}
    {position : Nat} {operands : List (Ty × Operand)} {attachments : List Attachment} :
    f.instValue invoke fr (.call name result (some position) operands attachments) = .error e ↔
      ∃ values, operands.mapM (fun arg => f.operandValue fr arg.2) = .ok values ∧
        invoke position values = some (.error e) := by
  unfold instValue
  dsimp only
  rw [(f.quiet_operandValues fr operands).bind_eq_error_iff he]
  refine exists_congr fun values => and_congr_right fun _ => ?_
  cases invoke position values with
  | none =>
    exact ⟨fun h => absurd he (Quiet.fail f .indirectCall rfl e h), fun h => nomatch h⟩
  | some r => simp

/-- A fault is made by a remainder, or else by what a call comes to. -/
theorem instValue_eq_error_iff (he : e.fault.raised) {i : Inst} :
    f.instValue invoke fr i = .error e ↔
      (∃ op, f.DividesByZero fr op i ∧ e = ⟨f.displayName, .remByZero op⟩) ∨
        ∃ name result position operands attachments values,
          i = .call name result (some position) operands attachments ∧
          operands.mapM (fun arg => f.operandValue fr arg.2) = .ok values ∧
          invoke position values = some (.error e) := by
  constructor
  · intro h
    match i with
    | .binary name op (.int w) x y =>
      exact Or.inl ⟨op, (instValue_binary_eq_error_iff he).mp h⟩
    | .binary name op (.other t) x y =>
      obtain ⟨w, hw, -⟩ := ((f.quiet_widthOf (.other t)).bind_eq_error_iff he).mp h
      cases hw
    | .convert name op source x target =>
      have hquiet : Quiet (f.instValue invoke fr (.convert name op source x target)) :=
        (f.quiet_widthOf source).bind fun _ => (f.quiet_widthOf target).bind fun _ =>
          (f.quiet_operandValue fr x).bind fun _ => .ok _
      exact absurd he (hquiet e h)
    | .call name result none operands attachments =>
      exact absurd he (Quiet.fail f .indirectCall rfl e h)
    | .call name result (some position) operands attachments =>
      obtain ⟨values, hvalues, hcall⟩ := (instValue_call_eq_error_iff he).mp h
      exact Or.inr ⟨name, result, position, operands, attachments, values, rfl, hvalues, hcall⟩
    | .foreign name op ty =>
      exact absurd he (Quiet.fail f (.foreign op) rfl e h)
  · rintro (⟨op, hdiv, hfault⟩ |
      ⟨name, result, position, operands, attachments, values, rfl, hvalues, hcall⟩)
    · match i, hdiv with
      | .binary name op' (.int w) x y, hdiv =>
        obtain rfl : op' = op := hdiv.1
        exact (instValue_binary_eq_error_iff he).mpr ⟨hdiv, hfault⟩
    · exact (instValue_call_eq_error_iff he).mpr ⟨values, hvalues, hcall⟩

/-! ## Activations -/

theorem runInsts_append (before rest : List Inst) :
    f.runInsts invoke fr (before ++ rest) =
      f.runInsts invoke fr before >>= fun fr' => f.runInsts invoke fr' rest := by
  induction before generalizing fr with
  | nil => rfl
  | cons i before ih =>
    rw [List.cons_append, runInsts, runInsts]
    cases f.instValue invoke fr i with
    | error e => rfl
    | ok v => exact ih

theorem runInsts_eq_error {insts : List Inst} (h : f.runInsts invoke fr insts = .error e) :
    ∃ before i after fr', insts = before ++ i :: after ∧
      f.runInsts invoke fr before = .ok fr' ∧ f.instValue invoke fr' i = .error e := by
  induction insts generalizing fr with
  | nil => cases h
  | cons i rest ih =>
    rw [runInsts] at h
    cases hi : f.instValue invoke fr i with
    | error e' =>
      rw [hi] at h
      cases h
      exact ⟨[], i, rest, fr, rfl, rfl, hi⟩
    | ok v =>
      rw [hi] at h
      obtain ⟨before, j, after, fr', rfl, hbefore, hj⟩ := ih h
      refine ⟨i :: before, j, after, fr', rfl, ?_, hj⟩
      rw [runInsts, hi]
      exact hbefore

/-- The activation arrives at an instruction: the ones before it have their values. -/
def Arrives (invoke : Nat → List Int → Option (Except EvalError Int)) (f : Function)
    (args : List Int) (fr : Frame) (i : Inst) : Prop :=
  args.length = f.params.length ∧ ∃ b before after params, f.blocks = [b] ∧
    b.insts = before ++ i :: after ∧ f.bindParams 0 f.params args = .ok params ∧
    f.runInsts invoke ⟨params, []⟩ before = .ok fr

theorem activate_eq {b : Block} (hlen : args.length = f.params.length) (hb : f.blocks = [b]) :
    f.activate invoke args =
      f.bindParams 0 f.params args >>= fun params =>
        f.runInsts invoke ⟨params, []⟩ b.insts >>= fun fr => f.returnValue fr b := by
  unfold activate
  rw [if_neg (not_not_intro hlen), hb]

theorem Arrives.activate_eq_error {i : Inst} (h : f.Arrives invoke args fr i)
    (hi : f.instValue invoke fr i = .error e) : f.activate invoke args = .error e := by
  obtain ⟨hlen, b, before, after, params, hb, hinsts, hparams, hbefore⟩ := h
  have hrun : f.runInsts invoke ⟨params, []⟩ b.insts = .error e := by
    rw [hinsts, runInsts_append, hbefore]
    show f.runInsts invoke fr (i :: after) = .error e
    rw [runInsts, hi]
    rfl
  rw [activate_eq hlen hb, hparams]
  show (f.runInsts invoke ⟨params, []⟩ b.insts >>= fun fr => f.returnValue fr b) = _
  rw [hrun]
  rfl

theorem activate_eq_error_iff (he : e.fault.raised) :
    f.activate invoke args = .error e ↔
      ∃ fr i, f.Arrives invoke args fr i ∧ f.instValue invoke fr i = .error e := by
  refine ⟨fun h => ?_, fun ⟨fr, i, harrives, hi⟩ => harrives.activate_eq_error hi⟩
  by_cases hlen : args.length = f.params.length
  · match hb : f.blocks with
    | [b] =>
      rw [activate_eq hlen hb] at h
      obtain ⟨params, hparams, h⟩ := ((f.quiet_bindParams 0 _ _).bind_eq_error_iff he).mp h
      cases hrun : f.runInsts invoke ⟨params, []⟩ b.insts with
      | ok fr =>
        rw [hrun] at h
        exact absurd he (f.quiet_returnValue fr b e h)
      | error e' =>
        rw [hrun] at h
        cases h
        obtain ⟨before, i, after, fr, hinsts, hbefore, hi⟩ := runInsts_eq_error hrun
        exact ⟨fr, i, ⟨hlen, b, before, after, params, hb, hinsts, hparams, hbefore⟩, hi⟩
    | [] =>
      rw [activate, if_neg (not_not_intro hlen), hb] at h
      exact absurd he (Quiet.fail f .noBody rfl e h)
    | b :: b' :: rest =>
      rw [activate, if_neg (not_not_intro hlen), hb] at h
      exact absurd he (Quiet.fail f (.blocks _) rfl e h)
  · rw [activate, if_pos hlen] at h
    exact absurd he (Quiet.fail f (.arity _ _) rfl e h)

end Function

/-! ## Calls -/

namespace Module

/-- What calls come to with `depth` nested activations left. -/
def answer (m : Module) (depth : Nat) : Nat → List Int → Option (Except EvalError Int) :=
  fun position values => m.functions[position]?.map fun g => m.eval depth g values

theorem eval_succ (m : Module) (depth : Nat) (f : Function) (args : List Int) :
    m.eval (depth + 1) f args = f.activate (m.answer depth) args := rfl

/-- The activation of `f` arrives at a call of `g`. -/
def Enters (m : Module) (depth : Nat) (f : Function) (args : List Int) (g : Function)
    (values : List Int) : Prop :=
  ∃ fr name result position operands attachments,
    f.Arrives (m.answer depth) args fr (.call name result (some position) operands attachments) ∧
      operands.mapM (fun arg => f.operandValue fr arg.2) = .ok values ∧
      m.functions[position]? = some g

variable {m : Module} {depth : Nat} {f : Function} {args : List Int} {e : EvalError}

/-- A fault is made by a remainder of the function itself, or by a function it calls. -/
theorem eval_succ_eq_error_iff (he : e.fault.raised) :
    m.eval (depth + 1) f args = .error e ↔
      (∃ fr i op, f.Arrives (m.answer depth) args fr i ∧ f.DividesByZero fr op i ∧
          e = ⟨f.displayName, .remByZero op⟩) ∨
        ∃ g values, m.Enters depth f args g values ∧ m.eval depth g values = .error e := by
  rw [eval_succ, Function.activate_eq_error_iff he]
  constructor
  · rintro ⟨fr, i, harrives, hi⟩
    rcases (Function.instValue_eq_error_iff he).mp hi with ⟨op, hdiv, hfault⟩ |
      ⟨name, result, position, operands, attachments, values, rfl, hvalues, hcall⟩
    · exact Or.inl ⟨fr, i, op, harrives, hdiv, hfault⟩
    · obtain ⟨g, hg, hcall⟩ := Option.map_eq_some_iff.mp hcall
      exact Or.inr ⟨g, values, ⟨fr, name, result, position, operands, attachments, harrives,
        hvalues, hg⟩, hcall⟩
  · rintro (⟨fr, i, op, harrives, hdiv, hfault⟩ |
      ⟨g, values, ⟨fr, name, result, position, operands, attachments, harrives, hvalues, hg⟩, hcall⟩)
    · exact ⟨fr, i, harrives, (Function.instValue_eq_error_iff he).mpr (Or.inl ⟨op, hdiv, hfault⟩)⟩
    · refine ⟨fr, _, harrives, (Function.instValue_eq_error_iff he).mpr (Or.inr ?_)⟩
      exact ⟨name, result, position, operands, attachments, values, rfl, hvalues,
        Option.map_eq_some_iff.mpr ⟨g, hg, hcall⟩⟩

end Module
end Ir
end FeltLowering
