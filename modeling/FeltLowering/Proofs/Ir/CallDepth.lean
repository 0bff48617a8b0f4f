import FeltLowering.Proofs.Ir.Activation
import Mathlib.Data.List.Chain

/-
The bound on nested calls.

A call is evaluated with one nested activation less than its caller has.  An evaluation
that does not run out of them comes to the same with any larger number (`eval_kept`).

Activations that wait for one another form a stack, in which each has arrived at the call
that the next one evaluates.  That is a matter of the code and its arguments and not of any
bound, and a bound of `n` is hit exactly if there is a stack of `n + 1`
(`eval_hitsBound_iff`).  Without the arguments a stack is a path in the call graph.
-/
namespace FeltLowering
namespace Ir

/-- The bound on nested calls is hit. -/
def HitsBound {α : Type} (r : Except EvalError α) : Prop := ∃ e, r = .error e ∧ e.fault = .depth

/-- The second outcome is the first one, unless that hits the bound. -/
def KeptBy {α : Type} (r r' : Except EvalError α) : Prop := HitsBound r ∨ r' = r

namespace KeptBy

variable {α β : Type}

theorem same (r : Except EvalError α) : KeptBy r r := Or.inr rfl

theorem bind {r r' : Except EvalError α} {k k' : α → Except EvalError β} (h : KeptBy r r')
    (hk : ∀ a, KeptBy (k a) (k' a)) : KeptBy (r >>= k) (r' >>= k') := by
  rcases h with ⟨e, rfl, he⟩ | rfl
  · exact Or.inl ⟨e, rfl, he⟩
  · cases r' with
    | error e => exact Or.inr (rfl)
    | ok a => exact hk a

end KeptBy

/-! ## More activations -/

section Kept

variable {m : Module} {n n' : Nat} {f : Function}

theorem Function.instValue_kept
    (h : ∀ g values, KeptBy (m.eval n g values) (m.eval n' g values)) (fr : Frame) (i : Inst) :
    KeptBy (f.instValue (m.answer n) fr i) (f.instValue (m.answer n') fr i) := by
  cases i with
  | call name result callee operands attachments =>
    cases callee with
    | none => exact .same _
    | some position =>
      refine KeptBy.bind (.same _) fun values => ?_
      unfold Module.answer
      cases m.functions[position]? with
      | none => exact .same _
      | some g => exact h g values
  | binary => exact .same _
  | convert => exact .same _
  | foreign => exact .same _

theorem Function.runInsts_kept
    (h : ∀ g values, KeptBy (m.eval n g values) (m.eval n' g values)) (fr : Frame)
    (insts : List Inst) :
    KeptBy (f.runInsts (m.answer n) fr insts) (f.runInsts (m.answer n') fr insts) := by
  induction insts generalizing fr with
  | nil => exact .same _
  | cons i rest ih => exact (f.instValue_kept h fr i).bind fun v => ih _

theorem Function.activate_kept
    (h : ∀ g values, KeptBy (m.eval n g values) (m.eval n' g values)) (args : List Int) :
    KeptBy (f.activate (m.answer n) args) (f.activate (m.answer n') args) := by
  unfold activate
  split
  · exact .same _
  · split
    · exact .same _
    · exact KeptBy.bind (.same _) fun params =>
        (f.runInsts_kept h _ _).bind fun fr => .same _
    · exact .same _

/-- An outcome other than a hit of the bound is that of every larger bound. -/
theorem Module.eval_kept (hle : n ≤ n') (f : Function) (args : List Int) :
    KeptBy (m.eval n f args) (m.eval n' f args) := by
  induction n generalizing n' f args with
  | zero => exact Or.inl ⟨_, rfl, rfl⟩
  | succ n ih =>
    obtain ⟨k, rfl⟩ : ∃ k, n' = k + 1 := ⟨n' - 1, by omega⟩
    exact f.activate_kept (fun g values => ih (by omega) g values) args

end Kept

/-! ## Stacks -/

structure Activation where
  func : Function
  args : List Int

namespace Module

/-- The first activation arrives at a call that the second one evaluates, if it may take as
many nested activations as it needs. -/
def Calls (m : Module) (a b : Activation) : Prop :=
  ∃ depth, m.Enters depth a.func a.args b.func b.args

/-- Activations nested in one another, the outermost first. -/
def IsStack (m : Module) (a : Activation) (stack : List Activation) : Prop :=
  stack.head? = some a ∧ stack.IsChain m.Calls

variable {m : Module} {n : Nat} {f : Function} {args : List Int}

/-- An instruction that is arrived at under some bound is arrived at under every other one,
unless that is hit before. -/
theorem arrives_or_hitsBound {depth : Nat} {fr : Frame} {i : Inst}
    (h : f.Arrives (m.answer depth) args fr i) (n : Nat) :
    f.Arrives (m.answer n) args fr i ∨ HitsBound (m.eval (n + 1) f args) := by
  obtain ⟨hlen, b, before, after, params, hb, hinsts, hparams, hrun⟩ := h
  rcases Nat.le_total depth n with hle | hle
  · rcases f.runInsts_kept (eval_kept (m := m) hle) ⟨params, []⟩ before with ⟨e, he, -⟩ | heq
    · rw [hrun] at he
      cases he
    · exact Or.inl ⟨hlen, b, before, after, params, hb, hinsts, hparams, heq.trans hrun⟩
  · rcases f.runInsts_kept (eval_kept (m := m) hle) ⟨params, []⟩ before with ⟨e, he, hdepth⟩ | heq
    · -- An instruction before this one fails, and the activation with it.
      obtain ⟨before', j, after', fr', rfl, hbefore, hj⟩ := Function.runInsts_eq_error he
      rw [List.append_assoc] at hinsts
      have harrives : f.Arrives (m.answer n) args fr' j :=
        ⟨hlen, b, before', after' ++ i :: after, params, hb, hinsts, hparams, hbefore⟩
      exact Or.inr ⟨e, harrives.activate_eq_error hj, hdepth⟩
    · exact Or.inl ⟨hlen, b, before, after, params, hb, hinsts, hparams, heq ▸ hrun⟩

/-- Step: the bound is hit if it is hit inside a call. -/
theorem hitsBound_of_calls {a b : Activation} (h : m.Calls a b)
    (hb : HitsBound (m.eval n b.func b.args)) : HitsBound (m.eval (n + 1) a.func a.args) := by
  obtain ⟨depth, fr, name, result, position, operands, attachments, harrives, hvalues, hg⟩ := h
  obtain ⟨e, he, hdepth⟩ := hb
  rcases arrives_or_hitsBound harrives n with harrives | hhits
  · refine ⟨e, (eval_succ_eq_error_iff (by rw [hdepth]; rfl)).mpr (Or.inr ?_), hdepth⟩
    exact ⟨b.func, b.args, ⟨fr, name, result, position, operands, attachments, harrives, hvalues,
      hg⟩, he⟩
  · exact hhits

theorem exists_calls_of_hitsBound (h : HitsBound (m.eval (n + 1) f args)) :
    ∃ b, m.Calls ⟨f, args⟩ b ∧ HitsBound (m.eval n b.func b.args) := by
  obtain ⟨e, he, hdepth⟩ := h
  rcases (eval_succ_eq_error_iff (by rw [hdepth]; rfl)).mp he with ⟨fr, i, op, -, -, rfl⟩ |
    ⟨g, values, henters, hg⟩
  · cases hdepth
  · exact ⟨⟨g, values⟩, ⟨n, henters⟩, e, hg, hdepth⟩

/-- A bound is hit exactly if one more activation than it allows is nested. -/
theorem eval_hitsBound_iff :
    HitsBound (m.eval n f args) ↔ ∃ stack, m.IsStack ⟨f, args⟩ stack ∧ stack.length = n + 1 := by
  induction n generalizing f args with
  | zero =>
    refine ⟨fun _ => ⟨[⟨f, args⟩], ⟨rfl, List.isChain_singleton _⟩, rfl⟩, fun _ => ?_⟩
    exact ⟨_, rfl, rfl⟩
  | succ n ih =>
    constructor
    · intro h
      obtain ⟨b, hcalls, hb⟩ := exists_calls_of_hitsBound h
      obtain ⟨stack, ⟨hhead, hchain⟩, hlen⟩ := ih.mp hb
      obtain ⟨rest, rfl⟩ := List.head?_eq_some_iff.mp hhead
      exact ⟨⟨f, args⟩ :: b :: rest, ⟨rfl, List.isChain_cons_cons.mpr ⟨hcalls, hchain⟩⟩,
        congrArg (· + 1) hlen⟩
    · rintro ⟨stack, ⟨hhead, hchain⟩, hlen⟩
      obtain ⟨rest, rfl⟩ := List.head?_eq_some_iff.mp hhead
      match rest with
      | [] => cases hlen
      | b :: rest =>
        obtain ⟨hcalls, hchain⟩ := List.isChain_cons_cons.mp hchain
        exact hitsBound_of_calls hcalls (ih.mpr ⟨b :: rest, ⟨rfl, hchain⟩, Nat.succ.inj hlen⟩)

/-! ## The call graph -/

/-- The code of `f` has a call of `g`. -/
def HasCall (m : Module) (f g : Function) : Prop :=
  ∃ name result position operands attachments,
    .call name result (some position) operands attachments ∈ f.insts ∧
      m.functions[position]? = some g

/-- A path in the call graph, by the functions on it. -/
def IsPath (m : Module) (f : Function) (path : List Function) : Prop :=
  path.head? = some f ∧ path.IsChain m.HasCall

theorem hasCall_of_calls {a b : Activation} (h : m.Calls a b) : m.HasCall a.func b.func := by
  obtain ⟨depth, fr, name, result, position, operands, attachments, harrives, -, hg⟩ := h
  obtain ⟨-, block, before, after, params, hb, hinsts, -⟩ := harrives
  refine ⟨name, result, position, operands, attachments, ?_, hg⟩
  rw [Function.insts, hb, List.flatMap_singleton, hinsts]
  exact List.mem_append_right before List.mem_cons_self

theorem IsStack.isPath {a : Activation} {stack : List Activation} (h : m.IsStack a stack) :
    m.IsPath a.func (stack.map Activation.func) := by
  refine ⟨?_, List.isChain_map_of_isChain Activation.func (fun _ _ h => hasCall_of_calls h) h.2⟩
  rw [List.head?_map, h.1]
  rfl

end Module

/-- The bound on nested calls only cuts off what nests too deep.  An outcome other than a hit
of the bound is that of every larger bound, the bound is hit exactly if more activations are
nested than it allows, and never if no path of the call graph has that many calls. -/
theorem bound_cuts_only_deep_nesting (m : Module) (f : Function) (args : List Int) :
    (¬ HitsBound (m.eval maxDepth f args) →
      ∀ n, maxDepth ≤ n → m.eval n f args = m.eval maxDepth f args) ∧
    (HitsBound (m.eval maxDepth f args) ↔
      ∃ stack, m.IsStack ⟨f, args⟩ stack ∧ stack.length = maxDepth + 1) ∧
    ((∀ path, m.IsPath f path → path.length - 1 < maxDepth) →
      ¬ HitsBound (m.eval maxDepth f args)) := by
  refine ⟨fun hhits n hle => ?_, Module.eval_hitsBound_iff, fun hpaths hhits => ?_⟩
  · exact (Module.eval_kept hle f args).resolve_left hhits
  · obtain ⟨stack, hstack, hlen⟩ := Module.eval_hitsBound_iff.mp hhits
    have hshort := hpaths _ hstack.isPath
    rw [List.length_map, hlen] at hshort
    omega

/-- Divides by its argument, and passes one less on to the function at a position. -/
def countdown (name : Text) (next : Nat) : Function where
  name
  result := .int 8
  params := [⟨"n", .int 8⟩]
  blocks := [⟨"entry",
    [.binary "q" .urem (.int 8) (.const 8 1) (.param 0),
      .binary "m" .sub (.int 8) (.param 0) (.const 8 1),
      .call "r" (.int 8) (some next) [(.int 8, .inst 1)] []],
    .ret (some (.int 8, .inst 2))⟩]

/-- Two functions that call each other, and a third one that has no calls. -/
def countdowns : Module where
  functions := [countdown "ping" 1, countdown "pong" 0,
    { name := "leaf", result := .int 8, params := [],
      blocks := [⟨"entry", [], .ret (some (.int 8, .const 8 7))⟩] }]

/-- From 3 the countdown ends in a division by zero, whatever the bound, and from 100 it
nests too deep at 64 and no longer at 128. -/
theorem countdowns_bounded :
    countdowns.eval 1000 (countdown "ping" 1) [3] = .error ⟨"pong", .remByZero .urem⟩ ∧
    (∃ stack, countdowns.IsStack ⟨countdown "ping" 1, [100]⟩ stack ∧ stack.length = 65) ∧
    countdowns.eval 128 (countdown "ping" 1) [100] = .error ⟨"ping", .remByZero .urem⟩ ∧
    ∀ leaf ∈ countdowns.functions[2]?, ¬ HitsBound (countdowns.eval maxDepth leaf []) := by
  have hthree : countdowns.eval maxDepth (countdown "ping" 1) [3] =
      .error ⟨"pong", .remByZero .urem⟩ := by decide +kernel
  have hhundred : countdowns.eval maxDepth (countdown "ping" 1) [100] =
      .error ⟨"ping", .depth⟩ := by decide +kernel
  refine ⟨?_, ?_, by decide +kernel, fun leaf hleaf => ?_⟩
  · obtain ⟨hkept, -, -⟩ := bound_cuts_only_deep_nesting countdowns (countdown "ping" 1) [3]
    refine (hkept ?_ 1000 (by decide)).trans hthree
    rintro ⟨e, he, hdepth⟩
    rw [hthree] at he
    cases he
    cases hdepth
  · obtain ⟨-, hiff, -⟩ := bound_cuts_only_deep_nesting countdowns (countdown "ping" 1) [100]
    exact hiff.mp ⟨_, hhundred, rfl⟩
  · cases hleaf
    obtain ⟨-, -, hnever⟩ := bound_cuts_only_deep_nesting countdowns _ []
    refine hnever fun path hpath => ?_
    obtain ⟨rest, rfl⟩ := List.head?_eq_some_iff.mp hpath.1
    match rest, hpath.2 with
    | [], _ => decide
    | g :: rest, hchain =>
      obtain ⟨⟨name, result, position, operands, attachments, hmem, -⟩, -⟩ :=
        List.isChain_cons_cons.mp hchain
      cases hmem

end Ir
end FeltLowering
