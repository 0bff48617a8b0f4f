import FeltLowering.Cli.Evaluate
import FeltLowering.Proofs.Cli.Console
import FeltLowering.Proofs.Decimal
import FeltLowering.Proofs.Ir.TwosComplement

/-
Results as signed and as unsigned numbers.

The signed reading of a value is the one integer of the signed range that is congruent to it
(`toSigned_unique`).  A function meets its arguments only where they are wrapped to the widths
of its parameters, so congruent arguments are the same to it (`Module.call_of_congruent`), and a
result that was printed either way can be an argument either way.
-/
namespace FeltLowering
namespace Ir

/-! ## The signed reading -/

/-- The integers of `w` bits in two's complement. -/
def InSignedRange (w : Nat) (s : Int) : Prop :=
  -(twoPow (w - 1) : Int) ≤ s ∧ s < twoPow (w - 1)

theorem wrap_toSigned (w : Nat) (v : Int) : wrap w (toSigned w v) = wrap w v := by
  unfold toSigned
  split
  · rfl
  · exact Int.sub_emod_right v (twoPow w)

section Reading

variable {w : Nat} {v s : Int}

theorem toSigned_eq_bmod (hw : 0 < w) (h0 : 0 ≤ v) (h1 : v < twoPow w) :
    toSigned w v = v.bmod (twoPow w) := by
  rw [← toSigned_wrap hw v, wrap_of_range h0 h1]

theorem bmod_inSignedRange (hw : 0 < w) (v : Int) : InSignedRange w (v.bmod (twoPow w)) := by
  obtain ⟨k, rfl⟩ : ∃ k, w = k + 1 := ⟨w - 1, by omega⟩
  have hs := twoPow_succ k
  have hpos := twoPow_pos (k + 1)
  have hlo := Int.le_bmod (x := v) hpos
  have hhi := Int.bmod_lt (x := v) hpos
  rw [InSignedRange, Nat.add_sub_cancel]
  omega

theorem bmod_of_inSignedRange (hw : 0 < w) (h : InSignedRange w s) : s.bmod (twoPow w) = s := by
  obtain ⟨k, rfl⟩ : ∃ k, w = k + 1 := ⟨w - 1, by omega⟩
  rw [InSignedRange, Nat.add_sub_cancel] at h
  exact bmod_twoPow_of_range h.1 h.2

/-- Of the integers that are congruent to a value, the signed reading is the one in the signed
range. -/
theorem toSigned_unique (hw : 0 < w) (h0 : 0 ≤ v) (h1 : v < twoPow w) (s : Int) :
    InSignedRange w s ∧ s % twoPow w = v % twoPow w ↔ s = toSigned w v := by
  constructor
  · rintro ⟨hrange, hcongr⟩
    calc s = s.bmod (twoPow w) := (bmod_of_inSignedRange hw hrange).symm
      _ = (s % twoPow w).bmod (twoPow w) := (Int.emod_bmod s _).symm
      _ = (v % twoPow w).bmod (twoPow w) := congrArg (Int.bmod · (twoPow w)) hcongr
      _ = v.bmod (twoPow w) := Int.emod_bmod v _
      _ = toSigned w v := (toSigned_eq_bmod hw h0 h1).symm
  · rintro rfl
    refine ⟨?_, wrap_toSigned w v⟩
    rw [toSigned_eq_bmod hw h0 h1]
    exact bmod_inSignedRange hw v

end Reading

/-! ## Congruent arguments -/

/-- Argument lists that agree modulo the widths of the parameters. -/
structure Function.Congruent (f : Function) (args args' : List Int) : Prop where
  length : args.length = args'.length
  entries : ∀ (i w : Nat) (p : Param) (a a' : Int), f.params[i]? = some p → p.ty = .int w →
    args[i]? = some a → args'[i]? = some a' → a % twoPow w = a' % twoPow w

namespace Function

theorem bindParams_of_congruent (f : Function) {ps : List Param} {args args' : List Int}
    (hlen : args.length = args'.length)
    (h : ∀ (i w : Nat) (p : Param) (a a' : Int), ps[i]? = some p → p.ty = .int w →
      args[i]? = some a → args'[i]? = some a' → a % twoPow w = a' % twoPow w) (index : Nat) :
    f.bindParams index ps args = f.bindParams index ps args' := by
  induction ps generalizing args args' index with
  | nil => rfl
  | cons p ps ih =>
    cases args with
    | nil => rw [List.length_eq_zero_iff.mp hlen.symm]
    | cons a as =>
      obtain ⟨a', as', rfl⟩ := List.exists_cons_of_length_eq_add_one hlen.symm
      have hrest := ih (Nat.succ.inj hlen)
        (fun i w q b b' hq hw hb hb' => h (i + 1) w q b b' hq hw hb hb') (index + 1)
      unfold bindParams
      cases hty : p.ty with
      | int w =>
        have hwrap : wrap w a = wrap w a' := h 0 w p a a' rfl hty rfl rfl
        dsimp only
        rw [hwrap, hrest]
      | other t => rfl

variable {f : Function} {args args' : List Int}

theorem activate_of_congruent (h : f.Congruent args args')
    (invoke : Nat → List Int → Option (Except EvalError Int)) :
    f.activate invoke args = f.activate invoke args' := by
  unfold activate
  rw [h.length, f.bindParams_of_congruent h.length h.entries]

end Function

namespace Module

theorem eval_of_congruent (m : Module) (depth : Nat) {f : Function} {args args' : List Int}
    (h : f.Congruent args args') : m.eval depth f args = m.eval depth f args' := by
  cases depth with
  | zero => rfl
  | succ depth => exact Function.activate_of_congruent h _

theorem call_of_congruent (m : Module) {name : Text} {args args' : List Int}
    (h : ∀ f, m.find? name = some f → f.Congruent args args') :
    m.call name args = m.call name args' := by
  unfold call
  cases hf : m.find? name with
  | none => rfl
  | some f => exact m.eval_of_congruent maxDepth (h f hf)

end Module
end Ir

namespace Cli

/-! ## Printed results -/

/-- Numbers are read one by one, so what stands around one does not depend on it. -/
theorem readNumbers_around {t t' : Text} {n n' : Int} (ht : Decimal.Denotes t n)
    (ht' : Decimal.Denotes t' n') (before after : List Text) (index : Nat) :
    (∃ e, readNumbers index (before ++ t :: after) = .error e ∧
      readNumbers index (before ++ t' :: after) = .error e) ∨
    ∃ xs ys, xs.length = before.length ∧
      readNumbers index (before ++ t :: after) = .ok (xs ++ n :: ys) ∧
      readNumbers index (before ++ t' :: after) = .ok (xs ++ n' :: ys) := by
  induction before generalizing index with
  | nil =>
    have hread := Decimal.parse?_eq_some_iff.mpr ht
    have hread' := Decimal.parse?_eq_some_iff.mpr ht'
    rw [List.nil_append, List.nil_append, readNumbers, readNumbers, hread, hread']
    cases hafter : readNumbers (index + 1) after with
    | error e => exact .inl ⟨e, rfl, rfl⟩
    | ok ys => exact .inr ⟨[], ys, rfl, rfl, rfl⟩
  | cons b before ih =>
    rw [List.cons_append, List.cons_append, readNumbers, readNumbers]
    cases Decimal.parse? b with
    | none => exact .inl ⟨_, rfl, rfl⟩
    | some x =>
      rcases ih (index + 1) with ⟨e, he, he'⟩ | ⟨xs, ys, hlen, hxs, hxs'⟩
      · exact .inl ⟨e, by rw [he]; rfl, by rw [he']; rfl⟩
      · exact .inr ⟨x :: xs, ys, congrArg Nat.succ hlen, by rw [hxs]; rfl, by rw [hxs']; rfl⟩

namespace Evaluate

/-- The input can be read and lowered on a console. -/
def Lowers (c : Console) (input : Text) (compiler : Lowering.Compiler) : Prop :=
  ∃ p, Codec.decodeFile c.host.files c.host.cwd input = .ok p ∧
    (Lowering.lowerProgram {} c.journal p { sourceFile := input }).2 = .ok compiler

/-- Evaluating a function on a console prints a line. -/
def Prints (c : Console) (signed : Bool) (input name : Text) (args : List Text) (t : Text) : Prop :=
  ∃ c', (evaluate signed input name args).on c = (.ok (), c') ∧ c'.stdout = c.stdout ++ t ++ "\n"

def load (input : Text) : Action Lowering.Compiler := do
  let c ← get
  let p ← Action.require Failure.program (Codec.decodeFile c.host.files c.host.cwd input)
  let lowered := Lowering.lowerProgram {} c.journal p { sourceFile := input }
  modify fun c => c.adopt lowered.1
  Action.require Failure.lowering lowered.2

def conclude (signed : Bool) (input name : Text) (values : List Int)
    (compiler : Lowering.Compiler) : Action Unit := do
  let f ← Action.require (fun _ => .noFunction input name)
    ((compiler.func? name).elim (.error ()) .ok)
  let v ← Action.require Failure.evaluation (compiler.module.call name values)
  let v ← Action.require id (shown signed name f v)
  Action.print (Text.ofInt v ++ "\n")

theorem evaluate_eq (signed : Bool) (input name : Text) (args : List Text) :
    evaluate signed input name args =
      Action.require id (readNumbers 0 args) >>= fun values =>
        load input >>= conclude signed input name values := by
  unfold evaluate load conclude
  simp only [bind_assoc]
  refine bind_congr fun values => bind_congr fun c => bind_congr fun p => bind_congr fun _ =>
    bind_congr fun compiler => ?_
  cases compiler.func? name with
  | none => rfl
  | some f => rfl

theorem stdout_adopt (c : Console) (j : Trace.Journal) : (c.adopt j).stdout = c.stdout := by
  unfold Console.adopt Console.drain
  dsimp only
  split
  · rfl
  · unfold Console.append
    split
    · rfl
    · split <;> rfl

theorem on_load {c : Console} {input : Text} {p : Program}
    (hp : Codec.decodeFile c.host.files c.host.cwd input = .ok p) :
    (load input).on c =
      (Action.require Failure.lowering
        (Lowering.lowerProgram {} c.journal p { sourceFile := input }).2).on
        (c.adopt (Lowering.lowerProgram {} c.journal p { sourceFile := input }).1) := by
  unfold load
  rw [Action.on_bind_ok (Action.on_get c), hp, Action.on_bind_ok (Action.on_require_ok _ p c)]
  rfl

/-- What is loaded has been lowered, and nothing is printed meanwhile. -/
theorem on_load_cases (c : Console) (input : Text) :
    (∃ e c', (load input).on c = (.error e, c')) ∨
      ∃ compiler c', Lowers c input compiler ∧ (load input).on c = (.ok compiler, c') ∧
        c'.stdout = c.stdout := by
  cases hp : Codec.decodeFile c.host.files c.host.cwd input with
  | error e =>
    refine .inl ⟨.program e, c, ?_⟩
    unfold load
    rw [Action.on_bind_ok (Action.on_get c), hp]
    rfl
  | ok p =>
    rw [on_load hp]
    cases hresult : (Lowering.lowerProgram {} c.journal p { sourceFile := input }).2 with
    | error e => exact .inl ⟨_, _, rfl⟩
    | ok compiler => exact .inr ⟨compiler, _, ⟨p, hp, hresult⟩, rfl, stdout_adopt c _⟩

/-- Arguments that every function of the name takes alike give the same evaluation. -/
theorem on_evaluate_congr {c : Console} {input name : Text} {args args' : List Text}
    {values values' : List Int} (hread : readNumbers 0 args = .ok values)
    (hread' : readNumbers 0 args' = .ok values')
    (h : ∀ compiler, Lowers c input compiler →
      compiler.module.call name values = compiler.module.call name values') (signed : Bool) :
    (evaluate signed input name args).on c = (evaluate signed input name args').on c := by
  rw [evaluate_eq, evaluate_eq, hread, hread', Action.on_bind_ok (Action.on_require_ok _ values c),
    Action.on_bind_ok (Action.on_require_ok _ values' c)]
  rcases on_load_cases c input with ⟨e, c', hload⟩ | ⟨compiler, c', hlowers, hload, -⟩
  · rw [Action.on_bind_error hload, Action.on_bind_error hload]
  · rw [Action.on_bind_ok hload, Action.on_bind_ok hload]
    unfold conclude
    rw [h compiler hlowers]

theorem on_conclude_ok {c c' : Console} {signed : Bool} {input name : Text} {values : List Int}
    {compiler : Lowering.Compiler}
    (h : (conclude signed input name values compiler).on c = (.ok (), c')) :
    ∃ f v x, compiler.func? name = some f ∧ compiler.module.call name values = .ok v ∧
      shown signed name f v = .ok x ∧ c' = c.print (Text.ofInt x ++ "\n") := by
  unfold conclude at h
  cases hf : compiler.func? name with
  | none =>
    rw [hf] at h
    cases h
  | some f =>
    rw [hf, Option.elim_some, Action.on_bind_ok (Action.on_require_ok _ f c)] at h
    cases hv : compiler.module.call name values with
    | error e =>
      rw [hv] at h
      cases h
    | ok v =>
      rw [hv, Action.on_bind_ok (Action.on_require_ok _ v c)] at h
      cases hx : shown signed name f v with
      | error e =>
        rw [hx] at h
        cases h
      | ok x =>
        rw [hx, Action.on_bind_ok (Action.on_require_ok _ x c)] at h
        exact ⟨f, v, x, rfl, rfl, hx, (Prod.mk.inj h).2.symm⟩

/-- What is printed is a result as it is shown. -/
theorem Prints.result {c : Console} {signed : Bool} {input name t : Text} {args : List Text}
    (h : Prints c signed input name args t) :
    ∃ values compiler f v x, readNumbers 0 args = .ok values ∧ Lowers c input compiler ∧
      compiler.func? name = some f ∧ compiler.module.call name values = .ok v ∧
      shown signed name f v = .ok x ∧ t = Text.ofInt x := by
  obtain ⟨c', hon, hstdout⟩ := h
  rw [evaluate_eq] at hon
  cases hread : readNumbers 0 args with
  | error e =>
    rw [hread] at hon
    cases hon
  | ok values =>
    rw [hread, Action.on_bind_ok (Action.on_require_ok _ values c)] at hon
    rcases on_load_cases c input with ⟨e, c₁, hload⟩ | ⟨compiler, c₁, hlowers, hload, hquiet⟩
    · rw [Action.on_bind_error hload] at hon
      cases hon
    · rw [Action.on_bind_ok hload] at hon
      obtain ⟨f, v, x, hf, hv, hx, rfl⟩ := on_conclude_ok hon
      refine ⟨values, compiler, f, v, x, rfl, hlowers, hf, hv, hx, ?_⟩
      rw [Console.print, hquiet, List.append_assoc] at hstdout
      exact (List.append_cancel_right (List.append_cancel_left hstdout)).symm

theorem Lowers.unique {c : Console} {input : Text} {compiler compiler' : Lowering.Compiler}
    (h : Lowers c input compiler) (h' : Lowers c input compiler') : compiler = compiler' := by
  obtain ⟨p, hp, hresult⟩ := h
  obtain ⟨p', hp', hresult'⟩ := h'
  obtain rfl := Except.ok.inj (hp.symm.trans hp')
  exact Except.ok.inj (hresult.symm.trans hresult')

/-- The two ways in which a result is printed: as it is, and read as signed. -/
theorem Prints.both {c : Console} {input name t t' : Text} {args : List Text}
    (h : Prints c false input name args t) (h' : Prints c true input name args t') :
    ∃ compiler f w v, Lowers c input compiler ∧ compiler.func? name = some f ∧
      f.result = .int w ∧ t = Text.ofInt v ∧ t' = Text.ofInt (Ir.toSigned w v) := by
  obtain ⟨values, compiler, f, v, x, hread, hlowers, hf, hv, hx, rfl⟩ := h.result
  obtain ⟨values', compiler', f', v', x', hread', hlowers', hf', hv', hx', rfl⟩ := h'.result
  obtain rfl := Except.ok.inj (hread.symm.trans hread')
  obtain rfl := hlowers.unique hlowers'
  obtain rfl := Option.some.inj (hf.symm.trans hf')
  obtain rfl := Except.ok.inj (hv.symm.trans hv')
  obtain rfl : v = x := Except.ok.inj hx
  cases hw : f.result with
  | int w =>
    simp only [shown, hw, if_true] at hx'
    exact ⟨compiler, f, w, v, hlowers, hf, hw, rfl, congrArg _ (Except.ok.inj hx').symm⟩
  | other ty =>
    simp only [shown, hw, if_true] at hx'
    cases hx'

/-- Arguments that differ in one place, where they are congruent. -/
theorem congruent_around {f : Ir.Function} {xs ys : List Int} {n n' : Int} {w : Nat} {p : Ir.Param}
    (hp : f.params[xs.length]? = some p) (hw : p.ty = .int w) (h : n % twoPow w = n' % twoPow w) :
    f.Congruent (xs ++ n :: ys) (xs ++ n' :: ys) := by
  refine ⟨by rw [List.length_append, List.length_append]; rfl, fun i w' q a a' hq hw' ha ha' => ?_⟩
  by_cases hi : i = xs.length
  · subst hi
    obtain rfl := Option.some.inj (hq.symm.trans hp)
    obtain rfl := Ir.Ty.int.inj (hw'.symm.trans hw)
    rw [List.getElem?_append_right (Nat.le_refl _), Nat.sub_self] at ha ha'
    rw [← Option.some.inj ha, ← Option.some.inj ha']
    exact h
  · have hsame : (xs ++ n :: ys)[i]? = (xs ++ n' :: ys)[i]? := by grind
    rw [hsame, ha'] at ha
    rw [Option.some.inj ha]

/-- A number in place of a congruent one gives the same evaluation. -/
theorem on_evaluate_around {c : Console} {input name t t' : Text} {n n' : Int} {w : Nat}
    (ht : Decimal.Denotes t n) (ht' : Decimal.Denotes t' n') (h : n % twoPow w = n' % twoPow w)
    {before : List Text}
    (hwidth : ∀ compiler g, Lowers c input compiler → compiler.module.find? name = some g →
      ∃ p, g.params[before.length]? = some p ∧ p.ty = .int w) (after : List Text) (signed : Bool) :
    (evaluate signed input name (before ++ t :: after)).on c =
      (evaluate signed input name (before ++ t' :: after)).on c := by
  rcases readNumbers_around ht ht' before after 0 with
    ⟨e, hread, hread'⟩ | ⟨xs, ys, hlen, hread, hread'⟩
  · rw [evaluate_eq, evaluate_eq, hread, hread']
  · refine on_evaluate_congr hread hread' (fun compiler hlowers => ?_) signed
    refine compiler.module.call_of_congruent fun g hg => ?_
    obtain ⟨p, hp, hw⟩ := hwidth compiler g hlowers hg
    exact congruent_around (hlen ▸ hp) hw h

/-- The signed reading of a value of up to `2 ^ 63` bits is the one integer of the signed range
that is congruent to it, and wrapping gives the value back; wider values have none.  Argument
lists that are congruent modulo the widths of the parameters give the same outcome of every
call.  So a result can be an argument as it was printed, signed or not, wherever the parameter
has the width of the result. -/
theorem readings_interchange (w : Nat) (v : Int) (m : Ir.Module) (g : Text) (xs xs' : List Int)
    (c : Console) (input name : Text) (args : List Text) (t t' : Text) :
    (0 < w → 0 ≤ v → v < twoPow w →
      (w ≤ twoPow 63 → ∃ s, Ir.signed? w v = some s ∧ Ir.wrap w s = v ∧
        ∀ s', Ir.InSignedRange w s' ∧ s' % twoPow w = v % twoPow w ↔ s' = s) ∧
      (twoPow 63 < w → Ir.signed? w v = none)) ∧
    ((∀ f, m.find? g = some f → f.Congruent xs xs') → m.call g xs = m.call g xs') ∧
    (Prints c false input name args t → Prints c true input name args t' →
      ∃ compiler f k, Lowers c input compiler ∧ compiler.func? name = some f ∧ f.result = .int k ∧
        ∀ (c' : Console) (signed : Bool) (input' name' : Text) (before after : List Text),
          (∀ compiler' f', Lowers c' input' compiler' → compiler'.module.find? name' = some f' →
            ∃ p, f'.params[before.length]? = some p ∧ p.ty = .int k) →
          (evaluate signed input' name' (before ++ t :: after)).on c' =
            (evaluate signed input' name' (before ++ t' :: after)).on c') := by
  refine ⟨fun hw h0 h1 => ⟨fun hle => ?_, fun hlt => ?_⟩, fun h => m.call_of_congruent h,
    fun h h' => ?_⟩
  · refine ⟨Ir.toSigned w v, if_pos hle, ?_, Ir.toSigned_unique hw h0 h1⟩
    rw [Ir.wrap_toSigned, Ir.wrap_of_range h0 h1]
  · exact if_neg (Nat.not_le.mpr hlt)
  · obtain ⟨compiler, f, k, x, hlowers, hf, hk, rfl, rfl⟩ := h.both h'
    refine ⟨compiler, f, k, hlowers, hf, hk, fun c' signed input' name' before after hwidth => ?_⟩
    exact on_evaluate_around (Text.denotes_ofInt x) (Text.denotes_ofInt _)
      (Ir.wrap_toSigned k x).symm hwidth after signed

/-- One bit more than the position of a bit can count: a small value has no reading. -/
theorem no_reading_beyond_words :
    (0 : Int) ≤ 5 ∧ (5 : Int) < twoPow (twoPow 63 + 1) ∧ Ir.signed? (twoPow 63 + 1) 5 = none := by
  have hwide : 3 ≤ twoPow 63 + 1 := by decide
  have hlt : 8 ≤ twoPow (twoPow 63 + 1) := twoPow_le hwide
  refine ⟨by omega, by omega, if_neg (by omega)⟩

def additionProgram : Program where
  types := some [⟨⟨0, "u8"⟩, "u8", none⟩]
  libfuncs := some [⟨⟨0, "sum"⟩, "u8_wrapping_add", none⟩]

def additionFile : Console where
  host := { files := ⟨[("/sum.msgpack", .file (Msgpack.encodeProgram additionProgram))]⟩ }

theorem addition_prints (signed : Bool) :
    Prints additionFile signed "/sum.msgpack" "sum" ["100", "100"]
      (if signed then "-56" else "200") := by
  refine ⟨((evaluate signed "/sum.msgpack" "sum" ["100", "100"]).on additionFile).2, ?_, ?_⟩
  · refine Prod.ext ?_ rfl
    cases signed <;> decide +kernel
  · cases signed <;> decide +kernel

theorem addition_widths {compiler : Lowering.Compiler}
    (h : Lowers additionFile "/sum.msgpack" compiler) :
    (compiler.func? "sum").map Ir.Function.result = some (.int 8) ∧
      (compiler.module.find? "sum").map (fun g => g.params.map Ir.Param.ty) =
        some [.int 8, .int 8] := by
  obtain ⟨p, hp, hresult⟩ := h
  have hdecode : Codec.decodeFile additionFile.host.files additionFile.host.cwd "/sum.msgpack" =
      .ok additionProgram := by decide +kernel
  obtain rfl := Except.ok.inj (hdecode.symm.trans hp)
  have hwidths : (Lowering.lowerProgram {} additionFile.journal additionProgram
      { sourceFile := "/sum.msgpack" }).2.toOption.map (fun compiler =>
        ((compiler.func? "sum").map Ir.Function.result,
          (compiler.module.find? "sum").map fun g => g.params.map Ir.Param.ty)) =
      some (some (.int 8), some [.int 8, .int 8]) := by decide +kernel
  rw [hresult] at hwidths
  exact Prod.mk.inj (Option.some.inj hwidths)

theorem addition_readings :
    (∃ s, Ir.signed? 8 200 = some s ∧ Ir.wrap 8 s = 200 ∧ s = -56) ∧
    (∃ compiler, Lowers additionFile "/sum.msgpack" compiler ∧
      compiler.module.call "sum" [7, 200] = compiler.module.call "sum" [7, -56]) ∧
    Prints additionFile false "/sum.msgpack" "sum" ["100", "100"] "200" ∧
    Prints additionFile true "/sum.msgpack" "sum" ["100", "100"] "-56" ∧
    (evaluate true "/sum.msgpack" "sum" ["7", "200"]).on additionFile =
      (evaluate true "/sum.msgpack" "sum" ["7", "-56"]).on additionFile := by
  have hsecond : ∀ compiler f, Lowers additionFile "/sum.msgpack" compiler →
      compiler.module.find? "sum" = some f → ∃ p, f.params[1]? = some p ∧ p.ty = .int 8 := by
    intro compiler f hlowers hf
    have hparams := (addition_widths hlowers).2
    rw [hf] at hparams
    have hty := congrArg (fun tys : List Ir.Ty => tys[1]?) (Option.some.inj hparams)
    rw [List.getElem?_map] at hty
    exact Option.map_eq_some_iff.mp hty
  obtain ⟨-, compiler, -, -, -, -, hlowers, -⟩ := (addition_prints false).result
  obtain ⟨hreading, hcall, hprinted⟩ := readings_interchange 8 200 compiler.module "sum" [7, 200]
    [7, -56] additionFile "/sum.msgpack" "sum" ["100", "100"] "200" "-56"
  obtain ⟨s, hs, hwrap, hunique⟩ := (hreading (by decide) (by decide) (by decide)).1 (by decide)
  obtain ⟨compiler', f, k, hlowers', hf, hk, hfeed⟩ :=
    hprinted (addition_prints false) (addition_prints true)
  have hresult := (addition_widths hlowers').1
  rw [hf, Option.map_some, hk] at hresult
  obtain rfl : k = 8 := Ir.Ty.int.inj (Option.some.inj hresult)
  refine ⟨⟨s, hs, hwrap, ?_⟩, ⟨compiler, hlowers, hcall fun f' hf' => ?_⟩, addition_prints false,
    addition_prints true, hfeed additionFile true "/sum.msgpack" "sum" ["7"] [] hsecond⟩
  · exact ((hunique (-56)).mp ⟨⟨by decide, by decide⟩, by decide⟩).symm
  · obtain ⟨p, hp, hty⟩ := hsecond compiler f' hlowers hf'
    have hcongr : f'.Congruent ([7] ++ [200]) ([7] ++ [-56]) := congruent_around hp hty (by decide)
    exact hcongr

end Evaluate
end Cli
end FeltLowering
