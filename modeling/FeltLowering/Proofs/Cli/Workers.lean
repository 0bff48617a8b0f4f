import FeltLowering.Proofs.Cli.Console
import FeltLowering.Proofs.Lowering.Outcome
import FeltLowering.Proofs.Settings

/-
Inputs built side by side.

Each input has a worker of its own, which first decodes and then lowers; all workers share
the console.  An order of turns says which worker goes on next, and building the inputs
one after the other is one such order (`buildAll_eq_buildAllBy`).  What is built for an
input depends on the input only, so every order in which all workers come to their end
gives the same (`gives_buildAllBy`).
-/
namespace FeltLowering
namespace Cli
namespace Build

/-! ## The work on one input -/

/-- What is left to do for an input that has been decoded. -/
def lowerOne (s : Settings) (env : Lowering.Environment) (input : Text) (p : Program) : Action Built := do
  let phase ← beginPhase ("lower " ++ Path.base input)
  let result ← lowered env p (s.compileOptions (← get).host.cwd input)
  let (compiler, text) ←
    settle phase id (fun r => Text.ofNat (functionCount r.1) ++ " functions") result
  let functions := functionCount compiler
  Action.debug ("lowered " ++ input ++ ": " ++ Text.ofNat functions ++ " functions, debug info " ++
    Text.ofString (if compiler.debugInfo then "true" else "false"))
  return { input, text, functions }

theorem buildOne_eq (s : Settings) (env : Lowering.Environment) (input : Text) :
    buildOne s env input = decode input >>= lowerOne s env input :=
  rfl

/-- The input decodes to the program, which lowers and emits, and the result is `b`. -/
structure Yields (s : Settings) (c : Console) (input : Text) (p : Program) (b : Built) : Prop where
  decodes : c.Decodes input p
  lowers : ∃ compiler,
    (Lowering.lowerProgram {} {} p (s.compileOptions c.host.cwd input)).2 = .ok compiler ∧
      compiler.emit = .ok b.text ∧ b.functions = functionCount compiler
  input_eq : b.input = input

theorem Yields.of_continues {s : Settings} {c c' : Console} {input : Text} {p : Program} {b : Built}
    (h : Yields s c input p b) (hc : c.Continues c') : Yields s c' input p b :=
  ⟨hc.decodes h.decodes, hc.cwd ▸ h.lowers, h.input_eq⟩

theorem Yields.unique {s : Settings} {c : Console} {input : Text} {p p' : Program} {b b' : Built}
    (h : Yields s c input p b) (h' : Yields s c input p' b') : p = p' ∧ b = b' := by
  obtain rfl : p = p' := Except.ok.inj ((h.decodes _ .start).symm.trans (h'.decodes _ .start))
  obtain ⟨compiler, hlower, hemit, hfunctions⟩ := h.lowers
  obtain ⟨compiler', hlower', hemit', hfunctions'⟩ := h'.lowers
  obtain rfl : compiler = compiler' := Except.ok.inj (hlower.symm.trans hlower')
  have htext : b.text = b'.text := Except.ok.inj (hemit.symm.trans hemit')
  refine ⟨rfl, ?_⟩
  show Built.mk b.input b.text b.functions = Built.mk b'.input b'.text b'.functions
  rw [h.input_eq, h'.input_eq, htext, hfunctions, hfunctions']

theorem exists_yields {s : Settings} {c : Console} {input : Text} {p : Program} (hdecodes : c.Decodes input p)
    (hemits : ((Lowering.lowerProgram {} {} p (s.compileOptions c.host.cwd input)).2.toOption.bind
      fun compiler => compiler.emit.toOption).isSome = true) : ∃ p b, Yields s c input p b := by
  cases hlower : (Lowering.lowerProgram {} {} p (s.compileOptions c.host.cwd input)).2 with
  | error e =>
    rw [hlower] at hemits
    cases hemits
  | ok compiler =>
    rw [hlower] at hemits
    cases hemit : compiler.emit with
    | error faults =>
      simp [Except.toOption, hemit] at hemits
    | ok text =>
      exact ⟨p, ⟨input, text, functionCount compiler⟩, hdecodes, ⟨compiler, hlower, hemit, rfl⟩, rfl⟩

theorem gives_beginPhase (name : Text) (c : Console) : (beginPhase name).Gives c (c.timing.begin name).1 :=
  ⟨_, rfl, .of_eq rfl rfl⟩

theorem gives_settle {ε α : Type} (i : Nat) (because : ε → Failure) (note : α → Text) (a : α) (c : Console) :
    (settle i because note (.ok a)).Gives c a :=
  ⟨_, rfl, .of_eq rfl rfl⟩

theorem gives_decode {c : Console} {input : Text} {p : Program} (h : c.Decodes input p) :
    (decode input).Gives c p := by
  refine (gives_beginPhase _ c).bind fun c₁ h₁ => (Action.gives_get c₁).bind fun c₂ _ => ?_
  have hfile : Codec.decodeFile c₁.host.files c₁.host.cwd input = .ok p := h₁.decodes h _ .start
  rw [hfile]
  exact gives_settle _ _ _ p c₂

theorem gives_lowered {env : Lowering.Environment} {p : Program} {o : Lowering.Options} {c : Console}
    {compiler : Lowering.Compiler} {text : Text}
    (hlower : (Lowering.lowerProgram env c.journal p o).2 = .ok compiler)
    (hemit : compiler.emit = .ok text) : (lowered env p o).Gives c (.ok (compiler, text)) := by
  refine (Action.gives_get c).bind fun c₁ _ => ?_
  cases hrun : Lowering.lowerProgram env c.journal p o with
  | mk journal result =>
    rw [hrun] at hlower
    obtain rfl : result = .ok compiler := hlower
    refine (Action.gives_modify (Console.continues_adopt c₁ journal)).bind fun c₂ _ => ?_
    simp only [hemit]
    exact Action.gives_pure _ c₂

theorem gives_lowerOne {s : Settings} {c : Console} {input : Text} {p : Program} {b : Built}
    (h : Yields s c input p b) (span : Nat) : (lowerOne s { span } input p).Gives c b := by
  obtain ⟨compiler, hlower, hemit, hfunctions⟩ := h.lowers
  have hb : b = ⟨input, b.text, functionCount compiler⟩ := by
    rw [← h.input_eq, ← hfunctions]
  refine (gives_beginPhase _ c).bind fun c₁ h₁ => (Action.gives_get c₁).bind fun c₂ h₂ => ?_
  -- Neither the journal nor the span has a say in the outcome.
  have hlower' : (Lowering.lowerProgram { span } c₂.journal p (s.compileOptions c₁.host.cwd input)).2 =
      .ok compiler := by
    rw [h₁.cwd, Lowering.lowerProgram_eq, ← Lowering.lowerProgram_eq 0 {}]
    exact hlower
  refine (gives_lowered hlower' hemit).bind fun c₃ _ => (gives_settle _ _ _ _ c₃).bind fun c₄ _ => ?_
  refine (Action.gives_modify (Console.continues_debug c₄ _)).bind fun c₅ _ => ?_
  rw [hb]
  exact Action.gives_pure _ c₅

/-! ## Workers that take turns -/

/-- Where a worker stands. -/
inductive Stage where
  | waiting
  | decoded (p : Program)
  | over

/-- The workers, each known by the index of its input, and what they share. -/
structure Pool where
  console : Console
  stage : Nat → Stage := fun _ => .waiting
  failed : Option Failure := none
  finished : List (Nat × Built) := []

namespace Pool

def move (q : Pool) (i : Nat) (stage : Stage) : Pool :=
  { q with stage := fun j => if j = i then stage else q.stage j }

/-- A part of the work for an input.  The first failure of all is the one that counts. -/
def perform {α : Type} (q : Pool) (i : Nat) (input : Text) (a : Action α) (next : Pool → α → Pool) : Pool :=
  match a.on q.console with
  | (.ok x, console) => next { q with console } x
  | (.error f, console) =>
    { q with console, failed := q.failed.or (some (.input input f)) }.move i .over

/-- The worker `i` takes a turn.  After a failure lowerings are canceled. -/
def turn (s : Settings) (span : Nat) (q : Pool) (i : Nat) : Pool :=
  match s.inputs[i]?, q.stage i with
  | some input, .waiting => q.perform i input (decode input) fun q p => q.move i (.decoded p)
  | some input, .decoded p =>
    q.perform i input (lowerOne s { span, canceled := fun _ => q.failed.isSome } input p)
      fun q b => { q with finished := q.finished ++ [(i, b)] }.move i .over
  | _, _ => q

def outcome (q : Pool) (finished : List (Nat × Built)) : Except Failure (List (Nat × Built)) :=
  q.failed.elim (.ok finished) .error

def run (s : Settings) (span : Nat) (q : Pool) (order : List Nat) : Pool := order.foldl (turn s span) q

end Pool

/-- Builds the inputs with workers that take turns. -/
def work (s : Settings) (span : Nat) (order : List Nat) : Action (List (Nat × Built)) := do
  let q := Pool.run s span { console := ← get } order
  set q.console
  Action.require id (q.outcome q.finished)

/-- `buildAll` with workers that take turns in the given order. -/
def buildAllBy (order : List Nat) (s : Settings) : Action (List (Text × Built)) := do
  let names ← Action.require Failure.collision (Settings.outputNames s.inputs)
  let (span, journal) := (← get).journal.begin .driver "build" 0
  modify fun c => c.adopt journal
  let result ← Action.attempt (work s span.id order)
  modify fun c => c.adopt (c.journal.finish span [])
  return names.zip (inOrder s.inputs.length (← Action.require id result))

/-- One worker after the other, for `count` inputs from `index` on. -/
def inTurn (index count : Nat) : List Nat := (List.range' index count).flatMap fun i => [i, i]

theorem le_count_inTurn {i count : Nat} (h : i < count) : 2 ≤ (inTurn 0 count).count i := by
  have hmem : i ∈ List.range' 0 count := List.mem_range'_1.mpr ⟨Nat.zero_le i, by omega⟩
  have hturns : [i, i].Sublist (inTurn 0 count) := by
    rw [inTurn, List.flatMap_def]
    exact List.sublist_flatten_of_mem (List.mem_map.mpr ⟨i, hmem, rfl⟩)
  have htwo : [i, i].count i = 2 := by simp
  exact htwo ▸ hturns.count_le i

namespace Pool

variable {s : Settings} {span : Nat} {q : Pool} {i : Nat} {input : Text} {c : Console}

theorem move_move (q : Pool) (i : Nat) (first second : Stage) :
    (q.move i first).move i second = q.move i second := by
  unfold move
  simp only
  congr 1
  funext j
  by_cases h : j = i
  · rw [if_pos h, if_pos h]
  · rw [if_neg h, if_neg h, if_neg h]

theorem perform_ok {α : Type} {a : Action α} {x : α} (h : a.on q.console = (.ok x, c))
    (next : Pool → α → Pool) : q.perform i input a next = next { q with console := c } x := by
  rw [perform, h]

theorem perform_error {α : Type} {a : Action α} {f : Failure} (h : a.on q.console = (.error f, c))
    (next : Pool → α → Pool) :
    q.perform i input a next =
      { q with console := c, failed := q.failed.or (some (.input input f)) }.move i .over := by
  rw [perform, h]

theorem stage_move_self (q : Pool) (i : Nat) (stage : Stage) : (q.move i stage).stage i = stage := if_pos rfl

theorem stage_move_of_ne (q : Pool) {i j : Nat} (h : j ≠ i) (stage : Stage) :
    (q.move i stage).stage j = q.stage j :=
  if_neg h

theorem turn_waiting (hi : s.inputs[i]? = some input) (hstage : q.stage i = .waiting) :
    turn s span q i = q.perform i input (decode input) fun q p => q.move i (.decoded p) := by
  rw [turn, hi, hstage]

theorem turn_decoded {p : Program} (hi : s.inputs[i]? = some input) (hstage : q.stage i = .decoded p) :
    turn s span q i =
      q.perform i input (lowerOne s { span, canceled := fun _ => q.failed.isSome } input p)
        fun q b => { q with finished := q.finished ++ [(i, b)] }.move i .over := by
  rw [turn, hi, hstage]

theorem turn_over (hstage : q.stage i = .over) : turn s span q i = q := by
  rw [turn, hstage]
  cases s.inputs[i]? <;> rfl

/-! ### One worker after the other -/

/-- Two turns in a row are the whole work on an input. -/
theorem run_pair_ok {b : Built} (hi : s.inputs[i]? = some input) (hstage : q.stage i = .waiting)
    (h : (buildOne s { span, canceled := fun _ => q.failed.isSome } input).on q.console = (.ok b, c)) :
    run s span q [i, i] = { q with console := c, finished := q.finished ++ [(i, b)] }.move i .over := by
  rw [buildOne_eq] at h
  show turn s span (turn s span q i) i = _
  rcases hdecode : (decode input).on q.console with ⟨_ | p, c₁⟩
  · rw [Action.on_bind_error hdecode] at h
    exact absurd h (by simp)
  · rw [Action.on_bind_ok hdecode] at h
    rw [turn_waiting hi hstage, perform_ok hdecode, turn_decoded hi (stage_move_self _ _ _), perform_ok h]
    exact move_move { q with console := c, finished := q.finished ++ [(i, b)] } i (.decoded p) .over

theorem run_pair_error {f : Failure} (hi : s.inputs[i]? = some input) (hstage : q.stage i = .waiting)
    (h : (buildOne s { span, canceled := fun _ => q.failed.isSome } input).on q.console = (.error f, c)) :
    run s span q [i, i] =
      { q with console := c, failed := q.failed.or (some (.input input f)) }.move i .over := by
  rw [buildOne_eq] at h
  show turn s span (turn s span q i) i = _
  rcases hdecode : (decode input).on q.console with ⟨f' | p, c₁⟩
  · rw [Action.on_bind_error hdecode] at h
    obtain ⟨rfl, rfl⟩ : f' = f ∧ c₁ = c := by simpa using h
    rw [turn_waiting hi hstage, perform_error hdecode, turn_over (stage_move_self _ _ _)]
  · rw [Action.on_bind_ok hdecode] at h
    rw [turn_waiting hi hstage, perform_ok hdecode, turn_decoded hi (stage_move_self _ _ _), perform_error h]
    exact move_move { q with console := c, failed := q.failed.or (some (.input input f)) } i (.decoded p) .over

theorem run_append (s : Settings) (span : Nat) (q : Pool) (first second : List Nat) :
    run s span q (first ++ second) = run s span (run s span q first) second :=
  List.foldl_append

theorem on_buildInputs (s : Settings) (span : Nat) (q : Pool) (index : Nat) (inputs : List Text)
    (hinputs : s.inputs.drop index = inputs) (hstage : ∀ j, index ≤ j → q.stage j = .waiting) :
    ∃ more, (run s span q (inTurn index inputs.length)).finished = q.finished ++ more ∧
      (buildInputs s span q.failed index inputs).on q.console =
        ((run s span q (inTurn index inputs.length)).outcome more,
          (run s span q (inTurn index inputs.length)).console) := by
  induction inputs generalizing q index with
  | nil =>
    refine ⟨[], (List.append_nil _).symm, ?_⟩
    show _ = (q.outcome [], q.console)
    unfold buildInputs outcome
    cases q.failed <;> rfl
  | cons input rest ih =>
    have hi : s.inputs[index]? = some input := by
      rw [← Nat.add_zero index, ← List.getElem?_drop, hinputs]
      rfl
    have hrest : s.inputs.drop (index + 1) = rest := by
      rw [← List.tail_drop, hinputs]
      rfl
    have horder : inTurn index (rest.length + 1) = [index, index] ++ inTurn (index + 1) rest.length := rfl
    have hlater : ∀ (q' : Pool), q'.stage = q.stage → ∀ j, index + 1 ≤ j →
        (q'.move index .over).stage j = .waiting := by
      intro q' hq' j hj
      rw [stage_move_of_ne _ (by omega), hq']
      exact hstage j (by omega)
    unfold buildInputs
    rw [List.length_cons, horder, run_append, Action.on_bind_ok (Action.on_attempt _ _)]
    rcases hbuild : (buildOne s { span, canceled := fun _ => q.failed.isSome } input).on q.console with
      ⟨f | b, c⟩
    · rw [run_pair_error hi (hstage index (Nat.le_refl _)) hbuild]
      exact ih _ (index + 1) hrest (hlater _ rfl)
    · rw [run_pair_ok hi (hstage index (Nat.le_refl _)) hbuild]
      obtain ⟨more, hfinished, hon⟩ := ih _ (index + 1) hrest (hlater
        { q with console := c, finished := q.finished ++ [(index, b)] } rfl)
      refine ⟨(index, b) :: more, ?_, ?_⟩
      · rw [hfinished]
        exact List.append_assoc _ _ _
      · generalize run s span _ (inTurn (index + 1) rest.length) = final at hon ⊢
        unfold outcome at hon ⊢
        cases hfailed : final.failed with
        | none =>
          rw [hfailed] at hon
          exact Action.on_bind_ok hon _
        | some f =>
          rw [hfailed] at hon
          exact Action.on_bind_error hon _

end Pool

theorem buildInputs_eq_work (s : Settings) (span : Nat) :
    buildInputs s span none 0 s.inputs = work s span (inTurn 0 s.inputs.length) := by
  refine Action.ext_on fun c => ?_
  obtain ⟨more, hfinished, hon⟩ := Pool.on_buildInputs s span { console := c } 0 s.inputs rfl fun _ _ => rfl
  rw [List.nil_append] at hfinished
  rw [hon, ← hfinished, work, Action.on_bind_ok (Action.on_get c), Action.on_bind_ok (Action.on_set c _)]
  generalize Pool.run s span { console := c } (inTurn 0 s.inputs.length) = q
  cases hout : q.outcome q.finished <;> rfl

/-- Building the inputs in turn is one order among others. -/
theorem buildAll_eq_buildAllBy (s : Settings) : buildAll s = buildAllBy (inTurn 0 s.inputs.length) s := by
  unfold buildAll buildAllBy
  simp only [buildInputs_eq_work]

/-! ## Every order -/

/-- The stage of a worker after so many turns, if nothing goes wrong. -/
def Stage.after (p : Program) : (turns : Nat) → Stage
  | 0 => .waiting
  | 1 => .decoded p
  | _ => .over

namespace Pool

/-- Where the workers stand after the turns of `order`: every worker is as far as its own
turns took it, nothing has failed, and what is finished is what the inputs yield. -/
structure Stands (s : Settings) (c : Console) (order : List Nat) (q : Pool) : Prop where
  console : c.Continues q.console
  failed : q.failed = none
  stage : ∀ {i input p b}, s.inputs[i]? = some input → Yields s c input p b →
    q.stage i = Stage.after p (order.count i) ∧
      q.finished.lookup i = if 2 ≤ order.count i then some b else none

theorem Stands.start (s : Settings) (c : Console) : Stands s c [] { console := c } :=
  ⟨.refl c, rfl, fun _ _ => ⟨rfl, rfl⟩⟩

theorem count_concat_self (order : List Nat) (i : Nat) : (order ++ [i]).count i = order.count i + 1 := by
  simp

theorem count_concat_of_ne (order : List Nat) {i j : Nat} (h : j ≠ i) :
    (order ++ [i]).count j = order.count j := by
  simp [Ne.symm h]

/-- What a turn of worker `i` has to show for that worker, if it touches no other. -/
theorem Stands.of_turn {s : Settings} {c : Console} {order : List Nat} {q q' : Pool} {i : Nat}
    {input : Text} {p : Program} {b : Built} (h : Stands s c order q)
    (hi : s.inputs[i]? = some input) (hyields : Yields s c input p b)
    (hconsole : q.console.Continues q'.console) (hfailed : q'.failed = none)
    (hothers : ∀ j, j ≠ i → q'.stage j = q.stage j ∧ q'.finished.lookup j = q.finished.lookup j)
    (hstage : q'.stage i = Stage.after p (order.count i + 1))
    (hfinished : q'.finished.lookup i = if 2 ≤ order.count i + 1 then some b else none) :
    Stands s c (order ++ [i]) q' := by
  refine ⟨h.console.trans hconsole, hfailed, fun {j input' p' b'} hj hyields' => ?_⟩
  by_cases hji : j = i
  · subst hji
    obtain rfl : input = input' := Option.some.inj (hi.symm.trans hj)
    obtain ⟨rfl, rfl⟩ := hyields.unique hyields'
    rw [count_concat_self]
    exact ⟨hstage, hfinished⟩
  · rw [count_concat_of_ne order hji, (hothers j hji).1, (hothers j hji).2]
    exact h.stage hj hyields'

/-- A turn for which there is no worker. -/
theorem Stands.idle {s : Settings} {c : Console} {order : List Nat} {q : Pool} {i : Nat}
    (h : Stands s c order q) (hi : s.inputs[i]? = none) (span : Nat) :
    Stands s c (order ++ [i]) (q.turn s span i) := by
  have hidle : q.turn s span i = q := by rw [Pool.turn, hi]
  rw [hidle]
  refine ⟨h.console, h.failed, fun {j input p b} hj hb => ?_⟩
  have hji : j ≠ i := by
    rintro rfl
    rw [hi] at hj
    exact absurd hj (by simp)
  rw [count_concat_of_ne order hji]
  exact h.stage hj hb

section Turn

variable {s : Settings} {c : Console} {order : List Nat} {q : Pool} {i : Nat} {input : Text} {p : Program}
  {b : Built}

theorem Stands.decode (h : Stands s c order q) (hi : s.inputs[i]? = some input)
    (hb : Yields s c input p b) (hcount : order.count i = 0) (span : Nat) :
    Stands s c (order ++ [i]) (q.turn s span i) := by
  obtain ⟨hstage, hfinished⟩ := h.stage hi hb
  rw [hcount] at hstage hfinished
  obtain ⟨c', hon, hcontinues⟩ := gives_decode (hb.of_continues h.console).decodes
  rw [turn_waiting hi hstage, perform_ok hon]
  refine h.of_turn hi hb hcontinues h.failed (fun j hj => ⟨stage_move_of_ne _ hj _, rfl⟩) ?_ ?_
  · rw [hcount]
    exact stage_move_self _ _ _
  · rw [hcount]
    exact hfinished

theorem Stands.lower (h : Stands s c order q) (hi : s.inputs[i]? = some input)
    (hb : Yields s c input p b) (hcount : order.count i = 1) (span : Nat) :
    Stands s c (order ++ [i]) (q.turn s span i) := by
  obtain ⟨hstage, hfinished⟩ := h.stage hi hb
  rw [hcount] at hstage hfinished
  have hfresh : q.finished.lookup i = none := hfinished
  obtain ⟨c', hon, hcontinues⟩ := gives_lowerOne (hb.of_continues h.console) span
  -- Nothing has failed, so the lowering is not canceled.
  have hon' : (lowerOne s { span, canceled := fun _ => q.failed.isSome } input p).on q.console =
      (.ok b, c') := by
    rw [h.failed]
    exact hon
  rw [turn_decoded hi hstage, perform_ok hon']
  refine h.of_turn hi hb hcontinues h.failed (fun j hj => ⟨stage_move_of_ne _ hj _, ?_⟩) ?_ ?_
  · show (q.finished ++ [(i, b)]).lookup j = _
    rw [List.lookup_append]
    simp [List.lookup_cons, beq_eq_false_iff_ne.mpr hj]
  · rw [hcount]
    exact stage_move_self _ _ _
  · show (q.finished ++ [(i, b)]).lookup i = _
    rw [List.lookup_append, hfresh, hcount]
    simp

theorem Stands.over (h : Stands s c order q) (hi : s.inputs[i]? = some input)
    (hb : Yields s c input p b) {n : Nat} (hcount : order.count i = n + 2) (span : Nat) :
    Stands s c (order ++ [i]) (q.turn s span i) := by
  obtain ⟨hstage, hfinished⟩ := h.stage hi hb
  rw [hcount] at hstage hfinished
  rw [turn_over hstage]
  refine h.of_turn hi hb (.refl _) h.failed (fun _ _ => ⟨rfl, rfl⟩) ?_ ?_
  · rw [hcount]
    exact hstage
  · rw [hcount, hfinished, if_pos (by omega), if_pos (by omega)]

end Turn

theorem Stands.turn {s : Settings} {c : Console} {order : List Nat} {q : Pool}
    (hyields : ∀ input ∈ s.inputs, ∃ p b, Yields s c input p b) (span : Nat)
    (h : Stands s c order q) (i : Nat) : Stands s c (order ++ [i]) (q.turn s span i) := by
  cases hi : s.inputs[i]? with
  | none => exact h.idle hi span
  | some input =>
    obtain ⟨p, b, hb⟩ := hyields input (List.mem_of_getElem? hi)
    cases hcount : order.count i with
    | zero => exact h.decode hi hb hcount span
    | succ n =>
      cases n with
      | zero => exact h.lower hi hb hcount span
      | succ n => exact h.over hi hb hcount span

theorem Stands.run {s : Settings} {c : Console}
    (hyields : ∀ input ∈ s.inputs, ∃ p b, Yields s c input p b) (span : Nat) {before : List Nat} {q : Pool}
    (h : Stands s c before q) (order : List Nat) : Stands s c (before ++ order) (q.run s span order) := by
  induction order generalizing before q with
  | nil => simpa [Pool.run] using h
  | cons i order ih =>
    have hrest := ih (h.turn hyields span i)
    rwa [List.append_assoc, List.singleton_append] at hrest

end Pool

theorem inOrder_eq_map {inputs : List Text} {finished : List (Nat × Built)} {built : Text → Built}
    (h : ∀ i input, inputs[i]? = some input → finished.lookup i = some (built input)) :
    inOrder inputs.length finished = inputs.map built := by
  have hlookup : (List.range inputs.length).map (fun i => finished.lookup i) =
      (inputs.map built).map some := by
    refine List.ext_getElem (by simp) fun i hi _ => ?_
    have hlt : i < inputs.length := by simpa using hi
    simp only [List.getElem_map, List.getElem_range]
    exact h i inputs[i] (List.getElem?_eq_getElem hlt)
  have hmap : inOrder inputs.length finished =
      ((List.range inputs.length).map fun i => finished.lookup i).filterMap id := by
    rw [List.filterMap_map]
    rfl
  rw [hmap, hlookup, List.filterMap_map]
  exact List.filterMap_some

section Order

variable {s : Settings} {c : Console} {order : List Nat} {built : Text → Built}

theorem gives_work (hyields : ∀ input ∈ s.inputs, ∃ p, Yields s c input p (built input))
    (horder : ∀ i < s.inputs.length, 2 ≤ order.count i) (span : Nat) :
    ∃ finished, (work s span order).Gives c finished ∧
      inOrder s.inputs.length finished = s.inputs.map built := by
  have hall : ∀ input ∈ s.inputs, ∃ p b, Yields s c input p b := fun input hinput =>
    (hyields input hinput).imp fun _ hp => ⟨_, hp⟩
  have hstands := (Pool.Stands.start s c).run hall span order
  refine ⟨(Pool.run s span { console := c } order).finished, ⟨_, ?_, hstands.console⟩,
    inOrder_eq_map fun i input hi => ?_⟩
  · rw [work, Action.on_bind_ok (Action.on_get c), Action.on_bind_ok (Action.on_set c _), Pool.outcome,
      hstands.failed]
    rfl
  · obtain ⟨p, hp⟩ := hyields input (List.mem_of_getElem? hi)
    have hturns := horder i (List.getElem?_eq_some_iff.mp hi).1
    rw [(hstands.stage hi hp).2, List.nil_append, if_pos hturns]

/-- Whatever the order in which the workers take their turns, each input gets what it
yields. -/
theorem gives_buildAllBy (hnames : (s.inputs.map Settings.outputName).Nodup)
    (hyields : ∀ input ∈ s.inputs, ∃ p, Yields s c input p (built input))
    (horder : ∀ i < s.inputs.length, 2 ≤ order.count i) :
    (buildAllBy order s).Gives c (s.inputs.map fun input => (Settings.outputName input, built input)) := by
  have houtput : Settings.outputNames s.inputs = .ok (s.inputs.map Settings.outputName) :=
    Settings.outputNames_eq_ok_iff.mpr ⟨hnames, rfl⟩
  unfold buildAllBy
  rw [houtput]
  refine (Action.gives_pure _ c).bind fun c₁ h₁ => (Action.gives_get c₁).bind fun c₂ h₂ => ?_
  refine (Action.gives_modify (Console.continues_adopt c₂ _)).bind fun c₃ h₃ => ?_
  have hlater : c.Continues c₃ := h₁.trans (h₂.trans h₃)
  obtain ⟨finished, hwork, hfinished⟩ := gives_work (c := c₃)
    (fun input hinput => (hyields input hinput).imp fun _ hp => hp.of_continues hlater) horder _
  refine hwork.attempt.bind fun c₄ _ => ?_
  refine (Action.gives_modify (Console.continues_adopt c₄ _)).bind fun c₅ _ => ?_
  refine (Action.gives_pure finished c₅).bind fun c₆ _ => ?_
  rw [hfinished, List.zip_map']
  exact Action.gives_pure _ c₆

end Order

end Build
end Cli
end FeltLowering
