import FeltLowering.Proofs.Trace.Ensemble
import FeltLowering.Proofs.Trace.Forest
import FeltLowering.Proofs.Trace.Pairs

/-
Events that change after they were recorded.

An end event shows the pairs of its span, and a span can be given pairs after it has ended.
A bench is a ring tracer in use, with the spans that were opened on it; operations on them
come in any order.  The events that the ring was given never change and are displaced in
turn, but what they show is read when they are shown (`Bench.Sound.run`): an end event of a
span that had pairs by then shows the later ones too.  All other events stay as they are.
-/
namespace FeltLowering
namespace Trace

/-! ## Pairs that stay as they are -/

namespace Pairs

theorem keys_put_of_mem {ps : Pairs} {key : Text} (h : key ∈ ps.map Prod.fst) (value : Text) :
    (ps.put key value).map Prod.fst = ps.map Prod.fst := by
  have hany : ps.any (·.1 = key) = true := by
    obtain ⟨p, hp, rfl⟩ := List.mem_map.mp h
    exact List.any_eq_true.mpr ⟨p, hp, decide_eq_true rfl⟩
  rw [put, if_pos hany, List.map_map]
  refine List.map_congr_left fun p _ => ?_
  show (if p.1 = key then (key, value) else p).1 = p.1
  by_cases hp : p.1 = key
  · rw [if_pos hp, hp]
  · rw [if_neg hp]

theorem keys_putAll_of_mem {ps : Pairs} {xs : List (Text × Text)}
    (h : ∀ x ∈ xs, x.1 ∈ ps.map Prod.fst) : (ps.putAll xs).map Prod.fst = ps.map Prod.fst := by
  induction xs generalizing ps with
  | nil => rfl
  | cons x xs ih =>
    have hput := keys_put_of_mem (h x List.mem_cons_self) x.2
    have hrest : ∀ y ∈ xs, y.1 ∈ (ps.put x.1 x.2).map Prod.fst := by
      intro y hy
      rw [hput]
      exact h y (List.mem_cons_of_mem x hy)
    exact (ih hrest).trans hput

theorem eq_of_keys_of_lookup {ps qs : Pairs} (hkeys : ps.map Prod.fst = qs.map Prod.fst)
    (hnodup : (ps.map Prod.fst).Nodup) (h : ∀ k, ps.lookup k = qs.lookup k) : ps = qs := by
  induction ps generalizing qs with
  | nil => exact (List.map_eq_nil_iff.mp hkeys.symm).symm
  | cons p ps ih =>
    cases qs with
    | nil => cases hkeys
    | cons q qs =>
      obtain ⟨key, v⟩ := p
      obtain ⟨key', w⟩ := q
      rw [List.map_cons, List.map_cons] at hkeys
      obtain ⟨hkey, htail⟩ := List.cons.inj hkeys
      obtain rfl : key = key' := hkey
      obtain ⟨hnot, hnodup⟩ := List.nodup_cons.mp hnodup
      have hv := h key
      rw [List.lookup_cons, List.lookup_cons, beq_self_eq_true] at hv
      have hrest : ps = qs := by
        refine ih htail hnodup fun k => ?_
        by_cases hk : k = key
        · rw [hk, lookup_of_not_mem hnot, lookup_of_not_mem (htail ▸ hnot)]
        · have hlookup := h k
          rwa [List.lookup_cons, List.lookup_cons, beq_false_of_ne hk] at hlookup
      rw [hrest, Option.some.inj hv]

/-- Keys that are set in turn leave the pairs as they are exactly if each is last given the
value it has. -/
theorem putAll_eq_self_iff {ps : Pairs} (hnodup : (ps.map Prod.fst).Nodup)
    {xs : List (Text × Text)} :
    ps.putAll xs = ps ↔ ∀ k v, xs.reverse.lookup k = some v → ps.lookup k = some v := by
  constructor
  · intro h k v hv
    rw [← h, lookup_putAll, hv, Option.some_or]
  · intro h
    have hmem : ∀ x ∈ xs, x.1 ∈ ps.map Prod.fst := by
      intro x hx
      by_contra hnot
      cases hlast : xs.reverse.lookup x.1 with
      | none =>
        have hne := List.lookup_eq_none_iff.mp hlast x (List.mem_reverse.mpr hx)
        exact absurd rfl (bne_iff_ne.mp hne)
      | some v =>
        have hv := h x.1 v hlast
        rw [lookup_of_not_mem hnot] at hv
        cases hv
    have hkeys := keys_putAll_of_mem hmem
    refine eq_of_keys_of_lookup hkeys (by rwa [hkeys]) fun k => ?_
    rw [lookup_putAll]
    cases hlast : xs.reverse.lookup k with
    | none => rfl
    | some v => exact (h k v hlast).symm

end Pairs

/-! ## Keys of spans -/

section Keyed

variable {key : Span → Option Nat} {spans : List Span}

/-- No two spans have the same key; spans may have none. -/
def KeyedBy (key : Span → Option Nat) (spans : List Span) : Prop :=
  ∀ (i j : Nat) (s t : Span) (k : Nat), spans[i]? = some s → spans[j]? = some t →
    key s = some k → key t = some k → i = j

theorem KeyedBy.concat (h : KeyedBy key spans) {s : Span}
    (hs : ∀ k, key s = some k → ∀ t ∈ spans, key t ≠ some k) : KeyedBy key (spans ++ [s]) := by
  have hcases : ∀ (i : Nat) (t : Span), (spans ++ [s])[i]? = some t →
      spans[i]? = some t ∨ i = spans.length ∧ t = s := by grind
  intro i j t u k ht hu htk huk
  rcases hcases i t ht with hold | ⟨hi, rfl⟩
  · rcases hcases j u hu with hold' | ⟨-, rfl⟩
    · exact h i j t u k hold hold' htk huk
    · exact absurd htk (hs k huk t (List.mem_of_getElem? hold))
  · rcases hcases j u hu with hold' | ⟨hj, -⟩
    · exact absurd huk (hs k htk u (List.mem_of_getElem? hold'))
    · rw [hi, hj]

theorem KeyedBy.set (h : KeyedBy key spans) {i : Nat} {s : Span}
    (hs : ∀ k, key s = some k → ∀ (j : Nat) (t : Span), spans[j]? = some t → key t = some k →
      j = i) : KeyedBy key (spans.set i s) := by
  have hcases : ∀ (j : Nat) (t : Span), (spans.set i s)[j]? = some t →
      j = i ∧ t = s ∨ spans[j]? = some t := by grind
  intro j j' t u k ht hu htk huk
  rcases hcases j t ht with ⟨hj, rfl⟩ | hold
  · rcases hcases j' u hu with ⟨hj', -⟩ | hold'
    · rw [hj, hj']
    · exact hj.trans (hs k htk j' u hold' huk).symm
  · rcases hcases j' u hu with ⟨hj', rfl⟩ | hold'
    · exact (hs k huk j t hold htk).trans hj'.symm
    · exact h j j' t u k hold hold' htk huk

end Keyed

/-! ## Operations -/

/-- An operation on a tracer.  Spans are meant by their place in the order of opening. -/
inductive SpanOp where
  | begin (scope : Scope) (name : Text) (parent : Nat)
  | annotate (span : Nat) (key value : Text)
  | finish (span : Nat) (detail : Text)
  | point (scope : Scope) (name detail : Text) (parent : Nat)

structure Bench where
  journal : Journal
  recording : Recording
  spans : List Span := []

def Span.own? (s : Span) : Option Nat := if s.live then some s.number else none

namespace Bench

/-- A ring tracer that has not been used yet; the counters may be. -/
def start (size : Int) (level : Level) (opened seq : Nat) : Bench where
  journal := { level, spans := opened }
  recording := ⟨.single (.ring (.ofSize size level)), seq⟩

/-- Hands the events of a journal on. -/
def take (b : Bench) (j : Journal) (spans : List Span) : Bench where
  journal := { j with events := [] }
  recording := b.recording.record j
  spans := spans

def act (b : Bench) : SpanOp → Bench
  | .begin scope name parent =>
    let opened := b.journal.begin scope name parent
    b.take opened.2 (b.spans ++ [opened.1])
  | .annotate i key value =>
    match b.spans[i]? with
    | some s =>
      let noted := b.journal.annotate s key value
      b.take noted.2 (b.spans.set i noted.1)
    | none => b
  | .finish i detail =>
    match b.spans[i]? with
    | some s => b.take (b.journal.finish s detail) b.spans
    | none => b
  | .point scope name detail parent => b.take (b.journal.point scope name detail parent) b.spans

def atTime (b : Bench) (now : Timestamp) : Bench := { b with journal := { b.journal with now } }

def step (b : Bench) (x : Timestamp × SpanOp) : Bench := (b.atTime x.1).act x.2

def run (b : Bench) (xs : List (Timestamp × SpanOp)) : Bench := xs.foldl step b

def snapshot (b : Bench) : List Event :=
  b.recording.tracer.rings.flatMap (Ring.snapshot b.journal.pairs)

/-- The pair that an operation gives to the recorded span of a number. -/
def noted (b : Bench) (id : Nat) : SpanOp → List (Text × Text)
  | .annotate i key value => if b.spans[i]?.bind Span.own? = some id then [(key, value)] else []
  | _ => []

/-- The pairs that operations give to the recorded span of a number, in order. -/
def notes (b : Bench) (id : Nat) : List (Timestamp × SpanOp) → List (Text × Text)
  | [] => []
  | x :: xs => b.noted id x.2 ++ (b.step x).notes id xs

end Bench

/-! ## Events that refer to spans -/

namespace Event

def amended (xs : List (Text × Text)) (e : Event) : Event :=
  match e.extra with
  | .own ps => { e with extra := .own (ps.putAll xs) }
  | _ => e

theorem amended_of_none {e : Event} (h : e.extra = .none) (xs : List (Text × Text)) :
    e.amended xs = e := by
  simp only [amended, h]

theorem amended_nil (e : Event) : e.amended [] = e := by
  unfold amended
  split
  · next ps h => rw [show ps.putAll [] = ps from rfl, ← h]
  · rfl

theorem amended_append (xs ys : List (Text × Text)) (e : Event) :
    e.amended (xs ++ ys) = (e.amended xs).amended ys := by
  obtain ⟨time, seq, kind, scope, span, parent, name, detail, extra⟩ := e
  cases extra with
  | own ps => simp only [amended, Pairs.putAll, List.foldl_append]
  | none => rfl
  | span p => rfl

theorem amended_eq_self_iff {e : Event} (h : ∀ ps, e.extra = .own ps → (ps.map Prod.fst).Nodup)
    {xs : List (Text × Text)} :
    e.amended xs = e ↔
      ∀ ps, e.extra = .own ps → ∀ k v, xs.reverse.lookup k = some v → ps.lookup k = some v := by
  obtain ⟨time, seq, kind, scope, span, parent, name, detail, extra⟩ := e
  cases extra with
  | none => exact ⟨fun _ _ => (nomatch ·), fun _ => rfl⟩
  | span p => exact ⟨fun _ _ => (nomatch ·), fun _ => rfl⟩
  | own ps =>
    have hself : amended xs ⟨time, seq, kind, scope, span, parent, name, detail, .own ps⟩ =
        ⟨time, seq, kind, scope, span, parent, name, detail, .own ps⟩ ↔ ps.putAll xs = ps := by
      simp only [amended, Event.mk.injEq, Extra.own.injEq, true_and]
    rw [hself, Pairs.putAll_eq_self_iff (h ps rfl)]
    constructor
    · intro hxs qs hqs
      cases hqs
      exact hxs
    · exact fun hxs => hxs ps rfl

/-- An event either has no pairs or ends one of the spans and refers to its pairs. -/
def RefersTo (e : Event) (spans : List Span) : Prop :=
  e.extra = .none ∨
    e.kind = .finish ∧ ∃ s ∈ spans, ∃ p, s.own? = some e.span ∧ s.pairs = some p ∧
      e.extra = .span p

theorem RefersTo.mono {e : Event} {spans spans' : List Span} (h : e.RefersTo spans)
    (hkeep : ∀ s ∈ spans, s.pairs.isSome → s ∈ spans') : e.RefersTo spans' := by
  rcases h with hnone | ⟨hkind, s, hs, p, hown, hpairs, hextra⟩
  · exact .inl hnone
  · exact .inr ⟨hkind, s, hkeep s hs (by rw [hpairs]; rfl), p, hown, hpairs, hextra⟩

theorem resolve_of_none {e : Event} (h : e.extra = .none) (pairs : List Pairs) :
    e.resolve pairs = e := by
  simp only [resolve, h]

theorem resolve_of_span {e : Event} {p : Nat} (h : e.extra = .span p) (pairs : List Pairs) :
    e.resolve pairs = { e with extra := .own (pairs[p]?.getD []) } := by
  simp only [resolve, h]

theorem resolve_kind (pairs : List Pairs) (e : Event) : (e.resolve pairs).kind = e.kind := by
  unfold resolve
  split <;> rfl

end Event

/-! ## Spans in use -/

structure SpansSound (level : Level) (opened places : Nat) (spans : List Span) : Prop where
  passes : ∀ s ∈ spans, s.live = true → level.passes s.scope = true
  opened : ∀ s ∈ spans, ∀ k, s.own? = some k → k ≤ opened
  owned : ∀ s ∈ spans, ∀ p, s.pairs = some p → s.live = true ∧ p < places
  ids : KeyedBy Span.own? spans
  positions : KeyedBy Span.pairs spans

namespace SpansSound

variable {level : Level} {opened places : Nat} {spans : List Span}

theorem empty : SpansSound level opened places [] :=
  ⟨fun _ => (nomatch ·), fun _ => (nomatch ·), fun _ => (nomatch ·), fun _ _ _ _ _ => (nomatch ·),
    fun _ _ _ _ _ => (nomatch ·)⟩

/-- A span is opened under the next number. -/
theorem open_live (h : SpansSound level opened places spans) {scope : Scope}
    (hpass : level.passes scope = true) (parent : Nat) (name : Text) :
    SpansSound level (opened + 1) places
      (spans ++ [⟨true, opened + 1, parent, scope, name, none⟩]) := by
  refine ⟨fun s hs hlive => ?_, fun s hs k hk => ?_, fun s hs p hp => ?_, h.ids.concat ?_,
    h.positions.concat fun _ => (nomatch ·)⟩
  · rcases List.mem_append.mp hs with hs | hs
    · exact h.passes s hs hlive
    · rw [List.mem_singleton.mp hs]
      exact hpass
  · rcases List.mem_append.mp hs with hs | hs
    · exact Nat.le_succ_of_le (h.opened s hs k hk)
    · rw [List.mem_singleton.mp hs] at hk
      exact Nat.le_of_eq (Option.some.inj hk).symm
  · rcases List.mem_append.mp hs with hs | hs
    · exact h.owned s hs p hp
    · rw [List.mem_singleton.mp hs] at hp
      cases hp
  · intro k hk t ht htk
    have hle := h.opened t ht k htk
    have hnew : opened + 1 = k := Option.some.inj hk
    omega

/-- A span that is filtered out has neither number nor pairs. -/
theorem open_quiet (h : SpansSound level opened places spans) (parent : Nat) :
    SpansSound level opened places (spans ++ [⟨false, 0, parent, .unnamed 0, [], none⟩]) := by
  refine ⟨fun s hs hlive => ?_, fun s hs k hk => ?_, fun s hs p hp => ?_,
    h.ids.concat fun _ => (nomatch ·), h.positions.concat fun _ => (nomatch ·)⟩
  · rcases List.mem_append.mp hs with hs | hs
    · exact h.passes s hs hlive
    · rw [List.mem_singleton.mp hs] at hlive
      cases hlive
  · rcases List.mem_append.mp hs with hs | hs
    · exact h.opened s hs k hk
    · rw [List.mem_singleton.mp hs] at hk
      cases hk
  · rcases List.mem_append.mp hs with hs | hs
    · exact h.owned s hs p hp
    · rw [List.mem_singleton.mp hs] at hp
      cases hp

/-- The first pair of a span takes the next place. -/
theorem place (h : SpansSound level opened places spans) {i : Nat} {s : Span}
    (hs : spans[i]? = some s) (hlive : s.live = true) :
    SpansSound level opened (places + 1) (spans.set i { s with pairs := some places }) := by
  have hmem := List.mem_of_getElem? hs
  refine ⟨fun t ht hl => ?_, fun t ht k hk => ?_, fun t ht p hp => ?_, h.ids.set ?_,
    h.positions.set ?_⟩
  · rcases List.mem_or_eq_of_mem_set ht with ht | rfl
    · exact h.passes t ht hl
    · exact h.passes s hmem hlive
  · rcases List.mem_or_eq_of_mem_set ht with ht | rfl
    · exact h.opened t ht k hk
    · exact h.opened s hmem k hk
  · rcases List.mem_or_eq_of_mem_set ht with ht | rfl
    · obtain ⟨hl, hlt⟩ := h.owned t ht p hp
      exact ⟨hl, Nat.lt_succ_of_lt hlt⟩
    · exact ⟨hlive, Option.some.inj hp ▸ Nat.lt_succ_self places⟩
  · intro k hk j t ht htk
    exact h.ids j i t s k ht hs htk hk
  · intro k hk j t ht htk
    have hlt := (h.owned t (List.mem_of_getElem? ht) k htk).2
    have hnew : places = k := Option.some.inj hk
    omega

/-- Both keys tell spans apart, so spans agree in their places exactly if they do in their
numbers. -/
theorem own_eq_iff (h : SpansSound level opened places spans) {i p q k : Nat} {s t : Span}
    (hs : spans[i]? = some s) (hp : s.pairs = some p) (ht : t ∈ spans) (hq : t.pairs = some q)
    (hk : t.own? = some k) : s.own? = some k ↔ p = q := by
  obtain ⟨j, hj⟩ := List.mem_iff_getElem?.mp ht
  constructor
  · intro hown
    obtain rfl := h.ids i j s t k hs hj hown hk
    cases Option.some.inj (hs.symm.trans hj)
    exact Option.some.inj (hp.symm.trans hq)
  · rintro rfl
    obtain rfl := h.positions i j s t p hs hj hp hq
    rwa [Option.some.inj (hs.symm.trans hj)]

end SpansSound

/-! ## What operations leave behind -/

theorem getElem?_numbered (n : Nat) (es : List Event) (k : Nat) :
    (numbered n es)[k]? = es[k]?.map fun e => { e with seq := n + k + 1 } := by
  induction es generalizing n k with
  | nil => rfl
  | cons e es ih =>
    cases k with
    | zero => rfl
    | succ k =>
      rw [numbered, List.getElem?_cons_succ, List.getElem?_cons_succ, ih, Nat.add_right_comm n 1 k,
        Nat.add_assoc n k 1]

namespace Bench

/-- A ring tracer `r` in use after it was given the events of the log. -/
structure Sound (r : Ring) (seq : Nat) (log : List Event) (b : Bench) : Prop where
  drained : b.journal.events = []
  level : b.journal.level = r.level
  recorded : b.recording = ⟨.single (.ring (log.foldl Ring.push r)), seq + log.length⟩
  seqs : ∀ (k : Nat) (e : Event), log[k]? = some e → e.seq = seq + k + 1
  spans : SpansSound r.level b.journal.spans b.journal.pairs.length b.spans
  refers : ∀ e ∈ log, e.RefersTo b.spans
  keys : ∀ ps ∈ b.journal.pairs, (ps.map Prod.fst).Nodup

/-- From `b` to `b'` the log goes on, and each event that was in it shows what its span was
given further. -/
def Leads (r : Ring) (seq : Nat) (log : List Event) (b b' : Bench)
    (further : Nat → List (Text × Text)) : Prop :=
  ∃ more, Sound r seq (log ++ more) b' ∧
    ∀ e ∈ log, e.resolve b'.journal.pairs = (e.resolve b.journal.pairs).amended (further e.span)

variable {r : Ring} {seq : Nat} {log : List Event} {b : Bench}

theorem Sound.atTime (h : Sound r seq log b) (now : Timestamp) : Sound r seq log (b.atTime now) :=
  ⟨h.drained, h.level, h.recorded, h.seqs, h.spans, h.refers, h.keys⟩

theorem Sound.stays (h : Sound r seq log b) {further : Nat → List (Text × Text)}
    (hnone : ∀ id, further id = []) : Leads r seq log b b further := by
  refine ⟨[], by rwa [List.append_nil], fun e _ => ?_⟩
  rw [hnone, Event.amended_nil]

theorem Sound.take (h : Sound r seq log b) {j : Journal} {spans : List Span}
    (hlevel : j.level = r.level) (hpass : ∀ e ∈ j.events, r.level.passes e.scope = true)
    (hspans : SpansSound r.level j.spans j.pairs.length spans)
    (hold : ∀ e ∈ log, e.RefersTo spans) (hnew : ∀ e ∈ j.events, e.RefersTo spans)
    (hkeys : ∀ ps ∈ j.pairs, (ps.map Prod.fst).Nodup) :
    Sound r seq (log ++ numbered (seq + log.length) j.events) (b.take j spans) := by
  refine ⟨rfl, hlevel, ?_, fun k e hk => ?_, hspans, fun e he => ?_, hkeys⟩
  · have hring : (log.foldl Ring.push r).level = r.level := by rw [Ring.foldl_push_eq]
    show b.recording.record j = _
    rw [Recording.record, h.recorded, Recording.foldl_hand_ring j.pairs _ (by rwa [hring]),
      List.foldl_append, List.length_append, length_numbered, Nat.add_assoc]
  · rcases Nat.lt_or_ge k log.length with hlt | hge
    · rw [List.getElem?_append_left hlt] at hk
      exact h.seqs k e hk
    · rw [List.getElem?_append_right hge, getElem?_numbered] at hk
      obtain ⟨e', -, rfl⟩ := Option.map_eq_some_iff.mp hk
      show seq + log.length + (k - log.length) + 1 = seq + k + 1
      omega
  · rcases List.mem_append.mp he with he | he
    · exact hold e he
    · obtain ⟨k, hk⟩ := List.mem_iff_getElem?.mp he
      rw [getElem?_numbered] at hk
      obtain ⟨e', he', rfl⟩ := Option.map_eq_some_iff.mp hk
      exact hnew e' (List.mem_of_getElem? he')

/-- Where no pair is set, the events before stay as they are shown. -/
theorem Sound.records (h : Sound r seq log b) {j : Journal} {spans : List Span} {es : List Event}
    (hlevel : j.level = b.journal.level) (hpairs : j.pairs = b.journal.pairs)
    (hevents : j.events = b.journal.events ++ es)
    (hspans : SpansSound r.level j.spans b.journal.pairs.length spans)
    (hkeep : ∀ s ∈ b.spans, s ∈ spans)
    (hes : ∀ e ∈ es, r.level.passes e.scope = true ∧ e.RefersTo spans) :
    Leads r seq log b (b.take j spans) fun _ => [] := by
  rw [h.drained, List.nil_append] at hevents
  rw [← hevents] at hes
  refine ⟨_, h.take (hlevel.trans h.level) (fun e he => (hes e he).1) (by rwa [hpairs])
    (fun e he => ?_) (fun e he => (hes e he).2) (by rw [hpairs]; exact h.keys), fun e _ => ?_⟩
  · exact (h.refers e he).mono fun s hs _ => hkeep s hs
  · rw [Event.amended_nil]
    exact congrArg (fun pairs => e.resolve pairs) hpairs

theorem Sound.begin (h : Sound r seq log b) (scope : Scope) (name : Text) (parent : Nat) :
    Leads r seq log b (b.act (.begin scope name parent)) fun _ => [] := by
  show Leads r seq log b (b.take (b.journal.begin scope name parent).2
    (b.spans ++ [(b.journal.begin scope name parent).1])) _
  cases hpass : b.journal.level.passes scope with
  | true =>
    rw [Journal.begin_of_passes hpass]
    rw [h.level] at hpass
    refine h.records rfl rfl rfl (h.spans.open_live hpass parent name)
      (fun s hs => List.mem_append_left _ hs) fun e he => ?_
    rw [List.mem_singleton.mp he]
    exact ⟨hpass, .inl rfl⟩
  | false =>
    rw [Journal.begin_of_quiet hpass]
    exact h.records rfl rfl (List.append_nil _).symm (h.spans.open_quiet parent)
      (fun s hs => List.mem_append_left _ hs) fun e => (nomatch ·)

theorem Sound.point (h : Sound r seq log b) (scope : Scope) (name detail : Text) (parent : Nat) :
    Leads r seq log b (b.act (.point scope name detail parent)) fun _ => [] := by
  show Leads r seq log b (b.take (b.journal.point scope name detail parent) b.spans) _
  cases hpass : b.journal.level.passes scope with
  | true =>
    rw [Journal.point_of_passes hpass]
    rw [h.level] at hpass
    refine h.records rfl rfl rfl h.spans (fun _ hs => hs) fun e he => ?_
    rw [List.mem_singleton.mp he]
    exact ⟨hpass, .inl rfl⟩
  | false =>
    rw [Journal.point_of_quiet hpass]
    exact h.records rfl rfl (List.append_nil _).symm h.spans (fun _ hs => hs) fun e => (nomatch ·)

theorem Sound.finish (h : Sound r seq log b) (i : Nat) (detail : Text) :
    Leads r seq log b (b.act (.finish i detail)) fun _ => [] := by
  unfold act
  dsimp only
  split
  · next s hs =>
    have hmem := List.mem_of_getElem? hs
    unfold Journal.finish
    split
    · next hlive =>
      refine h.records rfl rfl rfl h.spans (fun _ hs => hs) fun e he => ?_
      rw [List.mem_singleton.mp he]
      refine ⟨h.spans.passes s hmem hlive, ?_⟩
      -- The end event of a span that has no pairs yet will never show any.
      cases hpairs : s.pairs with
      | none => exact .inl rfl
      | some p => exact .inr ⟨rfl, s, hmem, p, if_pos hlive, hpairs, rfl⟩
    · exact h.records rfl rfl (List.append_nil _).symm h.spans (fun _ hs => hs)
        fun e => (nomatch ·)
  · exact h.stays fun _ => rfl

/-! ## Pairs of spans -/

/-- Where nothing is recorded, an event shows further pairs if those of its span have been set. -/
theorem Sound.amend (h : Sound r seq log b) {pairs : List Pairs} {spans : List Span}
    {further : Nat → List (Text × Text)}
    (hspans : SpansSound r.level b.journal.spans pairs.length spans)
    (hkeep : ∀ s ∈ b.spans, s.pairs.isSome → s ∈ spans)
    (hkeys : ∀ ps ∈ pairs, (ps.map Prod.fst).Nodup)
    (hset : ∀ s ∈ b.spans, ∀ p k, s.pairs = some p → s.own? = some k →
      pairs[p]?.getD [] = Pairs.putAll (b.journal.pairs[p]?.getD []) (further k)) :
    Leads r seq log b (b.take { b.journal with pairs } spans) further := by
  have hnone : ∀ e, e ∉ b.journal.events := fun e he => absurd (h.drained ▸ he) List.not_mem_nil
  refine ⟨_, h.take h.level (fun e he => absurd he (hnone e)) hspans
    (fun e he => (h.refers e he).mono hkeep) (fun e he => absurd he (hnone e)) hkeys,
    fun e he => ?_⟩
  show e.resolve pairs = _
  rcases h.refers e he with hextra | ⟨-, s, hs, p, hown, hp, hextra⟩
  · rw [Event.resolve_of_none hextra, Event.resolve_of_none hextra, Event.amended_of_none hextra]
  · rw [Event.resolve_of_span hextra, Event.resolve_of_span hextra, hset s hs p _ hp hown]
    rfl

/-- A span that has pairs is given another one. -/
theorem Sound.annotate_placed (h : Sound r seq log b) {i p : Nat} {s : Span}
    (hs : b.spans[i]? = some s) (hp : s.pairs = some p) (key value : Text) :
    Leads r seq log b
      (b.take { b.journal with pairs := b.journal.pairs.modify p (·.put key value) } b.spans)
      fun id => if s.own? = some id then [(key, value)] else [] := by
  refine h.amend ?_ (fun _ ht _ => ht) (fun ps hps => ?_) fun t ht q k hq hown => ?_
  · rw [List.length_modify]
    exact h.spans
  · obtain ⟨j, hj⟩ := List.mem_iff_getElem?.mp hps
    rw [List.getElem?_modify] at hj
    obtain ⟨qs, hqs, rfl⟩ := Option.map_eq_some_iff.mp hj
    have hnodup := h.keys qs (List.mem_of_getElem? hqs)
    split
    · exact Pairs.keys_nodup_put hnodup key value
    · exact hnodup
  · have hiff := h.spans.own_eq_iff hs hp ht hq hown
    by_cases hpq : p = q
    · subst hpq
      rw [if_pos (hiff.mpr rfl), List.getElem?_modify_eq,
        List.getElem?_eq_getElem (h.spans.owned t ht p hq).2]
      rfl
    · rw [if_neg (mt hiff.mp hpq), List.getElem?_modify_ne _ _ hpq]
      rfl

/-- A span is given its first pair: no event refers to it yet. -/
theorem Sound.annotate_unplaced (h : Sound r seq log b) {i : Nat} {s : Span}
    (hs : b.spans[i]? = some s) (hlive : s.live = true) (hp : s.pairs = none) (key value : Text) :
    Leads r seq log b
      (b.take { b.journal with pairs := b.journal.pairs ++ [[(key, value)]] }
        (b.spans.set i { s with pairs := some b.journal.pairs.length }))
      fun id => if s.own? = some id then [(key, value)] else [] := by
  have hother : ∀ (j : Nat) (t : Span), b.spans[j]? = some t → t.pairs.isSome → i ≠ j := by
    rintro j t hj hsome rfl
    rw [← Option.some.inj (hs.symm.trans hj), hp] at hsome
    cases hsome
  refine h.amend ?_ (fun t ht hsome => ?_) (fun ps hps => ?_) fun t ht q k hq hown => ?_
  · rw [List.length_append]
    exact h.spans.place hs hlive
  · obtain ⟨j, hj⟩ := List.mem_iff_getElem?.mp ht
    exact List.mem_of_getElem? ((List.getElem?_set_ne (hother j t hj hsome)).trans hj)
  · rcases List.mem_append.mp hps with hps | hps
    · exact h.keys ps hps
    · rw [List.mem_singleton.mp hps]
      exact List.nodup_singleton key
  · obtain ⟨j, hj⟩ := List.mem_iff_getElem?.mp ht
    have hne : s.own? ≠ some k := fun hsame =>
      hother j t hj (by rw [hq]; rfl) (h.spans.ids i j s t k hs hj hsame hown)
    rw [if_neg hne, List.getElem?_append_left (h.spans.owned t ht q hq).2]
    rfl

theorem Sound.annotate (h : Sound r seq log b) (i : Nat) (key value : Text) :
    Leads r seq log b (b.act (.annotate i key value)) fun id =>
      b.noted id (.annotate i key value) := by
  unfold act noted
  dsimp only
  cases hs : b.spans[i]? with
  | none => exact h.stays fun _ => rfl
  | some s =>
    have hset : b.spans.set i s = b.spans := by
      obtain ⟨hlt, rfl⟩ := List.getElem?_eq_some_iff.mp hs
      exact List.set_getElem_self hlt
    show Leads r seq log b (b.take (b.journal.annotate s key value).2
      (b.spans.set i (b.journal.annotate s key value).1)) _
    unfold Journal.annotate
    by_cases hlive : s.live = true
    · rw [if_pos hlive]
      cases hp : s.pairs with
      | some p =>
        show Leads r seq log b (b.take _ (b.spans.set i s)) _
        rw [hset]
        exact h.annotate_placed hs hp key value
      | none => exact h.annotate_unplaced hs hlive hp key value
    · rw [if_neg hlive, hset]
      have hnone : ∀ id,
          (if (some s).bind Span.own? = some id then [(key, value)] else []) = [] := by
        intro id
        rw [Option.bind_some, Span.own?, if_neg hlive]
        rfl
      simp only [hnone]
      exact h.records rfl rfl (List.append_nil _).symm h.spans (fun _ hs => hs)
        fun e => (nomatch ·)

/-- Step: the log is continued, and an event shows the pair that its span is given. -/
theorem Sound.step (h : Sound r seq log b) (x : Timestamp × SpanOp) :
    Leads r seq log b (b.step x) fun id => b.noted id x.2 := by
  obtain ⟨now, op⟩ := x
  have hnow := h.atTime now
  cases op with
  | begin scope name parent => exact hnow.begin scope name parent
  | annotate i key value => exact hnow.annotate i key value
  | finish i detail => exact hnow.finish i detail
  | point scope name detail parent => exact hnow.point scope name detail parent

theorem Leads.trans {b' b'' : Bench} {further further' : Nat → List (Text × Text)}
    (h : Leads r seq log b b' further)
    (h' : ∀ log', Sound r seq log' b' → Leads r seq log' b' b'' further') :
    Leads r seq log b b'' fun id => further id ++ further' id := by
  obtain ⟨more, hsound, hshown⟩ := h
  obtain ⟨more', hsound', hshown'⟩ := h' _ hsound
  refine ⟨more ++ more', by rwa [← List.append_assoc], fun e he => ?_⟩
  rw [hshown' e (List.mem_append_left more he), hshown e he, Event.amended_append]

/-- Run: the log is continued, and an event shows the pairs that its span is given. -/
theorem Sound.run (h : Sound r seq log b) (xs : List (Timestamp × SpanOp)) :
    Leads r seq log b (b.run xs) fun id => b.notes id xs := by
  induction xs generalizing b log with
  | nil => exact h.stays fun _ => rfl
  | cons x xs ih => exact (h.step x).trans fun log' hsound => ih hsound

theorem sound_start (size : Int) (level : Level) (opened seq : Nat) :
    Sound (.ofSize size level) seq [] (start size level opened seq) :=
  ⟨rfl, rfl, rfl, fun _ _ => (nomatch ·), .empty, fun _ => (nomatch ·), fun _ => (nomatch ·)⟩

/-! ## Snapshots -/

variable {size : Int} {level : Level}

/-- The ring shows the events of the log that are not displaced. -/
theorem Sound.mem_snapshot_iff (h : Sound (.ofSize size level) seq log b) {e : Event} :
    e ∈ b.snapshot ↔ ∃ (k : Nat) (e₀ : Event), log[k]? = some e₀ ∧ e = e₀.resolve b.journal.pairs ∧
      b.recording.seq < e.seq + (Ring.ofSize size level).capacity := by
  have hsnapshot : b.snapshot =
      (log.rtake (Ring.ofSize size level).capacity).map (Event.resolve b.journal.pairs) := by
    rw [← Ring.ofSize_kept size level log, snapshot, h.recorded]
    exact List.append_nil _
  have hseq : b.recording.seq = seq + log.length := by rw [h.recorded]
  rw [hsnapshot, List.rtake, List.mem_map]
  constructor
  · rintro ⟨e₀, he₀, rfl⟩
    obtain ⟨k, hk⟩ := List.mem_iff_getElem?.mp he₀
    rw [List.getElem?_drop] at hk
    refine ⟨_, e₀, hk, rfl, ?_⟩
    rw [Event.resolve_seq, h.seqs _ e₀ hk, hseq]
    omega
  · rintro ⟨k, e₀, hk, rfl, hlt⟩
    rw [Event.resolve_seq, h.seqs k e₀ hk, hseq] at hlt
    obtain ⟨j, rfl⟩ : ∃ j, k = log.length - (Ring.ofSize size level).capacity + j :=
      ⟨k - (log.length - (Ring.ofSize size level).capacity), by omega⟩
    rw [← List.getElem?_drop] at hk
    exact ⟨e₀, List.mem_of_getElem? hk, rfl⟩

/-- Pairs that are shown have each key once. -/
theorem Sound.keys_nodup_snapshot (h : Sound (.ofSize size level) seq log b) {e : Event}
    (he : e ∈ b.snapshot) {ps : Pairs} (hps : e.extra = .own ps) : (ps.map Prod.fst).Nodup := by
  obtain ⟨k, e₀, hk, rfl, -⟩ := h.mem_snapshot_iff.mp he
  rcases h.refers e₀ (List.mem_of_getElem? hk) with hnone | ⟨-, s, hs, p, -, hp, hextra⟩
  · rw [Event.resolve_of_none hnone, hnone] at hps
    cases hps
  · rw [Event.resolve_of_span hextra, List.getElem?_eq_getElem (h.spans.owned s hs p hp).2] at hps
    rw [← Extra.own.inj hps]
    exact h.keys _ (List.getElem_mem _)

theorem Sound.extra_of_kind (h : Sound (.ofSize size level) seq log b) {e : Event}
    (he : e ∈ b.snapshot) (hkind : e.kind ≠ .finish) : e.extra = .none := by
  obtain ⟨k, e₀, hk, rfl, -⟩ := h.mem_snapshot_iff.mp he
  rw [Event.resolve_kind] at hkind
  rcases h.refers e₀ (List.mem_of_getElem? hk) with hnone | ⟨hfinish, -⟩
  · rw [Event.resolve_of_none hnone, hnone]
  · exact absurd hfinish hkind

/-- The event of a snapshot, if a later one still has it. -/
theorem Sound.later_snapshot {b' : Bench} {further : Nat → List (Text × Text)}
    (h : Sound (.ofSize size level) seq log b)
    (hrun : Leads (.ofSize size level) seq log b b' further) {e : Event} (he : e ∈ b.snapshot)
    (e' : Event) :
    e' ∈ b'.snapshot ∧ e'.seq = e.seq ↔
      e' = e.amended (further e.span) ∧
        b'.recording.seq < e.seq + (Ring.ofSize size level).capacity := by
  obtain ⟨more, hsound, hshown⟩ := hrun
  obtain ⟨k, e₀, hk, rfl, -⟩ := h.mem_snapshot_iff.mp he
  have hspan : (e₀.resolve b.journal.pairs).span = e₀.span := by
    unfold Event.resolve
    split <;> rfl
  rw [hspan, ← hshown e₀ (List.mem_of_getElem? hk), Event.resolve_seq]
  have hk' : (log ++ more)[k]? = some e₀ := by
    rw [List.getElem?_append_left (List.getElem?_eq_some_iff.mp hk).1, hk]
  constructor
  · rintro ⟨he', hseq⟩
    obtain ⟨m, e₁, hm, rfl, hlt⟩ := hsound.mem_snapshot_iff.mp he'
    rw [Event.resolve_seq] at hseq hlt
    -- Numbers give places in the log away.
    obtain rfl : m = k := by
      have hkseq := hsound.seqs k e₀ hk'
      have hmseq := hsound.seqs m e₁ hm
      omega
    obtain rfl := Option.some.inj (hm.symm.trans hk')
    exact ⟨rfl, hlt⟩
  · rintro ⟨rfl, hlt⟩
    rw [Event.resolve_seq]
    refine ⟨hsound.mem_snapshot_iff.mpr ⟨k, e₀, hk', rfl, ?_⟩, rfl⟩
    rwa [Event.resolve_seq]

end Bench

/-- An event that a ring tracer shows after some operations is shown after all further ones,
until it is displaced by as many events as the ring has room for.  It then has the same fields,
with all pairs set that its span was given meanwhile.  So it is the same event exactly if it has
no pairs or these were set to what they are, and always if it does not end a span. -/
theorem shown_events_follow_their_span (size : Int) (level : Level) (opened seq : Nat)
    (before after : List (Timestamp × SpanOp)) (e : Event)
    (he : e ∈ ((Bench.start size level opened seq).run before).snapshot) :
    let b := (Bench.start size level opened seq).run before
    let notes := b.notes e.span after
    (∀ e', e' ∈ (b.run after).snapshot ∧ e'.seq = e.seq ↔
      e' = e.amended notes ∧
        (b.run after).recording.seq < e.seq + (Ring.ofSize size level).capacity) ∧
    (e.amended notes = e ↔
      ∀ ps, e.extra = .own ps → ∀ k v, notes.reverse.lookup k = some v → ps.lookup k = some v) ∧
    (e.kind ≠ .finish → e.extra = .none ∧ e.amended notes = e) := by
  intro b notes
  obtain ⟨log, hsound, -⟩ := (Bench.sound_start size level opened seq).run before
  refine ⟨hsound.later_snapshot (hsound.run after) he, ?_, fun hkind => ?_⟩
  · exact Event.amended_eq_self_iff fun ps => hsound.keys_nodup_snapshot he
  · have hnone := hsound.extra_of_kind he hkind
    exact ⟨hnone, Event.amended_of_none hnone notes⟩

/-- A span is given a pair and ends. -/
def endedSpan : List (Timestamp × SpanOp) :=
  [(.unset, .begin .driver "lower" 0), (.unset, .annotate 0 "count" "1"),
    (.unset, .finish 0 "ok")]

def endedEvent (count : Text) : Event where
  seq := 2
  kind := .finish
  scope := .driver
  span := 1
  name := "lower"
  detail := "ok"
  extra := .own [("count", count)]

/-- The end event that a ring has already shown changes with its span. -/
theorem shown_event_changes :
    let b := (Bench.start 8 .debug 0 0).run endedSpan
    let b' := b.run [(.unset, .annotate 0 "count" "2")]
    b.snapshot[1]? = some (endedEvent "1") ∧ b'.snapshot[1]? = some (endedEvent "2") ∧
      b.recording = b'.recording ∧ endedEvent "1" ≠ endedEvent "2" := by
  decide +kernel

theorem endedEvent_followed :
    endedEvent "1" ∈ ((Bench.start 2 .debug 0 0).run endedSpan).snapshot ∧
    let b := (Bench.start 2 .debug 0 0).run endedSpan
    let after := [(.unset, .annotate 0 "count" "2"), (.unset, .point .error "late" "" 1)]
    endedEvent "2" ∈ (b.run after).snapshot ∧ endedEvent "1" ∉ (b.run after).snapshot := by
  have hmem : endedEvent "1" ∈ ((Bench.start 2 .debug 0 0).run endedSpan).snapshot := by
    decide +kernel
  obtain ⟨hlater, -⟩ := shown_events_follow_their_span 2 .debug 0 0 endedSpan
    [(.unset, .annotate 0 "count" "2"), (.unset, .point .error "late" "" 1)] _ hmem
  refine ⟨hmem, ((hlater _).mpr (by decide +kernel)).1, fun hold => ?_⟩
  exact absurd ((hlater _).mp ⟨hold, rfl⟩).1 (by decide +kernel)

end Trace
end FeltLowering
