import FeltLowering.Proofs.Codec.Json.Program
import FeltLowering.Proofs.Path
import FeltLowering.Proofs.Trace.Journal
import FeltLowering.Proofs.Trace.Pairs
import FeltLowering.Trace.Tracer

/-
Events on lines of JSON.

Strings are written without line breaks, whatever bytes they hold, so the written form of an
event is one line (`Event.newline_not_mem`) and what a ring dumps has one line for each event
(`Ring.dump_lines`).

A line whose texts are valid UTF-8 can be read back, so it determines the event but for the
order of its pairs (`Event.eq_of_render_eq`).  That order does not show in the line
(`Journal.lines_spanWith`).
-/
namespace FeltLowering

/-! ## Written on one line -/

namespace Json

theorem newline_not_mem_of_escape {n : Nat} {w : Text} (h : escape? n = some w) : 0x0A ∉ w := by
  have hcontrol : ∀ n < 0x20, 0x0A ∉ Text.ofString "\\u" ++ Text.hexLower 4 n := by decide
  unfold escape? at h
  split at h
  iterate 12 (· exact Option.some.inj h ▸ (by decide))
  · by_cases hn : n < 0x20
    · rw [if_pos hn] at h
      exact Option.some.inj h ▸ hcontrol n hn
    · rw [if_neg hn] at h
      cases h

theorem newline_not_mem_writeChar (c : Char) : 0x0A ∉ writeChar c := by
  unfold writeChar
  cases h : escape? c.toNat with
  | none =>
    intro hmem
    exact absurd (isPlain_of_escape?_eq_none h _ hmem).1 (by decide)
  | some w => exact newline_not_mem_of_escape h

theorem newline_not_mem_writeString (t : Text) : 0x0A ∉ writeString t := by
  intro hmem
  rw [← List.append_nil (writeString t), writeString_append] at hmem
  simp only [List.mem_cons, List.mem_append, List.mem_flatMap, List.not_mem_nil, or_false] at hmem
  rcases hmem with hquote | ⟨c, -, hc⟩ | hquote
  · exact absurd hquote (by decide)
  · exact newline_not_mem_writeChar c hc
  · exact absurd hquote (by decide)

theorem newline_not_mem_ofNat (n : Nat) : 0x0A ∉ write none (ofNat n) := by
  rw [ofNat, write]
  intro hmem
  exact absurd ((Text.ofNat_digits n).2 _ hmem) (by decide)

theorem newline_not_mem_string (t : Text) : 0x0A ∉ write none (.string t) := by
  rw [write]
  exact newline_not_mem_writeString t

theorem newline_not_mem_writeMembers {ms : List (Text × Json)}
    (h : ∀ m ∈ ms, 0x0A ∉ write none m.2) : 0x0A ∉ writeMembers none ms := by
  have hcolon : 0x0A ∉ colon none := by decide
  have hcomma : (0x0A : UInt8) ≠ 0x2C := by decide
  induction ms with
  | nil =>
    rw [writeMembers]
    exact List.not_mem_nil
  | cons m ms ih =>
    obtain ⟨hm, hms⟩ := List.forall_mem_cons.mp h
    have hkey := newline_not_mem_writeString m.1
    cases ms with
    | nil =>
      rw [writeMembers_singleton]
      simp only [lineBreak, List.nil_append, List.mem_append, hkey, hcolon, hm, or_false,
        not_false_eq_true]
    | cons m' ms =>
      rw [writeMembers_pair]
      simp only [lineBreak, List.nil_append, List.mem_append, List.mem_cons, hkey, hcolon, hm,
        hcomma, ih hms, or_false, not_false_eq_true]

theorem newline_not_mem_object {ms : List (Text × Json)} (h : ∀ m ∈ ms, 0x0A ∉ write none m.2) :
    0x0A ∉ write none (.object ms) := by
  cases ms with
  | nil =>
    rw [write]
    decide
  | cons m ms =>
    have hmembers := newline_not_mem_writeMembers h
    have hopen : (0x0A : UInt8) ≠ 0x7B := by decide
    have hclose : (0x0A : UInt8) ≠ 0x7D := by decide
    rw [write_object]
    simp only [lineBreak, List.nil_append, List.mem_append, List.mem_cons, List.not_mem_nil,
      Option.map_none, hmembers, hopen, hclose, or_false, not_false_eq_true]

def get? : Json → Text → Option Json
  | .object ms, k => ms.lookup k
  | _, _ => none

theorem lookup_cons_eq {k k' : Text} {v : Json} {ms : List (Text × Json)} :
    List.lookup k ((k', v) :: ms) = if k = k' then some v else ms.lookup k := by
  rw [List.lookup_cons]
  by_cases h : k = k'
  · rw [if_pos h, h, beq_self_eq_true]
  · rw [if_neg h, beq_false_of_ne h]

/-- What holds of a member holds if it is left out, too. -/
theorem forall_mem_optional {c : Prop} [Decidable c] {P : Text × Json → Prop} {m : Text × Json}
    (h : P m) : ∀ x ∈ (if c then [] else [m]), P x := by
  split
  · exact nofun
  · exact List.forall_mem_singleton.mpr h

theorem lookup_optional {c : Prop} [Decidable c] {k k' : Text} {v : Json} :
    List.lookup k (if c then [] else [(k', v)]) =
      if k = k' then (if c then none else some v) else none := by
  by_cases hc : c
  · rw [if_pos hc, if_pos hc, ite_self, List.lookup_nil]
  · rw [if_neg hc, if_neg hc, lookup_cons_eq, List.lookup_nil]

theorem ofNat_inj {m n : Nat} (h : ofNat m = ofNat n) : m = n :=
  Text.ofNat_injective (Json.number.inj h)

/-- What is left out or else written determines the value. -/
theorem eq_of_optional {α : Type} (absent : α → Prop) [DecidablePred absent] (write : α → Json)
    {x y : α} (habsent : absent x → absent y → x = y) (hwrite : write x = write y → x = y)
    (h : (if absent x then none else some (write x)) = if absent y then none else some (write y)) :
    x = y := by
  by_cases hx : absent x <;> by_cases hy : absent y
  · exact habsent hx hy
  · rw [if_pos hx, if_neg hy] at h
    cases h
  · rw [if_neg hx, if_pos hy] at h
    cases h
  · rw [if_neg hx, if_neg hy] at h
    exact hwrite (Option.some.inj h)

end Json

namespace Text

/-- Lines that are each ended. -/
theorem splitOn_lines {b : UInt8} {ls : List Text} (h : ∀ l ∈ ls, b ∉ l) :
    splitOn b (ls.flatMap (· ++ [b])) = ls ++ [[]] := by
  induction ls with
  | nil => rfl
  | cons l ls ih =>
    obtain ⟨hl, hls⟩ := List.forall_mem_cons.mp h
    rw [List.flatMap_cons, List.append_assoc, List.singleton_append, splitOn_append_sep,
      splitOn_of_not_mem hl, ih hls, List.singleton_append, List.cons_append]

end Text

namespace Trace

namespace Event

theorem newline_not_mem (e : Event) : 0x0A ∉ e.toJson.compact := by
  have hpairs : 0x0A ∉ (Json.object (e.ownPairs.sorted.map fun p => (p.1, .string p.2))).write none := by
    refine Json.newline_not_mem_object fun m hm => ?_
    obtain ⟨p, -, rfl⟩ := List.mem_map.mp hm
    exact Json.newline_not_mem_string p.2
  refine Json.newline_not_mem_object ?_
  simp only [List.forall_mem_append, List.forall_mem_cons, List.not_mem_nil, false_implies,
    implies_true, and_true]
  refine ⟨⟨⟨⟨⟨?_, ?_⟩, ?_⟩, ?_⟩, ?_⟩, ?_⟩
  · exact ⟨Json.newline_not_mem_string _, Json.newline_not_mem_ofNat _,
      Json.newline_not_mem_string _, Json.newline_not_mem_string _⟩
  · exact Json.forall_mem_optional (Json.newline_not_mem_ofNat _)
  · exact Json.forall_mem_optional (Json.newline_not_mem_ofNat _)
  · exact Json.newline_not_mem_string _
  · exact Json.forall_mem_optional (Json.newline_not_mem_string _)
  · exact Json.forall_mem_optional hpairs

end Event

/-! ## Dumps -/

/-- The sink accepts `n` more writes. -/
def Sink.Takes (s : Sink) (n : Nat) : Prop :=
  s.refuses.contains .write = false ∧ ∀ limit ∈ s.limit, s.writes + n ≤ limit

theorem Sink.write_of_takes {s : Sink} {n : Nat} (h : s.Takes (n + 1)) (t : Text) :
    s.write t = .ok { s with writes := s.writes + 1, written := s.written ++ t } := by
  have haccepts : s.accepts = true := by
    obtain ⟨hrefuses, hlimit⟩ := h
    rw [accepts, hrefuses]
    cases hs : s.limit with
    | none => rfl
    | some limit =>
      have := hlimit limit hs
      exact decide_eq_true (by omega)
  rw [Sink.write, if_pos haccepts]

namespace Ring

/-- Run: a sink that accepts all writes gets all events. -/
theorem writeAll_eq {f : Format} {es : List Event} {s : Sink} (h : s.Takes es.length) :
    writeAll f es s =
      ({ s with writes := s.writes + es.length, written := s.written ++ es.flatMap (Event.render f) },
        []) := by
  induction es generalizing s with
  | nil =>
    rw [writeAll, List.flatMap_nil, List.append_nil]
    rfl
  | cons e es ih =>
    rw [List.length_cons] at h
    have hrest : Sink.Takes { s with
        writes := s.writes + 1
        written := s.written ++ e.render f } es.length := by
      refine ⟨h.1, fun limit hlimit => ?_⟩
      have := h.2 limit hlimit
      show s.writes + 1 + es.length ≤ limit
      omega
    rw [writeAll, Sink.write_of_takes h]
    dsimp only
    rw [ih hrest, List.length_cons, List.flatMap_cons, List.append_assoc, Nat.add_assoc,
      Nat.add_comm 1]

/-- A dump has one line for each event. -/
theorem dump_lines {pairs : List Pairs} {r : Ring} {s : Sink} (h : s.Takes r.kept.length) :
    ∃ body lines,
      r.dump pairs .ndjson s =
        ({ s with writes := s.writes + r.kept.length, written := s.written ++ body }, []) ∧
      Text.splitOn 0x0A body = lines ++ [[]] ∧
      lines.map (· ++ [0x0A]) = (r.snapshot pairs).map (Event.render .ndjson) := by
  have hlength : (r.snapshot pairs).length = r.kept.length := List.length_map _
  have hlines : ∀ l ∈ (r.snapshot pairs).map (·.toJson.compact), 0x0A ∉ l := by
    intro l hl
    obtain ⟨e, -, rfl⟩ := List.mem_map.mp hl
    exact e.newline_not_mem
  refine ⟨_, (r.snapshot pairs).map (·.toJson.compact), ?_, Text.splitOn_lines hlines, ?_⟩
  · rw [dump, writeAll_eq (hlength ▸ h), hlength, List.flatMap_map]
    rfl
  · rw [List.map_map]
    rfl

end Ring

/-! ## Lines read back -/

namespace Timestamp

theorem isValid_digits (width n : Nat) : (digits width n).isValid = true := by
  have hzeros : ∀ m, Text.fill m 0x30 = Text.ofChars (List.replicate m '0') := by
    intro m
    induction m with
    | zero => rfl
    | succ m ih =>
      rw [List.replicate_succ, Text.ofChars, List.flatMap_cons, ← Text.ofChars, ← ih]
      rfl
  exact Text.isValid_append (Text.isValid_iff.mpr ⟨_, hzeros _⟩) (Text.isValid_iff.mpr ⟨_, rfl⟩)

theorem isValid_zoneText (zone : Int) : (zoneText zone).isValid = true := by
  unfold zoneText
  split
  · exact Json.isValid_ofString "Z"
  · exact Text.isValid_append (Text.isValid_append (Text.isValid_append (Json.isValid_ofString _)
      (isValid_digits _ _)) (Json.isValid_ofString ":")) (isValid_digits _ _)

theorem isValid_yearText (year : Int) : (yearText year).isValid = true :=
  Text.isValid_append (Json.isValid_ofString _) (isValid_digits _ _)

theorem isValid_text (t : Timestamp) : t.text.isValid = true := by
  have hnext : ∀ {u : Text} (s : String) (width n : Nat), u.isValid = true →
      (u ++ Text.ofString s ++ digits width n).isValid = true := fun s width n hu =>
    Text.isValid_append (Text.isValid_append hu (Json.isValid_ofString s)) (isValid_digits width n)
  unfold text
  dsimp only
  exact Text.isValid_append (hnext _ _ _ (hnext _ _ _ (hnext _ _ _ (hnext _ _ _ (hnext _ _ _
    (hnext _ _ _ (isValid_yearText _))))))) (isValid_zoneText _)

end Timestamp

/-- Events whose kind and scope have names and whose texts are valid UTF-8. -/
structure Event.IsLegible (e : Event) : Prop where
  kind : ∀ code, e.kind ≠ .unnamed code
  scope : ∀ rank, e.scope ≠ .unnamed rank
  name : e.name.isValid = true
  detail : e.detail.isValid = true
  pairs : ∀ p ∈ e.ownPairs, p.1.isValid = true ∧ p.2.isValid = true

theorem Kind.eq_of_text {k k' : Kind} (h : ∀ code, k ≠ .unnamed code)
    (h' : ∀ code, k' ≠ .unnamed code) (htext : k.text = k'.text) : k = k' := by
  cases k with
  | unnamed code => exact absurd rfl (h code)
  | _ =>
    cases k' with
    | unnamed code => exact absurd rfl (h' code)
    | _ => first | rfl | exact absurd htext (by decide)

theorem Scope.eq_of_text {s s' : Scope} (h : ∀ rank, s ≠ .unnamed rank)
    (h' : ∀ rank, s' ≠ .unnamed rank) (htext : s.text = s'.text) : s = s' := by
  cases s with
  | unnamed rank => exact absurd rfl (h rank)
  | _ =>
    cases s' with
    | unnamed rank => exact absurd rfl (h' rank)
    | _ => first | rfl | exact absurd htext (by decide)

theorem Kind.isValid_text (k : Kind) : k.text.isValid = true := by
  cases k <;> exact Json.isValid_ofString _

theorem Scope.isValid_text (s : Scope) : s.text.isValid = true := by
  cases s <;> exact Json.isValid_ofString _

namespace Pairs

theorem isEmpty_sorted (ps : Pairs) : ps.sorted.isEmpty = ps.isEmpty :=
  (List.mergeSort_perm ps keyLe).isEmpty_eq

def toObject (ps : Pairs) : Json := .object (ps.map fun p => (p.1, .string p.2))

theorem toObject_inj {ps qs : Pairs} (h : ps.toObject = qs.toObject) : ps = qs := by
  refine List.map_injective_iff.mpr (fun p q hpq => ?_) (Json.object.inj h)
  obtain ⟨hkey, hvalue⟩ := Prod.mk.inj hpq
  exact Prod.ext hkey (Json.string.inj hvalue)

end Pairs

namespace Event

theorem readable_toJson {e : Event} (h : e.IsLegible) (d : Nat) : Json.Readable (d + 2) e.toJson := by
  have hpairs : Json.ReadableMembers d (e.ownPairs.sorted.map fun p => (p.1, .string p.2)) := by
    intro m hm
    obtain ⟨p, hp, rfl⟩ := List.mem_map.mp hm
    obtain ⟨hkey, hvalue⟩ := h.pairs p ((List.mergeSort_perm _ _).mem_iff.mp hp)
    exact ⟨hkey, .string hvalue⟩
  refine Json.ReadableMembers.object (.append (.append (.append (.append (.append ?_ ?_) ?_) ?_) ?_) ?_)
  · exact .cons (.string e.time.isValid_text) (.cons (.number _)
      (.cons (.string e.kind.isValid_text) (.cons (.string e.scope.isValid_text) .nil)))
  · exact Json.forall_mem_optional ⟨Json.isValid_ofString _, .number _⟩
  · exact Json.forall_mem_optional ⟨Json.isValid_ofString _, .number _⟩
  · exact .cons (.string h.name) .nil
  · exact Json.forall_mem_optional ⟨Json.isValid_ofString _, .string h.detail⟩
  · exact Json.forall_mem_optional ⟨Json.isValid_ofString _, hpairs.object⟩

theorem toJson_eq_of_render_eq {a b : Event} (ha : a.IsLegible) (hb : b.IsLegible)
    (h : a.render .ndjson = b.render .ndjson) : a.toJson = b.toJson := by
  have hcompact : a.toJson.compact = b.toJson.compact := List.append_cancel_right h
  have hread : ∀ {e : Event}, e.IsLegible → Json.parseFirst? e.toJson.compact = some e.toJson :=
    fun he => Json.parseFirst?_write (readable_toJson he (Json.maxDepth - 2)) none
  have hjson := hread ha
  rw [hcompact, hread hb] at hjson
  exact (Option.some.inj hjson).symm

/-- What stands under each key. -/
theorem get?_toJson (e : Event) :
    e.toJson.get? "seq" = some (.ofNat e.seq) ∧
    e.toJson.get? "kind" = some (.string e.kind.text) ∧
    e.toJson.get? "scope" = some (.string e.scope.text) ∧
    e.toJson.get? "span_id" = (if e.span = 0 then none else some (.ofNat e.span)) ∧
    e.toJson.get? "parent_id" = (if e.parent = 0 then none else some (.ofNat e.parent)) ∧
    e.toJson.get? "name" = some (.string e.name) ∧
    e.toJson.get? "detail" = (if e.detail.isEmpty then none else some (.string e.detail)) ∧
    e.toJson.get? "extra" =
      (if e.ownPairs.isEmpty then none else some e.ownPairs.sorted.toObject) := by
  refine ⟨?_, ?_, ?_, ?_, ?_, ?_, ?_, ?_⟩ <;>
    simp +decide only [toJson, Pairs.toObject, Json.get?, List.lookup_append, Json.lookup_cons_eq, List.lookup_nil,
      Json.lookup_optional, if_true, if_false, Option.none_or, Option.or_none]

/-- A line determines the event but for the order of its pairs. -/
theorem eq_of_render_eq {a b : Event} (ha : a.IsLegible) (hb : b.IsLegible)
    (h : a.render .ndjson = b.render .ndjson) :
    a.seq = b.seq ∧ a.kind = b.kind ∧ a.scope = b.scope ∧ a.span = b.span ∧ a.parent = b.parent ∧
      a.name = b.name ∧ a.detail = b.detail ∧ a.ownPairs.sorted = b.ownPairs.sorted := by
  have hempty : ∀ {α : Type} {x y : List α}, x.isEmpty = true → y.isEmpty = true → x = y :=
    fun hx hy => (List.isEmpty_iff.mp hx).trans (List.isEmpty_iff.mp hy).symm
  obtain ⟨hseq, hkind, hscope, hspan, hparent, hname, hdetail, hextra⟩ := a.get?_toJson
  rw [toJson_eq_of_render_eq ha hb h] at hseq hkind hscope hspan hparent hname hdetail hextra
  obtain ⟨hseq', hkind', hscope', hspan', hparent', hname', hdetail', hextra'⟩ := b.get?_toJson
  rw [← Pairs.isEmpty_sorted] at hextra hextra'
  refine ⟨?_, ?_, ?_, ?_, ?_, ?_, ?_, ?_⟩
  · exact Json.ofNat_inj (Option.some.inj (hseq.symm.trans hseq'))
  · exact Kind.eq_of_text ha.kind hb.kind
      (Json.string.inj (Option.some.inj (hkind.symm.trans hkind')))
  · exact Scope.eq_of_text ha.scope hb.scope
      (Json.string.inj (Option.some.inj (hscope.symm.trans hscope')))
  · exact Json.eq_of_optional (· = 0) .ofNat (fun hx hy => hx.trans hy.symm) Json.ofNat_inj
      (hspan.symm.trans hspan')
  · exact Json.eq_of_optional (· = 0) .ofNat (fun hx hy => hx.trans hy.symm) Json.ofNat_inj
      (hparent.symm.trans hparent')
  · exact Json.string.inj (Option.some.inj (hname.symm.trans hname'))
  · exact Json.eq_of_optional (·.isEmpty = true) .string hempty Json.string.inj
      (hdetail.symm.trans hdetail')
  · exact Json.eq_of_optional (·.isEmpty = true) Pairs.toObject hempty Pairs.toObject_inj
      (hextra.symm.trans hextra')

end Event

/-! ## The order of pairs -/

namespace Event

/-- The line of an event shows its pairs in order of their keys. -/
theorem render_own_congr (e : Event) {ps qs : Pairs} (h : ps.sorted = qs.sorted) :
    render .ndjson { e with extra := .own ps } = render .ndjson { e with extra := .own qs } := by
  have hempty : ps.isEmpty = qs.isEmpty := by
    rw [← Pairs.isEmpty_sorted, h, Pairs.isEmpty_sorted]
  have hjson : toJson { e with extra := .own ps } = toJson { e with extra := .own qs } := by
    show Json.object (_ ++ if ps.isEmpty then [] else [(_, ps.sorted.toObject)]) =
      Json.object (_ ++ if qs.isEmpty then [] else [(_, qs.sorted.toObject)])
    rw [h, hempty]
  unfold render
  rw [hjson]

theorem render_resolve_congr {pairs pairs' : List Pairs}
    (h : ∀ i : Nat, (pairs[i]?.getD []).sorted = (pairs'[i]?.getD []).sorted) (e : Event) :
    (e.resolve pairs).render .ndjson = (e.resolve pairs').render .ndjson := by
  unfold resolve
  split
  · exact e.render_own_congr (h _)
  · rfl

end Event

namespace Journal

/-- Sets pairs of a span in turn. -/
def annotateAll (j : Journal) (s : Span) (xs : List (Text × Text)) : Span × Journal :=
  xs.foldl (fun sj x => sj.2.annotate sj.1 x.1 x.2) (s, j)

/-- Opens a span, sets its pairs in turn and closes it. -/
def spanWith (j : Journal) (scope : Scope) (name : Text) (parent : Nat) (xs : List (Text × Text))
    (detail : Text) : Journal :=
  let opened := j.begin scope name parent
  let noted := opened.2.annotateAll opened.1 xs
  noted.2.finish noted.1 detail

def lines (j : Journal) : List Text := j.events.map fun e => (e.resolve j.pairs).render .ndjson

section Annotate

variable {j : Journal} {s : Span} (xs : List (Text × Text))

theorem annotateAll_of_not_live (h : s.live = false) : j.annotateAll s xs = (s, j) := by
  induction xs with
  | nil => rfl
  | cons x xs ih =>
    have hstep : j.annotate s x.1 x.2 = (s, j) := by
      rw [annotate, if_neg (by simp [h])]
    rw [annotateAll, List.foldl_cons, hstep]
    exact ih

theorem modify_concat (before : List Pairs) (ps : Pairs) (f : Pairs → Pairs) :
    (before ++ [ps]).modify before.length f = before ++ [f ps] := by
  induction before with
  | nil => rfl
  | cons p before ih => exact congrArg (List.cons p) ih

theorem annotateAll_of_some {before : List Pairs} {ps : Pairs} (h : s.live = true)
    (hpairs : s.pairs = some before.length) (hj : j.pairs = before ++ [ps]) :
    j.annotateAll s xs = (s, { j with pairs := before ++ [ps.putAll xs] }) := by
  induction xs generalizing j ps with
  | nil =>
    rw [Pairs.putAll, List.foldl_nil, ← hj]
    rfl
  | cons x xs ih =>
    have hstep : j.annotate s x.1 x.2 = (s, { j with pairs := before ++ [ps.put x.1 x.2] }) := by
      rw [annotate, if_pos h, hpairs]
      dsimp only
      rw [hj, modify_concat]
    rw [annotateAll, List.foldl_cons, hstep]
    exact ih rfl

theorem annotateAll_of_none (h : s.live = true) (hpairs : s.pairs = none) (x : Text × Text) :
    j.annotateAll s (x :: xs) =
      ({ s with pairs := some j.pairs.length },
        { j with pairs := j.pairs ++ [Pairs.putAll [] (x :: xs)] }) := by
  have hstep : j.annotate s x.1 x.2 =
      ({ s with pairs := some j.pairs.length }, { j with pairs := j.pairs ++ [[x]] }) := by
    rw [annotate, if_pos h, hpairs]
  rw [annotateAll, List.foldl_cons, hstep]
  exact annotateAll_of_some xs h rfl rfl

end Annotate

theorem lines_congr {j j' : Journal} (hevents : j.events = j'.events)
    (h : ∀ i : Nat, (j.pairs[i]?.getD []).sorted = (j'.pairs[i]?.getD []).sorted) :
    j.lines = j'.lines := by
  unfold lines
  rw [hevents]
  exact List.map_congr_left fun e _ => e.render_resolve_congr h

theorem sorted_getElem?_concat {ps qs : Pairs} (h : ps.sorted = qs.sorted) (before : List Pairs)
    (i : Nat) :
    ((before ++ [ps])[i]?.getD []).sorted = ((before ++ [qs])[i]?.getD []).sorted := by
  rcases Nat.lt_or_ge i before.length with hi | hi
  · rw [List.getElem?_append_left hi, List.getElem?_append_left hi]
  · rw [List.getElem?_append_right hi, List.getElem?_append_right hi]
    cases i - before.length with
    | zero => exact h
    | succ _ => rfl

/-- Lines do not show in which order the pairs of a span were set. -/
theorem lines_spanWith (j : Journal) (scope : Scope) (name : Text) (parent : Nat) (detail : Text)
    {xs ys : List (Text × Text)} (h : ∀ k, xs.reverse.lookup k = ys.reverse.lookup k) :
    (j.spanWith scope name parent xs detail).lines =
      (j.spanWith scope name parent ys detail).lines := by
  cases hp : j.level.passes scope with
  | false =>
    unfold spanWith
    rw [begin_of_quiet hp]
    dsimp only
    rw [annotateAll_of_not_live xs rfl, annotateAll_of_not_live ys rfl]
  | true =>
    have hsorted := Pairs.sorted_putAll_congr h
    unfold spanWith
    rw [begin_of_passes hp]
    cases xs with
    | nil =>
      have hys : ys = [] := List.reverse_eq_nil_iff.mp (Pairs.eq_nil_of_lookup fun k => (h k).symm)
      rw [hys]
    | cons x xs =>
      cases ys with
      | nil => exact absurd (Pairs.eq_nil_of_lookup h) (by simp)
      | cons y ys =>
        dsimp only
        rw [annotateAll_of_none xs rfl rfl, annotateAll_of_none ys rfl rfl]
        exact lines_congr rfl (sorted_getElem?_concat hsorted _)

end Journal

/-- An event is written on one line, whatever bytes it holds, and a ring that dumps into a sink
that takes everything writes one line for each event, in order.  If kinds and scopes have names
and all texts are valid UTF-8, equal lines come from events that agree in all but their times
and the order of their pairs; and that order does not show, if each key has the same last
value. -/
theorem ndjson_lines_framed_and_lossless :
    (∀ e : Event, (e.render .ndjson).count 0x0A = 1 ∧
      (e.render .ndjson).getLast? = some 0x0A) ∧
    (∀ (pairs : List Pairs) (r : Ring) (s : Sink), s.Takes r.kept.length → ∃ body lines,
      r.dump pairs .ndjson s =
        ({ s with writes := s.writes + r.kept.length, written := s.written ++ body }, []) ∧
      Text.splitOn 0x0A body = lines ++ [[]] ∧ lines.length = r.kept.length ∧
      lines.map (· ++ [0x0A]) = (r.snapshot pairs).map (Event.render .ndjson)) ∧
    (∀ a b : Event, a.IsLegible → b.IsLegible → a.render .ndjson = b.render .ndjson →
      a.seq = b.seq ∧ a.kind = b.kind ∧ a.scope = b.scope ∧ a.span = b.span ∧
        a.parent = b.parent ∧ a.name = b.name ∧ a.detail = b.detail ∧
        ∀ k, a.ownPairs.lookup k = b.ownPairs.lookup k) ∧
    ∀ (j : Journal) (scope : Scope) (name : Text) (parent : Nat) (detail : Text)
      (xs ys : List (Text × Text)), (∀ k, xs.reverse.lookup k = ys.reverse.lookup k) →
      (j.spanWith scope name parent xs detail).lines =
        (j.spanWith scope name parent ys detail).lines := by
  refine ⟨fun e => ?_, fun pairs r s hs => ?_, fun a b ha hb h => ?_, ?_⟩
  · have hbody : (e.toJson.compact).count 0x0A = 0 := List.count_eq_zero.mpr e.newline_not_mem
    refine ⟨?_, List.getLast?_concat⟩
    rw [Event.render, List.count_append, hbody]
    rfl
  · obtain ⟨body, lines, hdump, hsplit, hlines⟩ := r.dump_lines hs
    refine ⟨body, lines, hdump, hsplit, ?_, hlines⟩
    have hlength := congrArg List.length hlines
    rwa [List.length_map, List.length_map, Ring.snapshot, List.length_map] at hlength
  · obtain ⟨hseq, hkind, hscope, hspan, hparent, hname, hdetail, hpairs⟩ :=
      Event.eq_of_render_eq ha hb h
    refine ⟨hseq, hkind, hscope, hspan, hparent, hname, hdetail, fun k => ?_⟩
    rw [← Pairs.lookup_sorted, hpairs, Pairs.lookup_sorted]
  · intro j scope name parent detail xs ys h
    exact j.lines_spanWith scope name parent detail h

/-- An event with line breaks, quotes and characters of several bytes in its texts. -/
def unusualEvent (pairs : Pairs) : Event :=
  { seq := 7, kind := .finish, scope := .pass, span := 2, parent := 1, name := unusualText,
    detail := unusualText, extra := .own pairs }

def setFirst : Pairs := [(Text.ofString "a", unusualText), (Text.ofString "b", [])]

def setLast : Pairs := [(Text.ofString "b", []), (Text.ofString "a", unusualText)]

theorem unusualEvents_lines :
    (unusualEvent setFirst).IsLegible ∧ (unusualEvent setLast).IsLegible ∧
      unusualEvent setFirst ≠ unusualEvent setLast ∧
      (unusualEvent setFirst).render .ndjson = (unusualEvent setLast).render .ndjson ∧
      (∀ k, setFirst.lookup k = setLast.lookup k) ∧
      Sink.Takes {} 2 ∧
      (∃ body lines,
        Ring.dump [] ⟨2, .phase, [unusualEvent setFirst, unusualEvent setLast]⟩ .ndjson {} =
          ({ writes := 2, written := body }, []) ∧
        Text.splitOn 0x0A body = lines ++ [[]] ∧ lines.length = 2) ∧
      ((Journal.spanWith { level := .phase } .pass unusualText 1 setFirst []).lines =
        (Journal.spanWith { level := .phase } .pass unusualText 1 setLast []).lines) := by
  obtain ⟨-, hdump, hlossless, horder⟩ := ndjson_lines_framed_and_lossless
  have hvalid : unusualText.isValid = true := Text.isValid_iff.mpr ⟨_, rfl⟩
  have hnil : Text.isValid [] = true := Text.isValid_iff.mpr ⟨[], rfl⟩
  have hkeys : ∀ k, setFirst.reverse.lookup k = setLast.reverse.lookup k := by
    intro k
    have hne : Text.ofString "a" ≠ Text.ofString "b" := by decide
    show List.lookup k setLast = List.lookup k setFirst
    rw [setFirst, setLast, List.lookup_cons, List.lookup_cons, List.lookup_cons, List.lookup_cons]
    by_cases ha : k = Text.ofString "a"
    · rw [ha, beq_false_of_ne hne, beq_self_eq_true]
    · rw [beq_false_of_ne ha]
  have hsorted : setFirst.sorted = setLast.sorted := Pairs.sorted_putAll_congr hkeys
  have hfirst : (unusualEvent setFirst).IsLegible :=
    ⟨nofun, nofun, hvalid, hvalid, List.forall_mem_cons.mpr ⟨⟨Json.isValid_ofString _, hvalid⟩,
      List.forall_mem_singleton.mpr ⟨Json.isValid_ofString _, hnil⟩⟩⟩
  have hlast : (unusualEvent setLast).IsLegible :=
    ⟨nofun, nofun, hvalid, hvalid, List.forall_mem_cons.mpr ⟨⟨Json.isValid_ofString _, hnil⟩,
      List.forall_mem_singleton.mpr ⟨Json.isValid_ofString _, hvalid⟩⟩⟩
  have hline := (unusualEvent []).render_own_congr hsorted
  have htakes : Sink.Takes {} 2 := ⟨rfl, nofun⟩
  obtain ⟨body, lines, hbody, hsplit, hlength, -⟩ :=
    hdump [] ⟨2, .phase, [unusualEvent setFirst, unusualEvent setLast]⟩ {} htakes
  refine ⟨hfirst, hlast, by decide, hline, ?_, htakes, ⟨body, lines, hbody, hsplit, hlength⟩, ?_⟩
  · exact (hlossless _ _ hfirst hlast hline).2.2.2.2.2.2.2
  · exact horder { level := .phase } .pass unusualText 1 [] setFirst setLast hkeys

end Trace
end FeltLowering
