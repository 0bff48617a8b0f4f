import FeltLowering.Cli.Build
import FeltLowering.Proofs.FileTree

/-
Actions run on a console.

What an action does to the console is followed step by step.  An action that lowers a
program writes to the trace, and the trace may be a file, so the files change; `Traces`
says which trees a console can come to in this way.
-/
namespace FeltLowering
namespace Cli

namespace Action

variable {α β ε : Type} {c c' : Console}

def on (a : Action α) (c : Console) : Except Failure α × Console := a.run.run c

theorem ext_on {a b : Action α} (h : ∀ c, a.on c = b.on c) : a = b := funext h

theorem on_get (c : Console) : (get : Action Console).on c = (.ok c, c) := rfl

theorem on_set (c c' : Console) : (set c' : Action PUnit).on c = (.ok ⟨⟩, c') := rfl

theorem on_bind_ok {a : Action α} {x : α} (h : a.on c = (.ok x, c')) (f : α → Action β) :
    (a >>= f).on c = (f x).on c' := by
  show (ExceptT.bindCont f (a.on c).1).run (a.on c).2 = _
  rw [h]
  rfl

theorem on_bind_error {a : Action α} {e : Failure} (h : a.on c = (.error e, c')) (f : α → Action β) :
    (a >>= f).on c = (.error e, c') := by
  show (ExceptT.bindCont f (a.on c).1).run (a.on c).2 = _
  rw [h]
  rfl

theorem on_attempt (a : Action α) (c : Console) : (attempt a).on c = (.ok (a.on c).1, (a.on c).2) := rfl

theorem on_require_ok (because : ε → Failure) (x : α) (c : Console) :
    (require because (.ok x)).on c = (.ok x, c) := rfl

end Action

/-! ## The trace -/

namespace Console

/-- The file trees a console can come to by writing its trace. -/
inductive Traces (c : Console) : FileTree → Prop
  | start : Traces c c.host.files
  | append {t t' : FileTree} {path content more : Text} (h : Traces c t) (hpath : c.traceFile = some path)
      (hread : t.read c.host.cwd path = .ok content)
      (hwrite : t.write c.host.cwd path (content ++ more) = .ok t') : Traces c t'

/-- A later console, with more in its trace and its logs. -/
structure Continues (c c' : Console) : Prop where
  cwd : c'.host.cwd = c.host.cwd
  traceFile : c'.traceFile = c.traceFile
  files : c.Traces c'.host.files

namespace Continues

variable {c c' c'' : Console}

/-- Nothing but logs has changed. -/
theorem of_eq (hhost : c'.host = c.host) (htrace : c'.traceFile = c.traceFile) : c.Continues c' :=
  ⟨hhost ▸ rfl, htrace, hhost ▸ .start⟩

theorem refl (c : Console) : c.Continues c := of_eq rfl rfl

theorem traces (h : c.Continues c') {t : FileTree} (ht : c'.Traces t) : c.Traces t := by
  induction ht with
  | start => exact h.files
  | append _ hpath hread hwrite ih =>
    rw [h.cwd] at hread hwrite
    exact .append ih (h.traceFile ▸ hpath) hread hwrite

theorem trans (h : c.Continues c') (h' : c'.Continues c'') : c.Continues c'' :=
  ⟨h'.cwd.trans h.cwd, h'.traceFile.trans h.traceFile, h.traces h'.files⟩

end Continues

theorem continues_append {c : Console} {path : Text} (hpath : c.traceFile = some path) (more : Text) :
    c.Continues (c.append path more) := by
  unfold append
  cases hread : c.host.files.read c.host.cwd path with
  | error fault => exact .refl c
  | ok content =>
    cases hwrite : c.host.files.write c.host.cwd path (content ++ more) with
    | error fault =>
      simp only [hwrite]
      exact .refl c
    | ok files =>
      simp only [hwrite]
      exact ⟨rfl, rfl, .append .start hpath hread hwrite⟩

theorem continues_drain (c : Console) : c.Continues c.drain := by
  unfold drain
  simp only
  split
  · exact .of_eq rfl rfl
  · next path hpath =>
    refine Continues.trans ?_ (continues_append ?_ _)
    · exact .of_eq rfl rfl
    · exact hpath

theorem continues_adopt (c : Console) (j : Trace.Journal) : c.Continues (c.adopt j) := by
  refine Continues.trans ?_ (continues_drain _)
  exact .of_eq rfl rfl

theorem continues_debug (c : Console) (message : Text) : c.Continues (c.debug message) := by
  unfold debug
  split <;> exact .of_eq rfl rfl

end Console

/-- The action gives `x` and leaves a later console. -/
def Action.Gives {α : Type} (a : Action α) (c : Console) (x : α) : Prop :=
  ∃ c', a.on c = (.ok x, c') ∧ c.Continues c'

namespace Action

variable {α β : Type} {c : Console}

theorem Gives.bind {a : Action α} {f : α → Action β} {x : α} {y : β} (h : a.Gives c x)
    (hf : ∀ c', c.Continues c' → (f x).Gives c' y) : (a >>= f).Gives c y := by
  obtain ⟨c', ha, hc⟩ := h
  obtain ⟨c'', hfx, hc'⟩ := hf c' hc
  exact ⟨c'', (on_bind_ok ha f).trans hfx, hc.trans hc'⟩

theorem Gives.fst_eq {a : Action α} {x : α} (h : a.Gives c x) : (a.on c).1 = .ok x := by
  obtain ⟨c', hon, -⟩ := h
  rw [hon]

theorem gives_pure (x : α) (c : Console) : (pure x : Action α).Gives c x := ⟨c, rfl, .refl c⟩

theorem gives_get (c : Console) : (get : Action Console).Gives c c := ⟨c, rfl, .refl c⟩

theorem gives_modify {f : Console → Console} (h : c.Continues (f c)) :
    (modify f : Action PUnit).Gives c ⟨⟩ :=
  ⟨f c, rfl, h⟩

theorem Gives.attempt {a : Action α} {x : α} (h : a.Gives c x) : (Action.attempt a).Gives c (.ok x) := by
  obtain ⟨c', ha, hc⟩ := h
  refine ⟨c', ?_, hc⟩
  rw [on_attempt, ha]

end Action

namespace Console

/-- The input holds the program, whatever has been written to the trace by then. -/
def Decodes (c : Console) (input : Text) (p : Program) : Prop :=
  ∀ t, c.Traces t → Codec.decodeFile t c.host.cwd input = .ok p

theorem Traces.resolve_eq {c : Console} {t : FileTree} (h : c.Traces t) (p : Text) :
    t.resolve c.host.cwd p = c.host.files.resolve c.host.cwd p := by
  induction h with
  | start => rfl
  | append _ _ hread hwrite ih =>
    obtain ⟨q, hq, hplace, hfile⟩ := FileTree.get?_of_read hread
    obtain ⟨-, rfl⟩ := FileTree.put_of_write hplace hwrite
    rw [FileTree.resolve_put_over hq hfile, ih]

/-- A trace that is written elsewhere does not change what an input holds. -/
theorem Traces.read_eq {c : Console} {t : FileTree} {input : Text} {place : List Text}
    (hapart : ∀ path, c.traceFile = some path →
      c.host.files.resolve c.host.cwd path ≠ c.host.files.resolve c.host.cwd input)
    (hinput : c.host.files.resolve c.host.cwd input = .ok place) (h : c.Traces t) :
    t.read c.host.cwd input = c.host.files.read c.host.cwd input := by
  induction h with
  | start => rfl
  | append ht hpath hread hwrite ih =>
    obtain ⟨q, hq, htrace, hfile⟩ := FileTree.get?_of_read hread
    obtain ⟨-, rfl⟩ := FileTree.put_of_write htrace hwrite
    have hinput' := (ht.resolve_eq input).trans hinput
    have hne : FileTree.pathOf place ≠ FileTree.pathOf q := by
      intro heq
      obtain rfl := FileTree.pathOf_inj (FileTree.isPlace_of_resolve hinput')
        (FileTree.isPlace_of_resolve htrace) heq
      exact hapart _ hpath ((ht.resolve_eq _).symm.trans (htrace.trans hinput.symm))
    rw [FileTree.read_put_over hq hfile hinput' hne, ih]

/-- With the trace elsewhere it is enough that the input decodes once. -/
theorem decodes_of_apart {c : Console} {input : Text} {p : Program}
    (hapart : ∀ path, c.traceFile = some path →
      c.host.files.resolve c.host.cwd path ≠ c.host.files.resolve c.host.cwd input)
    (h : Codec.decodeFile c.host.files c.host.cwd input = .ok p) : c.Decodes input p := by
  intro t ht
  have hread : ∃ content, c.host.files.read c.host.cwd input = .ok content := by
    unfold Codec.decodeFile at h
    split at h
    · exact absurd h (by simp)
    · split at h
      · exact absurd h (by simp)
      · next content hread => exact ⟨content, hread⟩
  obtain ⟨content, hread⟩ := hread
  obtain ⟨place, -, hplace, -⟩ := FileTree.get?_of_read hread
  unfold Codec.decodeFile at h ⊢
  rw [ht.read_eq hapart hplace]
  exact h

theorem Continues.decodes {c c' : Console} {input : Text} {p : Program} (h : c.Continues c')
    (hinput : c.Decodes input p) : c'.Decodes input p := by
  intro t ht
  rw [h.cwd]
  exact hinput t (h.traces ht)

end Console
end Cli
end FeltLowering
