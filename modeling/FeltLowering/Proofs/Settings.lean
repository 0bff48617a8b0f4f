import FeltLowering.Proofs.Path
import FeltLowering.Settings
import Mathlib.Data.List.Nodup

/-
The names of the modules.

Inputs get names exactly if no two of them get the same one, and otherwise the first input
whose name is taken is reported with the input that took it.  A name is the name of one
file: different names are different files, in whatever directory they are put.
-/
namespace FeltLowering
namespace Settings

/-! ## Collisions -/

/-- The first input whose name is taken, and the input before it that took the name. -/
def Collision.IsFirst (inputs : List Text) (c : Collision) : Prop :=
  ∃ before rest, inputs = before ++ c.second :: rest ∧ (before.map outputName).Nodup ∧
    c.first ∈ before ∧ outputName c.first = c.name ∧ outputName c.second = c.name

def named (inputs : List Text) : List (Text × Text) := inputs.map fun input => (input, outputName input)

theorem named_concat (inputs : List Text) (input : Text) :
    named inputs ++ [(input, outputName input)] = named (inputs ++ [input]) := by
  rw [named, named, List.map_append]
  rfl

theorem find?_named_eq_none_iff {inputs : List Text} {name : Text} :
    (named inputs).find? (·.2 = name) = none ↔ name ∉ inputs.map outputName := by
  simp [named, List.find?_eq_none]

theorem find?_named_eq_some {inputs : List Text} {name : Text} {e : Text × Text}
    (h : (named inputs).find? (·.2 = name) = some e) : e.1 ∈ inputs ∧ outputName e.1 = name := by
  have hname : e.2 = name := by simpa using List.find?_some h
  obtain ⟨input, hinput, rfl⟩ := List.mem_map.mp (List.mem_of_find?_eq_some h)
  exact ⟨hinput, hname⟩

theorem not_nodup_of_taken {before rest : List Text} {input : Text}
    (h : outputName input ∈ before.map outputName) :
    ¬((before ++ input :: rest).map outputName).Nodup := by
  intro hnodup
  rw [List.map_append, List.nodup_append] at hnodup
  exact hnodup.2.2 _ h _ List.mem_cons_self rfl

/-- The inputs behind those that are named already. -/
theorem namesAfter_spec {done : List Text} (hdone : (done.map outputName).Nodup) (rest : List Text) :
    (((done ++ rest).map outputName).Nodup ∧ namesAfter (named done) rest = .ok (rest.map outputName)) ∨
      (¬((done ++ rest).map outputName).Nodup ∧
        ∃ c, namesAfter (named done) rest = .error c ∧ c.IsFirst (done ++ rest)) := by
  induction rest generalizing done with
  | nil =>
    left
    rw [List.append_nil]
    exact ⟨hdone, rfl⟩
  | cons input rest ih =>
    rw [namesAfter]
    cases hfind : (named done).find? (·.2 = outputName input) with
    | some e =>
      right
      obtain ⟨hmem, hname⟩ := find?_named_eq_some hfind
      exact ⟨not_nodup_of_taken (hname ▸ List.mem_map_of_mem hmem), ⟨e.1, input, outputName input⟩, rfl,
        done, rest, rfl, hdone, hmem, hname, rfl⟩
    | none =>
      have hnew : outputName input ∉ done.map outputName := find?_named_eq_none_iff.mp hfind
      have hmore : ((done ++ [input]).map outputName).Nodup := by
        rw [List.map_append, List.map_singleton, List.nodup_append]
        refine ⟨hdone, by simp, fun a ha b hb => ?_⟩
        rw [List.mem_singleton.mp hb]
        rintro rfl
        exact hnew ha
      have hih := ih hmore
      rw [← named_concat, List.append_assoc, List.singleton_append] at hih
      simp only
      rcases hih with ⟨hnodup, hok⟩ | ⟨hnodup, c, herror, hfirst⟩
      · left
        rw [hok]
        exact ⟨hnodup, rfl⟩
      · right
        rw [herror]
        exact ⟨hnodup, c, rfl, hfirst⟩

theorem outputNames_spec (inputs : List Text) :
    ((inputs.map outputName).Nodup ∧ outputNames inputs = .ok (inputs.map outputName)) ∨
      (¬(inputs.map outputName).Nodup ∧ ∃ c, outputNames inputs = .error c ∧ c.IsFirst inputs) := by
  have hnil : (([] : List Text).map outputName).Nodup := List.nodup_nil
  exact namesAfter_spec hnil inputs

theorem outputNames_eq_ok_iff {inputs names : List Text} :
    outputNames inputs = .ok names ↔ (inputs.map outputName).Nodup ∧ names = inputs.map outputName := by
  rcases outputNames_spec inputs with ⟨hnodup, hok⟩ | ⟨hnodup, c, herror, -⟩
  · rw [hok, Except.ok.injEq]
    exact ⟨fun h => ⟨hnodup, h.symm⟩, fun h => h.2.symm⟩
  · rw [herror]
    exact ⟨fun h => absurd h (by simp), fun h => absurd h.1 hnodup⟩

theorem Collision.taken {c : Collision} {before : List Text} (hfirst : c.first ∈ before)
    (hname : outputName c.first = c.name) (hname' : outputName c.second = c.name) :
    outputName c.second ∈ before.map outputName := by
  rw [hname', ← hname]
  exact List.mem_map_of_mem hfirst

theorem Collision.IsFirst.not_nodup {inputs : List Text} {c : Collision} (h : c.IsFirst inputs) :
    ¬(inputs.map outputName).Nodup := by
  obtain ⟨before, rest, rfl, -, hfirst, hname, hname'⟩ := h
  exact not_nodup_of_taken (Collision.taken hfirst hname hname')

/-- There is only one first input whose name is taken. -/
theorem eq_of_first_taken {before before' rest rest' : List Text} {input input' : Text}
    (heq : before ++ input :: rest = before' ++ input' :: rest')
    (hnodup : (before.map outputName).Nodup) (hnodup' : (before'.map outputName).Nodup)
    (htaken : outputName input ∈ before.map outputName)
    (htaken' : outputName input' ∈ before'.map outputName) : before = before' ∧ input = input' := by
  rcases List.append_eq_append_iff.mp heq with ⟨more, rfl, hrest⟩ | ⟨more, rfl, hrest⟩
  · cases more with
    | nil => exact ⟨(List.append_nil _).symm, (List.cons.inj hrest).1⟩
    | cons x more =>
      obtain rfl : input = x := (List.cons.inj hrest).1
      exact absurd hnodup' (not_nodup_of_taken htaken)
  · cases more with
    | nil => exact ⟨List.append_nil _, (List.cons.inj hrest).1.symm⟩
    | cons x more =>
      obtain rfl : input' = x := (List.cons.inj hrest).1
      exact absurd hnodup (not_nodup_of_taken htaken')

theorem Collision.IsFirst.unique {inputs : List Text} {c c' : Collision} (h : c.IsFirst inputs)
    (h' : c'.IsFirst inputs) : c = c' := by
  obtain ⟨before, rest, rfl, hnodup, hfirst, hname, hname'⟩ := h
  obtain ⟨before', rest', heq, hnodup', hfirst', hname₂, hname₂'⟩ := h'
  obtain ⟨rfl, hsecond⟩ := eq_of_first_taken heq hnodup hnodup' (Collision.taken hfirst hname hname')
    (Collision.taken hfirst' hname₂ hname₂')
  have hnames : c.name = c'.name := by rw [← hname', hsecond, hname₂']
  have hfirsts : c.first = c'.first :=
    List.inj_on_of_nodup_map hnodup hfirst hfirst' (by rw [hname, hname₂, hnames])
  show Collision.mk c.first c.second c.name = Collision.mk c'.first c'.second c'.name
  rw [hfirsts, hsecond, hnames]

theorem outputNames_eq_error_iff {inputs : List Text} {c : Collision} :
    outputNames inputs = .error c ↔ c.IsFirst inputs := by
  rcases outputNames_spec inputs with ⟨hnodup, hok⟩ | ⟨hnodup, c', herror, hfirst⟩
  · rw [hok]
    exact ⟨fun h => absurd h (by simp), fun h => absurd hnodup h.not_nodup⟩
  · rw [herror, Except.error.injEq]
    exact ⟨fun h => h ▸ hfirst, fun h => hfirst.unique h⟩

/-! ## Files -/

open FeltLowering.Path (slash)

/-- What a name is made of: something that is not empty, and the extension. -/
theorem exists_stem (input : Text) :
    ∃ stem, outputName input = stem ++ Text.ofString ".ll" ∧ stem ≠ [] ∧
      (slash ∉ stem ∨ stem = [slash]) := by
  unfold outputName
  simp only
  split
  · exact ⟨_, rfl, by decide, Or.inl (by decide)⟩
  · next hstem =>
    simp only [Bool.or_eq_true, List.isEmpty_iff, not_or] at hstem
    refine ⟨_, rfl, hstem.1, ?_⟩
    rcases Path.base_eq input with hbase | hbase
    · exact Or.inl fun h => hbase (List.mem_of_mem_take h)
    · right
      rw [hbase]
      decide

def outputFile (input : Text) : Text := Path.lastElement (outputName input)

/-- Only an input that is the root has a name with a slash. -/
theorem outputFile_cases (input : Text) :
    (outputFile input = outputName input ∧ ∃ stem, stem ≠ [] ∧ outputName input = stem ++ Text.ofString ".ll") ∨
      (outputFile input = Text.ofString ".ll" ∧ outputName input = slash :: Text.ofString ".ll") := by
  obtain ⟨stem, hname, hne, hstem⟩ := exists_stem input
  rcases hstem with hstem | rfl
  · left
    refine ⟨Path.lastElement_of_not_mem ?_, stem, hne, hname⟩
    rw [hname, List.mem_append, not_or]
    exact ⟨hstem, by decide⟩
  · right
    rw [outputFile, hname]
    exact ⟨by decide, rfl⟩

theorem isName_outputFile (input : Text) : Path.IsName (outputFile input) := by
  have hlength : 3 ≤ (outputFile input).length := by
    rcases outputFile_cases input with ⟨hfile, stem, -, hname⟩ | ⟨hfile, -⟩
    · rw [hfile, hname, List.length_append]
      exact Nat.le_add_left _ _
    · rw [hfile]
      decide
  have hshort : ∀ t : Text, t.length < 3 → outputFile input ≠ t := by
    rintro t ht rfl
    omega
  exact ⟨hshort _ (by decide), hshort _ (by decide), hshort _ (by decide), Path.not_mem_lastElement _⟩

/-- Different names are different files. -/
theorem outputName_of_outputFile {input input' : Text} (h : outputFile input = outputFile input') :
    outputName input = outputName input' := by
  have happart : ∀ stem : Text, stem ≠ [] → stem ++ Text.ofString ".ll" ≠ Text.ofString ".ll" := by
    intro stem hne heq
    exact hne (List.append_left_eq_self.mp heq)
  rcases outputFile_cases input with ⟨hfile, stem, hne, hname⟩ | ⟨hfile, hname⟩
  · rcases outputFile_cases input' with ⟨hfile', -⟩ | ⟨hfile', -⟩
    · rw [← hfile, ← hfile', h]
    · rw [hfile, hname, hfile'] at h
      exact absurd h (happart stem hne)
  · rcases outputFile_cases input' with ⟨hfile', stem, hne, hname'⟩ | ⟨-, hname'⟩
    · rw [hfile, hfile', hname'] at h
      exact absurd h.symm (happart stem hne)
    · rw [hname, hname']

theorem join_outputName {dir : Text} (hdir : dir ≠ []) (input : Text) :
    Path.join [dir, outputName input] = Path.clean (dir ++ slash :: outputFile input) := by
  rcases outputFile_cases input with ⟨hfile, stem, hne, hname⟩ | ⟨hfile, hname⟩
  · rw [hfile, hname, Path.join_pair hdir (List.append_ne_nil_of_left_ne_nil hne _)]
  · rw [hfile, hname, Path.join_pair hdir (List.cons_ne_nil _ _), Path.clean_double_slash hdir]

end Settings
end FeltLowering
