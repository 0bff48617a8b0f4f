import FeltLowering.Proofs.Cli.Workers
import FeltLowering.Proofs.Lowering.Acceptance

/-
Modules on disk.

The modules of a build go into one directory, each under the name of its input.
Different names are different files there, so no module takes another's place.
-/
namespace FeltLowering
namespace Cli

namespace Action

variable {c : Console} {path content : Text} {files : FileTree}

theorem on_write_ok (h : c.host.files.write c.host.cwd path content = .ok files)
    (because : Text → FileFault → Failure) : (write path content because).on c = (.ok (), c.setFiles files) := by
  unfold write
  rw [on_bind_ok (on_get c), h, on_bind_ok (on_require_ok _ files c)]
  exact on_set c (c.setFiles files)

theorem on_info (t : Text) (c : Console) : (info t).on c = (.ok (), c.info t) := rfl

end Action

namespace Build

open FileTree (filesIn pathOf)
open Settings (outputName outputFile)

def results (built : Text → Built) (inputs : List Text) : List (Text × Built) :=
  inputs.map fun input => (outputName input, built input)

/-- The files of a build, by their names, with what they hold. -/
def modules (built : Text → Built) (inputs : List Text) : List (Text × Text) :=
  inputs.map fun input => (outputFile input, (built input).text)

theorem map_fst_modules (built : Text → Built) (inputs : List Text) :
    (modules built inputs).map Prod.fst = inputs.map outputFile := by
  simp only [modules, List.map_map, Function.comp_def]

theorem putAll_modules_cons (t : FileTree) (place : List Text) (built : Text → Built) (input : Text)
    (inputs : List Text) :
    t.putAll (filesIn place (modules built (input :: inputs))) =
      (t.put (pathOf (place ++ [outputFile input])) (.file (built input).text)).putAll
        (filesIn place (modules built inputs)) := by
  simp only [modules, filesIn, FileTree.putAll, List.map_cons, List.foldl_cons]

theorem nodup_outputFile {inputs : List Text} (h : (inputs.map outputName).Nodup) :
    (inputs.map outputFile).Nodup := by
  rw [List.Nodup, List.pairwise_map] at h ⊢
  exact h.imp fun hne heq => hne (Settings.outputName_of_outputFile heq)

section Write

variable {cwd outDir : Text} {place : List Text}

theorem resolve_module {t : FileTree} (hdir : t.resolve cwd outDir = .ok place)
    (hplace : t.get? place = some .directory) (input : Text) :
    t.resolve cwd (Path.join [outDir, outputName input]) = .ok (place ++ [outputFile input]) := by
  have hne := (FileTree.resolve_eq_ok_iff.mp hdir).1
  rw [Settings.join_outputName hne]
  exact FileTree.resolve_file hdir hplace (Settings.isName_outputFile input)

/-- Modules are written one after the other, each into a file of its own. -/
theorem on_writeAll (built : Text → Built) {inputs : List Text} (hnames : (inputs.map outputName).Nodup)
    {t : FileTree} (hdir : t.resolve cwd outDir = .ok place) (hplace : t.get? place = some .directory)
    (hfree : ∀ input ∈ inputs, t.get? (place ++ [outputFile input]) ≠ some .directory)
    (c : Console) (hcwd : c.host.cwd = cwd) (hfiles : c.host.files = t) :
    ∃ c', (writeAll outDir (results built inputs)).on c = (.ok (), c') ∧ c'.host.cwd = cwd ∧
      c'.host.files = t.putAll (filesIn place (modules built inputs)) := by
  induction inputs generalizing t c with
  | nil => exact ⟨c, rfl, hcwd, hfiles⟩
  | cons input inputs ih =>
    have hmine := hfree input List.mem_cons_self
    have hwrite := FileTree.write_file (built input).text (resolve_module hdir hplace input) hplace hmine
    subst hcwd hfiles
    rw [List.map_cons, List.nodup_cons] at hnames
    have hothers : ∀ x ∈ inputs, (c.host.files.put (pathOf (place ++ [outputFile input]))
        (.file (built input).text)).get? (place ++ [outputFile x]) ≠ some .directory := by
      intro x hx
      have hne : pathOf (place ++ [outputFile x]) ≠ pathOf (place ++ [outputFile input]) := by
        intro heq
        have hname := Settings.outputName_of_outputFile (FileTree.pathOf_concat_inj heq)
        exact hnames.1 (hname ▸ List.mem_map_of_mem hx)
      rw [FileTree.get?_put_of_ne _ _ fun _ => hne]
      exact hfree x (List.mem_cons_of_mem input hx)
    have hrest := ih hnames.2 (FileTree.resolve_put_file hdir hmine) (FileTree.get?_put_file hplace _ _) hothers
    rw [putAll_modules_cons]
    simp only [results, List.map_cons]
    rw [writeAll, Action.on_bind_ok (Action.on_write_ok hwrite _), Action.on_bind_ok (Action.on_info _ _)]
    exact hrest _ rfl rfl

/-- Into a directory that can be made, with no directory in the way of a module. -/
theorem on_writeModules (built : Text → Built) {inputs : List Text} (hnames : (inputs.map outputName).Nodup)
    {c : Console} {files : FileTree} (hmake : c.host.files.makeDirectories c.host.cwd outDir = .ok files)
    (hdir : files.resolve c.host.cwd outDir = .ok place) (hplace : files.get? place = some .directory)
    (hfree : ∀ input ∈ inputs, files.get? (place ++ [outputFile input]) ≠ some .directory) :
    ∃ c', (writeModules outDir (results built inputs)).on c = (.ok (), c') ∧ c'.host.cwd = c.host.cwd ∧
      c'.host.files = files.putAll (filesIn place (modules built inputs)) := by
  unfold writeModules
  rw [Action.on_bind_ok (Action.on_get c), hmake, Action.on_bind_ok (Action.on_require_ok _ files c),
    Action.on_bind_ok (Action.on_set c _)]
  exact on_writeAll built hnames hdir hplace hfree (c.setFiles files) rfl rfl

theorem read_module (built : Text → Built) {inputs : List Text} (hnames : (inputs.map outputName).Nodup)
    {files : FileTree} (hdir : files.resolve cwd outDir = .ok place)
    (hplace : files.get? place = some .directory)
    (hfree : ∀ input ∈ inputs, files.get? (place ++ [outputFile input]) ≠ some .directory)
    {input : Text} (hinput : input ∈ inputs) :
    (files.putAll (filesIn place (modules built inputs))).read cwd
      (Path.join [outDir, outputName input]) = .ok (built input).text := by
  have hdir' : (files.putAll (filesIn place (modules built inputs))).resolve cwd outDir = .ok place := by
    refine FileTree.resolve_putAll (fun f hf => ?_) hdir
    obtain ⟨x, hx, rfl⟩ := List.mem_map.mp hf
    dsimp only
    exact hfree x hx
  have hplace' := (FileTree.get?_putAll_dir files place (modules built inputs)).trans hplace
  have hfiles : ((modules built inputs).map Prod.fst).Nodup := by
    rw [map_fst_modules]
    exact nodup_outputFile hnames
  have hmem : (outputFile input, (built input).text) ∈ modules built inputs :=
    List.mem_map.mpr ⟨input, hinput, rfl⟩
  exact FileTree.read_of_get? (resolve_module hdir' hplace' input)
    (FileTree.get?_putAll_filesIn files place hfiles hmem)

/-- The directory that is made has a place, and in it each module one of its own. -/
theorem place_of_makeDirectories {t files : FileTree} (hmake : t.makeDirectories cwd outDir = .ok files) :
    ∃ place, files.get? place = some .directory ∧ files.resolve cwd outDir = .ok place ∧
      ∀ input, files.resolve cwd (Path.join [outDir, outputName input]) = .ok (place ++ [outputFile input]) := by
  obtain ⟨place, hdir, hplace⟩ := FileTree.resolve_of_stat (FileTree.stat_of_makeDirectories hmake)
  exact ⟨place, hplace, hdir, resolve_module hdir hplace⟩

end Write

section Every

variable {s : Settings} {c : Console}

theorem exists_built (hyields : ∀ input ∈ s.inputs, ∃ p b, Yields s c input p b) :
    ∃ built : Text → Built, ∀ input ∈ s.inputs, ∃ p, Yields s c input p (built input) := by
  refine Classical.axiomOfChoice (r := fun input b => input ∈ s.inputs → ∃ p, Yields s c input p b)
    fun input => ?_
  by_cases hinput : input ∈ s.inputs
  · obtain ⟨p, b, hb⟩ := hyields input hinput
    exact ⟨b, fun _ => ⟨p, hb⟩⟩
  · exact ⟨⟨[], [], 0⟩, fun h => absurd h hinput⟩

theorem gives_buildAll_alone {input : Text} {p : Program} {b : Built} (h : Yields s c input p b) :
    (buildAll { s with inputs := [input] }).Gives c [(outputName input, b)] := by
  rw [buildAll_eq_buildAllBy]
  refine @gives_buildAllBy { s with inputs := [input] } c _ (fun _ => b) (List.nodup_singleton _) ?_ ?_
  · intro x hx
    obtain rfl : x = input := List.mem_singleton.mp hx
    exact ⟨p, h.decodes, h.lowers, h.input_eq⟩
  · exact fun i hi => le_count_inTurn hi

end Every

/-- A build of several inputs loses nothing and overwrites nothing.  The names are accepted
if they are different, and else the first input with a name that is taken is reported.  If
every input can be built, each gets, in its place and under its own name, the text of the
module that its program is lowered to, as it does when it is built alone, in whatever order
the workers take their turns; and this module is in a file of its own, beside what the
directory held under other names. -/
theorem every_input_keeps_its_module :
    (∀ inputs names, Settings.outputNames inputs = .ok names ↔
      (inputs.map outputName).Nodup ∧ names = inputs.map outputName) ∧
    (∀ inputs clash, Settings.outputNames inputs = .error clash ↔ clash.IsFirst inputs) ∧
    (∀ s : Settings, buildAll s = buildAllBy (inTurn 0 s.inputs.length) s) ∧
    ∀ (s : Settings) (c : Console) (names : List Text), Settings.outputNames s.inputs = .ok names →
      (∀ input ∈ s.inputs, ∃ p b, Yields s c input p b) →
      ∃ built : Text → Built,
        (∀ input ∈ s.inputs, (built input).input = input ∧ (∃ p, Yields s c input p (built input)) ∧
          ((buildAll { s with inputs := [input] }).on c).1 = .ok [(outputName input, built input)]) ∧
        (∀ order : List Nat, (∀ i < s.inputs.length, 2 ≤ order.count i) →
          ((buildAllBy order s).on c).1 = .ok (results built s.inputs)) ∧
        ((buildAll s).on c).1 = .ok (results built s.inputs) ∧
        ∀ (c' : Console) (outDir : Text) (files : FileTree),
          c'.host.files.makeDirectories c'.host.cwd outDir = .ok files →
          ∃ place,
            (∀ input ∈ s.inputs, files.resolve c'.host.cwd (Path.join [outDir, outputName input]) =
              .ok (place ++ [outputFile input])) ∧
            ((filesIn place (modules built s.inputs)).map Prod.fst).Nodup ∧
            ((∀ input ∈ s.inputs, files.get? (place ++ [outputFile input]) ≠ some .directory) →
              ∃ c'', (writeModules outDir (results built s.inputs)).on c' = (.ok (), c'') ∧
                c''.host.files.entries =
                  files.entries.filter (fun e => e.1 ∉ (filesIn place (modules built s.inputs)).map Prod.fst) ++
                    filesIn place (modules built s.inputs) ∧
                ∀ input ∈ s.inputs,
                  c''.host.files.read c'.host.cwd (Path.join [outDir, outputName input]) =
                    .ok (built input).text) := by
  refine ⟨fun _ _ => Settings.outputNames_eq_ok_iff, fun _ _ => Settings.outputNames_eq_error_iff,
    buildAll_eq_buildAllBy, fun s c names hpass hyields => ?_⟩
  have hnames := (Settings.outputNames_eq_ok_iff.mp hpass).1
  obtain ⟨built, hbuilt⟩ := exists_built hyields
  have hevery : ∀ order : List Nat, (∀ i < s.inputs.length, 2 ≤ order.count i) →
      ((buildAllBy order s).on c).1 = .ok (results built s.inputs) :=
    fun order horder => (gives_buildAllBy hnames hbuilt horder).fst_eq
  refine ⟨built, fun input hinput => ?_, hevery, ?_, fun c' outDir files hmake => ?_⟩
  · obtain ⟨p, hp⟩ := hbuilt input hinput
    exact ⟨hp.input_eq, ⟨p, hp⟩, (gives_buildAll_alone hp).fst_eq⟩
  · rw [buildAll_eq_buildAllBy]
    exact hevery _ fun i hi => le_count_inTurn hi
  · obtain ⟨place, hplace, hdir, hmodules⟩ := place_of_makeDirectories hmake
    have hpaths : ((filesIn place (modules built s.inputs)).map Prod.fst).Nodup :=
      FileTree.nodup_filesIn place (map_fst_modules built s.inputs ▸ nodup_outputFile hnames)
    refine ⟨place, fun input _ => hmodules input, hpaths, fun hfree => ?_⟩
    obtain ⟨c'', hwrite, -, hfiles⟩ := on_writeModules built hnames hmake hdir hplace hfree
    refine ⟨c'', hwrite, ?_, fun input hinput => ?_⟩
    · rw [hfiles, FileTree.entries_putAll files hpaths]
    · rw [hfiles]
      exact read_module built hnames hdir hplace hfree hinput

def sumProgram : Program where
  types := some [⟨⟨7, "u8"⟩, "u8", none⟩]
  libfuncs := some [Lowering.plus]

def twoInputs : Settings where
  inputs := ["/one/mixed.msgpack", "/two/sum.msgpack"]
  outDir := "out"
  debugInfo := true
  file := []
  directory := []
  producer := []

/-- Two programs in directories of their own, and the trace in a third file. -/
def twoFiles : Console where
  host := { files := ⟨[("/one", .directory),
    ("/one/mixed.msgpack", .file (Msgpack.encodeProgram Lowering.mixedProgram)), ("/two", .directory),
    ("/two/sum.msgpack", .file (Msgpack.encodeProgram sumProgram)), ("/trace", .file [])]⟩ }
  traceFile := some "/trace"

def twoFilesAndOut : FileTree := twoFiles.host.files.put "/out" .directory

theorem twoInputs_yield : ∀ input ∈ twoInputs.inputs, ∃ p b, Yields twoInputs twoFiles input p b := by
  intro input hinput
  rcases List.mem_pair.mp hinput with rfl | rfl
  · refine exists_yields (Console.decodes_of_apart ?_ ?_ : twoFiles.Decodes _ Lowering.mixedProgram) ?_
    · rintro _ ⟨rfl⟩
      decide +kernel
    · decide +kernel
    · decide +kernel
  · refine exists_yields (Console.decodes_of_apart ?_ ?_ : twoFiles.Decodes _ sumProgram) ?_
    · rintro _ ⟨rfl⟩
      decide +kernel
    · decide +kernel
    · decide +kernel

theorem twoInputs_keep_their_modules :
    Settings.outputNames twoInputs.inputs = .ok ["mixed.ll", "sum.ll"] ∧
    (∀ input ∈ twoInputs.inputs, ∃ p b, Yields twoInputs twoFiles input p b) ∧
    ∃ built : Text → Built,
      (∀ input ∈ twoInputs.inputs, ∃ p, Yields twoInputs twoFiles input p (built input)) ∧
      ((buildAllBy [1, 0, 0, 1] twoInputs).on twoFiles).1 =
        .ok [("mixed.ll", built "/one/mixed.msgpack"), ("sum.ll", built "/two/sum.msgpack")] ∧
      ∃ c, (writeModules "out" (results built twoInputs.inputs)).on twoFiles = (.ok (), c) ∧
        c.host.files.read "/" "out/mixed.ll" = .ok (built "/one/mixed.msgpack").text ∧
        c.host.files.read "/" "out/sum.ll" = .ok (built "/two/sum.msgpack").text := by
  have hpass : Settings.outputNames twoInputs.inputs = .ok ["mixed.ll", "sum.ll"] := by decide +kernel
  obtain ⟨built, hbuilt, hevery, -, hwrite⟩ :=
    every_input_keeps_its_module.2.2.2 twoInputs twoFiles _ hpass twoInputs_yield
  obtain ⟨place, hmodules, -, hfree⟩ := hwrite twoFiles "out" twoFilesAndOut (by decide +kernel)
  obtain ⟨c, hdone, -, hread⟩ := hfree fun input hinput => by
    have hempty : ∀ x ∈ twoInputs.inputs,
        (twoFilesAndOut.resolve twoFiles.host.cwd (Path.join ["out", outputName x])).toOption.bind
          twoFilesAndOut.get? = none := by
      decide +kernel
    have hthere := hempty input hinput
    rw [hmodules input hinput] at hthere
    exact fun hdirectory => absurd (hdirectory.symm.trans hthere) (by simp)
  exact ⟨hpass, twoInputs_yield, built, fun input hinput => (hbuilt input hinput).2.1,
    hevery [1, 0, 0, 1] (by decide), c, hdone, hread "/one/mixed.msgpack" (by decide),
    hread "/two/sum.msgpack" (by decide)⟩

end Build
end Cli
end FeltLowering
