import FeltLowering.Manifest
import FeltLowering.Proofs.FileTree
import Mathlib.Data.List.Induction
import Mathlib.Data.List.Infix
import Mathlib.Logic.Function.Iterate

/-
The search for a manifest.

A clean absolute path is given by its elements, and the directories above it by the
beginnings of that list.  Going up drops the last element, and the root is the only
directory that is its own parent, so the search asks for a manifest in the start
directory, in each directory above it and at last in the root.

The answer is decided where `stat` first says anything but that the file is missing
(`nearest_of_decides`), and there is no manifest if it never does
(`nearest_of_missing`).
-/
namespace FeltLowering

open FileTree

namespace Path

/-! ## Clean absolute paths -/

theorem isName_push {done : List Text} {e : Text} (hdone : ∀ d ∈ done, IsName d) (he : slash ∉ e) :
    ∀ d ∈ push true done e, IsName d := by
  unfold push
  by_cases hskip : (e.isEmpty || e = Text.ofString ".") = true
  · rw [if_pos hskip]
    exact hdone
  · rw [if_neg hskip]
    simp only [Bool.or_eq_true, List.isEmpty_iff, decide_eq_true_iff, not_or] at hskip
    by_cases habove : e = Text.ofString ".."
    · rw [if_pos habove]
      cases done with
      | nil => exact hdone
      | cons d rest =>
        simp only [if_neg (hdone d List.mem_cons_self).ne_above]
        exact fun x hx => hdone x (List.mem_cons_of_mem d hx)
    · rw [if_neg habove]
      exact List.forall_mem_cons.mpr ⟨⟨hskip.1, hskip.2, habove, he⟩, hdone⟩

theorem isName_foldl_push {es done : List Text} (hdone : ∀ d ∈ done, IsName d)
    (hes : ∀ e ∈ es, slash ∉ e) : ∀ d ∈ es.foldl (push true) done, IsName d := by
  induction es generalizing done with
  | nil => exact hdone
  | cons e es ih =>
    have hrest : ∀ x ∈ es, slash ∉ x := fun x hx => hes x (List.mem_cons_of_mem e hx)
    exact ih (isName_push hdone (hes e List.mem_cons_self)) hrest

theorem clean_of_isAbsolute {p : Text} (h : isAbsolute p = true) :
    clean p = pathOf (resolved p).reverse ∧ ∀ e ∈ (resolved p).reverse, IsName e := by
  refine ⟨by rw [clean_eq, if_pos h]; rfl, fun e he => ?_⟩
  rw [List.mem_reverse, resolved, h] at he
  exact isName_foldl_push (fun _ hd => absurd hd List.not_mem_nil)
    (fun _ hx => Text.not_mem_of_mem_splitOn hx) e he

theorem absolute_eq_pathOf {cwd : Text} (hcwd : isAbsolute cwd = true) (p : Text) :
    ∃ es, absolute cwd p = pathOf es ∧ ∀ e ∈ es, IsName e := by
  have hne : cwd ≠ [] := by
    rintro rfl
    exact absurd hcwd (by decide)
  unfold absolute
  by_cases hp : isAbsolute p = true
  · rw [if_pos hp]
    exact ⟨_, clean_of_isAbsolute hp⟩
  · rw [if_neg hp]
    by_cases hnil : p = []
    · have hjoin : join [cwd, p] = clean cwd := by
        simp [join, hnil, hne, Text.join]
      rw [hjoin]
      exact ⟨_, clean_of_isAbsolute hcwd⟩
    · rw [join_pair hne hnil]
      exact ⟨_, clean_of_isAbsolute ((isAbsolute_append hne _).trans hcwd)⟩

section Up

variable {es : List Text} {e : Text}

theorem pathOf_ne_nil (es : List Text) : pathOf es ≠ [] := List.cons_ne_nil _ _

theorem foldl_push_of_isName (h : ∀ e ∈ es, IsName e) (rooted : Bool) (done : List Text) :
    es.foldl (push rooted) done = es.reverse ++ done := by
  induction es generalizing done with
  | nil => rfl
  | cons e es ih =>
    rw [List.foldl_cons, push_of_isName (h e List.mem_cons_self),
      ih fun x hx => h x (List.mem_cons_of_mem e hx)]
    simp

theorem resolved_pathOf (h : ∀ e ∈ es, IsName e) : resolved (pathOf es) = es.reverse := by
  have hsplit : Text.splitOn slash (pathOf es) = [] :: Text.splitOn slash (Text.join [slash] es) :=
    Text.splitOn_append_sep slash [] _
  unfold resolved
  rw [hsplit]
  by_cases hnil : es = []
  · rw [hnil]
    rfl
  · rw [Text.splitOn_join hnil fun e he => (h e he).no_slash]
    exact (foldl_push_of_isName h true []).trans (List.append_nil _)

theorem clean_pathOf (h : ∀ e ∈ es, IsName e) : clean (pathOf es) = pathOf es := by
  rw [(clean_of_isAbsolute rfl).1, resolved_pathOf h, List.reverse_reverse]

theorem join_pathOf (h : ∀ e ∈ es, IsName e) (he : IsName e) : join [pathOf es, e] = pathOf (es ++ [e]) := by
  rw [join_pair (pathOf_ne_nil es) he.ne_nil, clean_file (pathOf_ne_nil es) he, resolved_pathOf h,
    List.reverse_reverse]
  rfl

theorem parent_append (d : Text) (he : slash ∉ e) : parent (d ++ slash :: e) = clean (d ++ [slash]) := by
  have hskip : ∀ b ∈ e.reverse, (b != slash) = true := by
    intro b hb
    rw [bne_iff_ne]
    rintro rfl
    exact he (List.mem_reverse.mp hb)
  unfold parent
  rw [List.reverse_append, List.reverse_cons, List.append_assoc, List.dropWhile_append_of_pos hskip]
  simp

theorem parent_pathOf_nil : parent (pathOf []) = pathOf [] := rfl

theorem parent_pathOf_concat (h : ∀ x ∈ es ++ [e], IsName x) : parent (pathOf (es ++ [e])) = pathOf es := by
  have he : IsName e := h e (by simp)
  by_cases hnil : es = []
  · rw [hnil]
    exact (parent_append [] he.no_slash).trans rfl
  · have hpath : pathOf (es ++ [e]) = pathOf es ++ slash :: e := by
      unfold pathOf
      rw [Text.join_concat _ hnil]
      simp
    rw [hpath, parent_append _ he.no_slash, clean_concat_slash (pathOf_ne_nil es),
      clean_pathOf fun x hx => h x (List.mem_append_left _ hx)]

theorem parent_pathOf_ne (h : ∀ x ∈ es ++ [e], IsName x) :
    parent (pathOf (es ++ [e])) ≠ pathOf (es ++ [e]) := by
  have hplace : IsPlace (es ++ [e]) := fun x hx => ⟨(h x hx).ne_nil, (h x hx).no_slash⟩
  have hplace' : IsPlace es := fun x hx => hplace x (List.mem_append_left _ hx)
  rw [parent_pathOf_concat h]
  intro heq
  have hlen := congrArg List.length (pathOf_inj hplace' hplace heq)
  simp at hlen

end Up

theorem iterate_parent {es : List Text} (h : ∀ e ∈ es, IsName e) (n : Nat) :
    parent^[n] (pathOf es) = pathOf (es.take (es.length - n)) := by
  induction n with
  | zero => simp
  | succ n ih =>
    rw [Function.iterate_succ_apply', ih]
    by_cases hn : n < es.length
    · have hlast : es.take (es.length - n) =
          es.take (es.length - (n + 1)) ++ [es[es.length - (n + 1)]] := by
        rw [← List.take_succ_eq_append_getElem (by omega)]
        congr 1
        omega
      rw [hlast]
      refine parent_pathOf_concat fun x hx => h x ?_
      rw [← hlast] at hx
      exact List.mem_of_mem_take hx
    · rw [Nat.sub_eq_zero_of_le (by omega), Nat.sub_eq_zero_of_le (by omega)]
      exact parent_pathOf_nil

/-- Going up comes to rest at the root and not before. -/
theorem iterate_parent_fixed_iff {es : List Text} (h : ∀ e ∈ es, IsName e) (n : Nat) :
    parent (parent^[n] (pathOf es)) = parent^[n] (pathOf es) ↔ es.length ≤ n := by
  have hplace : ∀ k, IsPlace (es.take k) := fun k x hx =>
    ⟨(h x (List.mem_of_mem_take hx)).ne_nil, (h x (List.mem_of_mem_take hx)).no_slash⟩
  rw [← Function.iterate_succ_apply' parent, iterate_parent h, iterate_parent h]
  constructor
  · intro heq
    have hlen := congrArg List.length (pathOf_inj (hplace _) (hplace _) heq)
    simp only [List.length_take] at hlen
    omega
  · intro hle
    rw [Nat.sub_eq_zero_of_le hle, Nat.sub_eq_zero_of_le (by omega)]

end Path

namespace Manifest

/-! ## Where the search ends -/

def fileIn (dir : List Text) : Text := pathOf (dir ++ [fileName])

theorem isName_fileName : Path.IsName fileName := by
  refine ⟨?_, ?_, ?_, ?_⟩ <;> decide

/-- What is said of a manifest, once it is not missing, answers the search. -/
def answer (path : Text) : Except FileFault Entry → Except ManifestError (Option Text)
  | .ok _ => .ok (some path)
  | .error fault => .error (.unsearchable path fault)

section Search

variable {stat : Text → Except FileFault Entry} {es dir : List Text} {e : Text}

theorem join_fileName (hes : ∀ x ∈ es, Path.IsName x) : Path.join [pathOf es, fileName] = fileIn es :=
  Path.join_pathOf hes isName_fileName

theorem nearest_of_ne (hes : ∀ x ∈ es, Path.IsName x) (h : stat (fileIn es) ≠ .error .missing) :
    nearest stat (pathOf es) = answer (fileIn es) (stat (fileIn es)) := by
  rw [nearest]
  simp only [join_fileName hes]
  cases hstat : stat (fileIn es) with
  | ok entry => rfl
  | error fault =>
    cases fault with
    | missing => exact absurd hstat h
    | notDirectory => rfl
    | isDirectory => rfl
    | occupied => rfl

theorem nearest_root (h : stat (fileIn []) = .error .missing) : nearest stat (pathOf []) = .ok none := by
  have hfile : Path.join [pathOf [], fileName] = fileIn [] := join_fileName nofun
  rw [nearest]
  simp only [hfile, h]
  exact dif_pos Path.parent_pathOf_nil

theorem nearest_concat (hes : ∀ x ∈ es ++ [e], Path.IsName x)
    (h : stat (fileIn (es ++ [e])) = .error .missing) :
    nearest stat (pathOf (es ++ [e])) = nearest stat (pathOf es) := by
  rw [nearest]
  simp only [join_fileName hes, h]
  rw [dif_neg (Path.parent_pathOf_ne hes), Path.parent_pathOf_concat hes]

/-- The manifests of all directories closer to the start than `dir` are missing. -/
def Passed (stat : Text → Except FileFault Entry) (es dir : List Text) : Prop :=
  ∀ d, d <+: es → dir.length < d.length → stat (fileIn d) = .error .missing

/-- The search is decided in `dir`. -/
structure Decides (stat : Text → Except FileFault Entry) (es dir : List Text) : Prop where
  above : dir <+: es
  closer : Passed stat es dir
  here : stat (fileIn dir) ≠ .error .missing

theorem nearest_of_decides (hes : ∀ x ∈ es, Path.IsName x) (h : Decides stat es dir) :
    nearest stat (pathOf es) = answer (fileIn dir) (stat (fileIn dir)) := by
  induction es using List.reverseRecOn with
  | nil =>
    obtain rfl := List.prefix_nil.mp h.above
    exact nearest_of_ne hes h.here
  | append_singleton es e ih =>
    rcases List.prefix_concat_iff.mp h.above with rfl | hdir
    · exact nearest_of_ne hes h.here
    · have hlt : dir.length < (es ++ [e]).length := by
        have := hdir.length_le
        simp
        omega
      rw [nearest_concat hes (h.closer _ List.prefix_rfl hlt)]
      exact ih (fun x hx => hes x (List.mem_append_left _ hx))
        ⟨hdir, fun d hd => h.closer d (hd.trans (List.prefix_append es [e])), h.here⟩

theorem nearest_of_missing (hes : ∀ x ∈ es, Path.IsName x)
    (h : ∀ d, d <+: es → stat (fileIn d) = .error .missing) : nearest stat (pathOf es) = .ok none := by
  induction es using List.reverseRecOn with
  | nil => exact nearest_root (h [] List.prefix_rfl)
  | append_singleton es e ih =>
    rw [nearest_concat hes (h _ List.prefix_rfl)]
    exact ih (fun x hx => hes x (List.mem_append_left _ hx))
      fun d hd => h d (hd.trans (List.prefix_append es [e]))

theorem decides_or_missing (stat : Text → Except FileFault Entry) (es : List Text) :
    (∃ dir, Decides stat es dir) ∨ ∀ d, d <+: es → stat (fileIn d) = .error .missing := by
  induction es using List.reverseRecOn with
  | nil =>
    by_cases h : stat (fileIn []) = .error .missing
    · right
      intro d hd
      rwa [List.prefix_nil.mp hd]
    · left
      refine ⟨[], List.prefix_rfl, fun d hd hlt => ?_, h⟩
      rw [List.prefix_nil.mp hd] at hlt
      exact absurd hlt (Nat.lt_irrefl _)
  | append_singleton es e ih =>
    by_cases h : stat (fileIn (es ++ [e])) = .error .missing
    · rcases ih with ⟨dir, hdir⟩ | hall
      · left
        refine ⟨dir, hdir.above.trans (List.prefix_append es [e]), fun d hd hlt => ?_, hdir.here⟩
        rcases List.prefix_concat_iff.mp hd with rfl | hd
        · exact h
        · exact hdir.closer d hd hlt
      · right
        intro d hd
        rcases List.prefix_concat_iff.mp hd with rfl | hd
        · exact h
        · exact hall d hd
    · left
      exact ⟨es ++ [e], List.prefix_rfl, fun d hd hlt => absurd hd.length_le (by omega), h⟩

/-! ## The three outcomes -/

theorem nearest_eq_some_iff (hes : ∀ x ∈ es, Path.IsName x) {path : Text} :
    nearest stat (pathOf es) = .ok (some path) ↔
      ∃ dir, dir <+: es ∧ path = fileIn dir ∧ (∃ entry, stat path = .ok entry) ∧ Passed stat es dir := by
  constructor
  · intro h
    rcases decides_or_missing stat es with ⟨dir, hdir⟩ | hall
    · rw [nearest_of_decides hes hdir] at h
      cases hstat : stat (fileIn dir) with
      | error fault =>
        rw [hstat] at h
        cases h
      | ok entry =>
        rw [hstat] at h
        obtain rfl : fileIn dir = path := Option.some.inj (Except.ok.inj h)
        exact ⟨dir, hdir.above, rfl, ⟨entry, hstat⟩, hdir.closer⟩
    · rw [nearest_of_missing hes hall] at h
      cases h
  · rintro ⟨dir, habove, rfl, ⟨entry, hstat⟩, hcloser⟩
    have hdir : Decides stat es dir := ⟨habove, hcloser, by rw [hstat]; exact nofun⟩
    rw [nearest_of_decides hes hdir, hstat]
    rfl

theorem nearest_eq_error_iff (hes : ∀ x ∈ es, Path.IsName x) {error : ManifestError} :
    nearest stat (pathOf es) = .error error ↔
      ∃ dir fault, dir <+: es ∧ error = .unsearchable (fileIn dir) fault ∧
        stat (fileIn dir) = .error fault ∧ fault ≠ .missing ∧ Passed stat es dir := by
  constructor
  · intro h
    rcases decides_or_missing stat es with ⟨dir, hdir⟩ | hall
    · rw [nearest_of_decides hes hdir] at h
      cases hstat : stat (fileIn dir) with
      | ok entry =>
        rw [hstat] at h
        cases h
      | error fault =>
        rw [hstat] at h
        refine ⟨dir, fault, hdir.above, (Except.error.inj h).symm, hstat, ?_, hdir.closer⟩
        rintro rfl
        exact hdir.here hstat
    · rw [nearest_of_missing hes hall] at h
      cases h
  · rintro ⟨dir, fault, habove, rfl, hstat, hfault, hcloser⟩
    have hdir : Decides stat es dir :=
      ⟨habove, hcloser, fun h => hfault (Except.error.inj (hstat.symm.trans h))⟩
    rw [nearest_of_decides hes hdir, hstat]
    rfl

theorem nearest_eq_none_iff (hes : ∀ x ∈ es, Path.IsName x) :
    nearest stat (pathOf es) = .ok none ↔ ∀ d, d <+: es → stat (fileIn d) = .error .missing := by
  refine ⟨fun h => ?_, nearest_of_missing hes⟩
  rcases decides_or_missing stat es with ⟨dir, hdir⟩ | hall
  · rw [nearest_of_decides hes hdir] at h
    cases hstat : stat (fileIn dir) <;> rw [hstat] at h <;> cases h
  · exact hall

end Search

/-- The nearest manifest wins.  The start directory has some elements, and after `n` steps
up `n` of them are gone; this comes to rest at the root and not before.  Whatever `stat`
says, the search finds the manifest of the closest of these directories for which it
succeeds if all closer ones are missing, fails with the first other fault that it meets,
and finds nothing exactly if the manifests of all of them are missing. -/
theorem nearest_manifest_wins {cwd : Text} (hcwd : Path.isAbsolute cwd = true) (start : Text) :
    ∃ es, Path.absolute cwd start = pathOf es ∧ (∀ e ∈ es, Path.IsName e) ∧
      (∀ n, Path.parent^[n] (pathOf es) = pathOf (es.take (es.length - n)) ∧
        (Path.parent (Path.parent^[n] (pathOf es)) = Path.parent^[n] (pathOf es) ↔ es.length ≤ n)) ∧
      ∀ stat,
        (∀ path, searchBy stat cwd start = .ok (some path) ↔
          ∃ dir, dir <+: es ∧ path = fileIn dir ∧ (∃ entry, stat path = .ok entry) ∧
            Passed stat es dir) ∧
        (∀ error, searchBy stat cwd start = .error error ↔
          ∃ dir fault, dir <+: es ∧ error = .unsearchable (fileIn dir) fault ∧
            stat (fileIn dir) = .error fault ∧ fault ≠ .missing ∧ Passed stat es dir) ∧
        (searchBy stat cwd start = .ok none ↔ ∀ d, d <+: es → stat (fileIn d) = .error .missing) := by
  obtain ⟨es, hpath, hes⟩ := Path.absolute_eq_pathOf hcwd start
  refine ⟨es, hpath, hes, fun n => ⟨Path.iterate_parent hes n, Path.iterate_parent_fixed_iff hes n⟩,
    fun stat => ?_⟩
  unfold searchBy
  rw [hpath]
  exact ⟨fun path => nearest_eq_some_iff hes, fun error => nearest_eq_error_iff hes,
    nearest_eq_none_iff hes⟩

/-- Manifests in the root and one directory below it. -/
def nestedTree : FileTree where
  entries :=
    [("/sierra2llvm.toml", .file []), ("/work", .directory), ("/work/sierra2llvm.toml", .file []),
      ("/work/app", .directory), ("/work/app/lib", .directory)]

/-- The search runs into a file where it looks for a directory. -/
def blockedTree : FileTree where
  entries := [("/work", .directory), ("/work/sierra2llvm.toml", .file []), ("/work/app", .file [])]

theorem nestedTree_search :
    Path.isAbsolute "/work/app" = true ∧
      search nestedTree "/work/app" "src/../lib/" = .ok (some "/work/sierra2llvm.toml") ∧
      search blockedTree "/work/app" "src/../lib/" =
        .error (.unsearchable "/work/app/lib/sierra2llvm.toml" .notDirectory) ∧
      search {} "/work/app" "src/../lib/" = .ok none := by
  have hcwd : Path.isAbsolute "/work/app" = true := by decide
  obtain ⟨es, hpath, hnames, -, hsearch⟩ := nearest_manifest_wins hcwd "src/../lib/"
  have hes : es = [Text.ofString "work", Text.ofString "app", Text.ofString "lib"] := by
    refine pathOf_inj (fun e he => ⟨(hnames e he).ne_nil, (hnames e he).no_slash⟩) ?_
      (hpath.symm.trans (by decide))
    unfold IsPlace
    decide
  subst hes
  refine ⟨hcwd, ?_, ?_, ?_⟩
  · refine ((hsearch _).1 _).mpr ⟨["work"], by decide, by decide, ⟨.file [], by decide⟩, fun d hd => ?_⟩
    rw [← List.mem_inits] at hd
    revert d
    decide
  · refine ((hsearch _).2.1 _).mpr ⟨_, .notDirectory, List.prefix_rfl, by decide, by decide, by decide,
      fun d hd hlt => ?_⟩
    exact absurd hd.length_le (Nat.not_le_of_lt hlt)
  · refine (hsearch _).2.2.mpr fun d hd => ?_
    rw [← List.mem_inits] at hd
    revert d
    decide

end Manifest
end FeltLowering
