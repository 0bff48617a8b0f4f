import FeltLowering.FileTree
import FeltLowering.Proofs.Path

/-
Files written and read back.

A path is followed through directories only, so writing a file changes where no path
leads.  A clean path leads to the same place as the path it was made from.  Files with
different names in one directory are written side by side, and nothing else changes
(`entries_putAll`).
-/
namespace FeltLowering
namespace FileTree

open FeltLowering.Path (slash)

/-! ## Entries -/

theorem get?_eq (t : FileTree) {place : List Text} (h : place ≠ []) :
    t.get? place = (t.entries.find? (·.1 = pathOf place)).map Prod.snd := by
  rw [get?, if_neg (by simpa using h)]

theorem get?_congr (t : FileTree) {place place' : List Text} (h : place ≠ []) (h' : place' ≠ [])
    (hpath : pathOf place = pathOf place') : t.get? place = t.get? place' := by
  rw [t.get?_eq h, t.get?_eq h', hpath]

theorem get?_put_self (t : FileTree) (e : Entry) {place : List Text} (h : place ≠ []) :
    (t.put (pathOf place) e).get? place = some e := by
  have hnone : (t.entries.filter (·.1 ≠ pathOf place)).find? (·.1 = pathOf place) = none := by
    rw [List.find?_filter, List.find?_eq_none]
    intro x _ hx
    simp only [decide_eq_true_iff] at hx
    exact hx.1 hx.2
  rw [get?_eq _ h, put, List.find?_append, hnone, List.find?_singleton]
  simp

theorem get?_put_of_ne (t : FileTree) (e : Entry) {path : Text} {place : List Text}
    (h : place ≠ [] → pathOf place ≠ path) : (t.put path e).get? place = t.get? place := by
  by_cases hnil : place = []
  · subst hnil
    rfl
  · have hne := h hnil
    have hkeep : (t.entries.filter (·.1 ≠ path)).find? (·.1 = pathOf place) =
        t.entries.find? (·.1 = pathOf place) := by
      rw [List.find?_filter]
      refine congrArg (t.entries.find? ·) (funext fun x => ?_)
      by_cases hx : x.1 = pathOf place
      · simp [hx, hne]
      · simp [hx]
    rw [get?_eq _ hnil, get?_eq _ hnil, put, List.find?_append, hkeep]
    simp [hne.symm]

/-! ## Following a path -/

/-- Where an element leads from the place at `done`, whose elements are in reverse. -/
def enter (done : List Text) (e : Text) : List Text :=
  if e.isEmpty || e = Text.ofString "." then done
  else if e = Text.ofString ".." then done.tail
  else e :: done

theorem follow_cons_eq_ok_iff {t : FileTree} {done place rest : List Text} {e : Text} :
    t.follow done (e :: rest) = .ok place ↔
      t.get? done.reverse = some .directory ∧ t.follow (enter done e) rest = .ok place := by
  rw [follow]
  cases h : t.get? done.reverse with
  | none => simp
  | some entry =>
    cases entry with
    | file content => simp
    | directory =>
      simp only [true_and, enter]
      split
      · rfl
      · split <;> rfl

theorem follow_append_eq_ok_iff {t : FileTree} {done place xs ys : List Text} :
    t.follow done (xs ++ ys) = .ok place ↔
      ∃ mid, t.follow done xs = .ok mid ∧ t.follow mid ys = .ok place := by
  induction xs generalizing done with
  | nil => simp [follow]
  | cons x xs ih =>
    rw [List.cons_append, follow_cons_eq_ok_iff, ih]
    constructor
    · rintro ⟨hdir, mid, hmid, hplace⟩
      exact ⟨mid, follow_cons_eq_ok_iff.mpr ⟨hdir, hmid⟩, hplace⟩
    · rintro ⟨mid, hmid, hplace⟩
      obtain ⟨hdir, hmid⟩ := follow_cons_eq_ok_iff.mp hmid
      exact ⟨hdir, mid, hmid, hplace⟩

theorem follow_singleton_eq_ok_iff {t : FileTree} {done place : List Text} {e : Text} :
    t.follow done [e] = .ok place ↔ t.get? done.reverse = some .directory ∧ enter done e = place := by
  rw [follow_cons_eq_ok_iff, follow, Except.ok.injEq]

/-- An entry that takes no directory's place changes no way. -/
theorem follow_put {t : FileTree} {path : Text} {e : Entry} {done place es : List Text}
    (hpath : ∀ q, q ≠ [] → pathOf q = path → t.get? q ≠ some .directory)
    (h : t.follow done es = .ok place) : (t.put path e).follow done es = .ok place := by
  induction es generalizing done with
  | nil => exact h
  | cons x es ih =>
    obtain ⟨hdir, hrest⟩ := follow_cons_eq_ok_iff.mp h
    refine follow_cons_eq_ok_iff.mpr ⟨?_, ih hrest⟩
    rw [get?_put_of_ne t e fun hne heq => hpath _ hne heq hdir]
    exact hdir

def start (cwd p : Text) : List Text :=
  if Path.isAbsolute p then [] else ((elements cwd).filter (!·.isEmpty)).reverse

theorem resolve_eq_ok_iff {t : FileTree} {cwd p : Text} {place : List Text} :
    t.resolve cwd p = .ok place ↔
      p ≠ [] ∧ t.follow (start cwd p) (elements p) = .ok place.reverse := by
  unfold resolve start
  by_cases hp : p = []
  · simp [hp]
  · rw [if_neg (by simpa using hp)]
    simp only [Except.map]
    cases t.follow _ (elements p) with
    | error fault => simp
    | ok d =>
      simp only [Except.ok.injEq, ne_eq, hp, not_false_eq_true, true_and]
      exact List.reverse_eq_iff

theorem resolve_put {t : FileTree} {cwd p path : Text} {e : Entry} {place : List Text}
    (hpath : ∀ q, q ≠ [] → pathOf q = path → t.get? q ≠ some .directory)
    (h : t.resolve cwd p = .ok place) : (t.put path e).resolve cwd p = .ok place := by
  obtain ⟨hp, hfollow⟩ := resolve_eq_ok_iff.mp h
  exact resolve_eq_ok_iff.mpr ⟨hp, follow_put hpath hfollow⟩

theorem enter_of_isStep {e : Text} (h : Path.IsStep e) (done : List Text) :
    enter done e = if e = Text.ofString ".." then done.tail else e :: done := by
  have hskip : ¬(e.isEmpty || e = Text.ofString ".") = true := by
    simp only [Bool.or_eq_true, List.isEmpty_iff, decide_eq_true_iff, not_or]
    exact ⟨h.1, h.2.1⟩
  unfold enter
  rw [if_neg hskip]

section Resolved

variable {t : FileTree} {origin done place : List Text} {rooted : Bool}

/-- One more element, resolved or followed, leads to the same place. -/
theorem follow_push {e : Text} (hroot : rooted = true → origin = [])
    (hdone : ∀ d ∈ done, Path.IsStep d) (h : t.follow origin done.reverse = .ok place)
    (hdir : t.get? place.reverse = some .directory) :
    t.follow origin (Path.push rooted done e).reverse = .ok (enter place e) := by
  have hmore : t.follow origin (e :: done).reverse = .ok (enter place e) := by
    rw [List.reverse_cons]
    exact follow_append_eq_ok_iff.mpr ⟨place, h, follow_singleton_eq_ok_iff.mpr ⟨hdir, rfl⟩⟩
  unfold Path.push
  by_cases hskip : (e.isEmpty || e = Text.ofString ".") = true
  · rw [if_pos hskip, enter, if_pos hskip]
    exact h
  · rw [if_neg hskip]
    by_cases habove : e = Text.ofString ".."
    · have henter : enter place e = place.tail := by
        rw [enter, if_neg hskip, if_pos habove]
      rw [if_pos habove]
      cases done with
      | nil =>
        obtain rfl : origin = place := Except.ok.inj h
        cases rooted with
        | true =>
          rw [henter, hroot rfl]
          rfl
        | false => exact hmore
      | cons d rest =>
        simp only
        by_cases hd : d = Text.ofString ".."
        · rw [if_pos hd]
          exact hmore
        · rw [if_neg hd, henter]
          rw [List.reverse_cons] at h
          obtain ⟨before, hbefore, hlast⟩ := follow_append_eq_ok_iff.mp h
          obtain ⟨-, hlast⟩ := follow_singleton_eq_ok_iff.mp hlast
          rw [enter_of_isStep (hdone d List.mem_cons_self), if_neg hd] at hlast
          rw [← hlast]
          exact hbefore
    · rw [if_neg habove]
      exact hmore

/-- A path with its references resolved leads where the path itself leads. -/
theorem follow_foldl_push {es final : List Text} (hroot : rooted = true → origin = [])
    (hdone : ∀ d ∈ done, Path.IsStep d) (hes : ∀ e ∈ es, slash ∉ e)
    (h : t.follow origin done.reverse = .ok place) (hfinal : t.follow place es = .ok final) :
    t.follow origin (es.foldl (Path.push rooted) done).reverse = .ok final := by
  induction es generalizing done place with
  | nil =>
    obtain rfl : place = final := Except.ok.inj hfinal
    exact h
  | cons e es ih =>
    obtain ⟨hdir, hfinal⟩ := follow_cons_eq_ok_iff.mp hfinal
    exact ih (Path.isStep_push hdone (hes e List.mem_cons_self))
      (fun x hx => hes x (List.mem_cons_of_mem e hx)) (follow_push hroot hdone h hdir) hfinal

end Resolved

theorem resolve_file {t : FileTree} {cwd dir name : Text} {place : List Text}
    (hdir : t.resolve cwd dir = .ok place) (hplace : t.get? place = some .directory)
    (hname : Path.IsName name) :
    t.resolve cwd (Path.clean (dir ++ slash :: name)) = .ok (place ++ [name]) := by
  obtain ⟨hne, hfollow⟩ := resolve_eq_ok_iff.mp hdir
  have hroot : Path.isAbsolute dir = true → start cwd dir = [] := fun h => by rw [start, if_pos h]
  have hstart : start cwd (Path.clean (dir ++ slash :: name)) = start cwd dir := by
    rw [start, start, Path.isAbsolute_clean_file hne hname]
  have hresolved : t.follow (start cwd dir) (Path.resolved dir).reverse = .ok place.reverse :=
    follow_foldl_push hroot (fun _ hd => absurd hd List.not_mem_nil)
      (fun _ he => Text.not_mem_of_mem_splitOn he) rfl hfollow
  have hlast : t.follow place.reverse [name] = .ok (place ++ [name]).reverse := by
    rw [follow_singleton_eq_ok_iff, List.reverse_reverse, List.reverse_concat,
      enter_of_isStep ⟨hname.ne_nil, hname.ne_here, hname.no_slash⟩, if_neg hname.ne_above]
    exact ⟨hplace, rfl⟩
  have hwhole := follow_append_eq_ok_iff.mpr ⟨_, hresolved, hlast⟩
  refine resolve_eq_ok_iff.mpr ⟨?_, ?_⟩
  · exact Path.clean_file_ne_nil hne hname
  · rw [hstart, elements, Path.splitOn_clean_file hne hname]
    by_cases habs : Path.isAbsolute dir = true
    · rw [if_pos habs]
      refine follow_cons_eq_ok_iff.mpr ⟨?_, ?_⟩
      · rw [hroot habs]
        rfl
      · exact hwhole
    · rw [if_neg habs]
      exact hwhole

/-! ## Writing files -/

theorem stat_of_resolve {t : FileTree} {cwd p : Text} {place : List Text} {e : Entry}
    (h : t.resolve cwd p = .ok place) (hentry : t.get? place = some e) : t.stat cwd p = .ok e := by
  simp only [stat, h, hentry, bind, Except.bind]

theorem resolve_of_stat {t : FileTree} {cwd p : Text} {e : Entry} (h : t.stat cwd p = .ok e) :
    ∃ place, t.resolve cwd p = .ok place ∧ t.get? place = some e := by
  unfold stat at h
  cases hplace : t.resolve cwd p with
  | error fault => simp [hplace, bind, Except.bind] at h
  | ok place =>
    cases hentry : t.get? place with
    | none => simp [hplace, hentry, bind, Except.bind] at h
    | some e' =>
      simp only [hplace, hentry, bind, Except.bind, Except.ok.injEq] at h
      exact ⟨place, rfl, h ▸ hentry⟩

theorem pathOf_concat_ne (place : List Text) (name : Text) (h : place ≠ []) :
    pathOf (place ++ [name]) ≠ pathOf place := by
  intro heq
  have hlength := congrArg List.length (List.cons.inj heq).2
  rw [Text.join_concat _ h, List.length_append, List.length_append, List.length_singleton] at hlength
  omega

theorem pathOf_concat_inj {place : List Text} {name name' : Text}
    (h : pathOf (place ++ [name]) = pathOf (place ++ [name'])) : name = name' := by
  have hjoin := (List.cons.inj h).2
  by_cases hnil : place = []
  · subst hnil
    exact hjoin
  · rw [Text.join_concat _ hnil, Text.join_concat _ hnil] at hjoin
    exact List.append_cancel_left hjoin

section Write

variable {t : FileTree} {cwd p : Text} {place : List Text} {name : Text}

theorem write_file (content : Text) (h : t.resolve cwd p = .ok (place ++ [name]))
    (hdir : t.get? place = some .directory) (hfree : t.get? (place ++ [name]) ≠ some .directory) :
    t.write cwd p content = .ok (t.put (pathOf (place ++ [name])) (.file content)) := by
  have hparent : t.get? (place ++ [name]).dropLast = some .directory := by
    rw [List.dropLast_concat]
    exact hdir
  unfold write
  simp only [h, bind, Except.bind, hparent]
  cases hentry : t.get? (place ++ [name]) with
  | none => rfl
  | some e =>
    cases e with
    | file old => rfl
    | directory => exact absurd hentry hfree

theorem put_of_write {t' : FileTree} {content : Text} (h : t.resolve cwd p = .ok place)
    (hwrite : t.write cwd p content = .ok t') :
    t.get? place ≠ some .directory ∧ t' = t.put (pathOf place) (.file content) := by
  unfold write at hwrite
  simp only [h, bind, Except.bind] at hwrite
  cases hentry : t.get? place with
  | none =>
    rw [hentry] at hwrite
    cases hparent : t.get? place.dropLast with
    | none => simp [hparent] at hwrite
    | some e =>
      cases e with
      | file old => simp [hparent] at hwrite
      | directory =>
        simp only [hparent, Except.ok.injEq] at hwrite
        exact ⟨by simp, hwrite.symm⟩
  | some e =>
    rw [hentry] at hwrite
    cases e with
    | file old => exact ⟨by simp, (Except.ok.inj hwrite).symm⟩
    | directory => exact absurd hwrite (by simp)

theorem read_of_get? {content : Text} (h : t.resolve cwd p = .ok place)
    (hentry : t.get? place = some (.file content)) : t.read cwd p = .ok content := by
  simp only [read, stat, h, hentry, bind, Except.bind]

theorem get?_of_read {content : Text} (h : t.read cwd p = .ok content) :
    ∃ place, place ≠ [] ∧ t.resolve cwd p = .ok place ∧ t.get? place = some (.file content) := by
  unfold read at h
  cases hstat : t.stat cwd p with
  | error fault => simp [hstat, bind, Except.bind] at h
  | ok e =>
    obtain ⟨place, hplace, hentry⟩ := resolve_of_stat hstat
    cases e with
    | directory => simp [hstat, bind, Except.bind] at h
    | file old =>
      simp only [hstat, bind, Except.bind, Except.ok.injEq] at h
      subst h
      refine ⟨place, ?_, hplace, hentry⟩
      rintro rfl
      exact absurd hentry (by simp [get?])

end Write

/-! ## Writing over a file -/

/-- The elements of a place: they are not empty and hold no slash. -/
def IsPlace (place : List Text) : Prop := ∀ e ∈ place, e ≠ [] ∧ slash ∉ e

theorem isPlace_enter {done : List Text} {e : Text} (h : IsPlace done) (he : slash ∉ e) :
    IsPlace (enter done e) := by
  unfold enter
  by_cases hskip : (e.isEmpty || e = Text.ofString ".") = true
  · rw [if_pos hskip]
    exact h
  · rw [if_neg hskip]
    simp only [Bool.or_eq_true, List.isEmpty_iff, decide_eq_true_iff, not_or] at hskip
    by_cases habove : e = Text.ofString ".."
    · rw [if_pos habove]
      exact fun x hx => h x (List.mem_of_mem_tail hx)
    · rw [if_neg habove]
      exact List.forall_mem_cons.mpr ⟨⟨hskip.1, he⟩, h⟩

theorem isPlace_follow {t : FileTree} {done place es : List Text} (h : IsPlace done)
    (hes : ∀ e ∈ es, slash ∉ e) (hfollow : t.follow done es = .ok place) : IsPlace place := by
  induction es generalizing done with
  | nil =>
    obtain rfl : done = place := Except.ok.inj hfollow
    exact h
  | cons e es ih =>
    obtain ⟨-, hrest⟩ := follow_cons_eq_ok_iff.mp hfollow
    exact ih (isPlace_enter h (hes e List.mem_cons_self)) (fun x hx => hes x (List.mem_cons_of_mem e hx)) hrest

theorem isPlace_of_resolve {t : FileTree} {cwd p : Text} {place : List Text}
    (h : t.resolve cwd p = .ok place) : IsPlace place := by
  obtain ⟨-, hfollow⟩ := resolve_eq_ok_iff.mp h
  have hstart : IsPlace (start cwd p) := by
    unfold start
    split
    · exact fun e he => absurd he List.not_mem_nil
    · intro e he
      rw [List.mem_reverse, List.mem_filter] at he
      exact ⟨by simpa using he.2, Text.not_mem_of_mem_splitOn he.1⟩
  have hplace := isPlace_follow hstart (fun _ he => Text.not_mem_of_mem_splitOn he) hfollow
  exact fun e he => hplace e (List.mem_reverse.mpr he)

theorem splitOn_pathOf {place : List Text} (h : IsPlace place) :
    (Text.splitOn slash (pathOf place)).filter (!·.isEmpty) = place := by
  have hself : place.filter (!·.isEmpty) = place :=
    List.filter_eq_self.mpr fun e he => by simpa using (h e he).1
  have hsplit : Text.splitOn slash (pathOf place) = [] :: Text.splitOn slash (Text.join [slash] place) :=
    Text.splitOn_append_sep slash [] _
  by_cases hnil : place = []
  · subst hnil
    rfl
  · rw [hsplit, Text.splitOn_join hnil fun e he => (h e he).2]
    exact hself

theorem pathOf_inj {place place' : List Text} (h : IsPlace place) (h' : IsPlace place')
    (heq : pathOf place = pathOf place') : place = place' := by
  rw [← splitOn_pathOf h, ← splitOn_pathOf h', heq]

section Over

variable {t : FileTree} {q : List Text} {old new : Text}

theorem follow_put_over (hq : q ≠ []) (hfile : t.get? q = some (.file old)) (done es : List Text) :
    (t.put (pathOf q) (.file new)).follow done es = t.follow done es := by
  induction es generalizing done with
  | nil => rfl
  | cons e es ih =>
    rw [follow, follow]
    by_cases hsame : done.reverse ≠ [] ∧ pathOf done.reverse = pathOf q
    · have hold := (t.get?_congr hsame.1 hq hsame.2).trans hfile
      have hnew := ((t.put (pathOf q) (.file new)).get?_congr hsame.1 hq hsame.2).trans
        (get?_put_self t (.file new) hq)
      rw [hold, hnew]
    · rw [get?_put_of_ne t _ fun hne heq => hsame ⟨hne, heq⟩, ih, ih, ih]

/-- Writing over a file changes no way. -/
theorem resolve_put_over (hq : q ≠ []) (hfile : t.get? q = some (.file old)) (cwd p : Text) :
    (t.put (pathOf q) (.file new)).resolve cwd p = t.resolve cwd p := by
  unfold resolve
  simp only [follow_put_over hq hfile]

/-- Writing over a file changes no other file. -/
theorem read_put_over {cwd p : Text} {place : List Text} (hq : q ≠ [])
    (hfile : t.get? q = some (.file old)) (hplace : t.resolve cwd p = .ok place)
    (hne : pathOf place ≠ pathOf q) :
    (t.put (pathOf q) (.file new)).read cwd p = t.read cwd p := by
  have hresolve : (t.put (pathOf q) (.file new)).resolve cwd p = .ok place :=
    (resolve_put_over hq hfile cwd p).trans hplace
  unfold read stat
  rw [hresolve, hplace]
  simp only [bind, Except.bind, get?_put_of_ne t (.file new) fun _ => hne]

end Over

/-! ## Files side by side -/

def putAll (t : FileTree) (es : List (Text × Entry)) : FileTree := es.foldl (fun t e => t.put e.1 e.2) t

/-- Entries at different paths: each is there once, and every other entry as before. -/
theorem entries_putAll (t : FileTree) {es : List (Text × Entry)} (h : (es.map Prod.fst).Nodup) :
    (t.putAll es).entries = t.entries.filter (fun e => e.1 ∉ es.map Prod.fst) ++ es := by
  induction es generalizing t with
  | nil =>
    rw [List.filter_eq_self.mpr (by simp), List.append_nil]
    rfl
  | cons e es ih =>
    rw [List.map_cons, List.nodup_cons] at h
    show ((t.put e.1 e.2).putAll es).entries = _
    rw [ih _ h.2, put, List.filter_append, List.filter_filter]
    have hself : [(e.1, e.2)].filter (fun x => x.1 ∉ es.map Prod.fst) = [e] := by
      simp [h.1]
    have hold : (fun x : Text × Entry => decide (x.1 ∉ es.map Prod.fst) && decide (x.1 ≠ e.1)) =
        fun x => decide (x.1 ∉ (e :: es).map Prod.fst) := by
      funext x
      rw [← Bool.decide_and]
      refine decide_eq_decide.mpr ?_
      rw [List.map_cons, List.mem_cons, not_or]
      exact And.comm
    rw [hself, hold, List.append_assoc, List.singleton_append]

theorem get?_putAll_of_ne (t : FileTree) {es : List (Text × Entry)} {place : List Text}
    (h : place ≠ [] → pathOf place ∉ es.map Prod.fst) : (t.putAll es).get? place = t.get? place := by
  induction es generalizing t with
  | nil => rfl
  | cons e es ih =>
    simp only [List.map_cons, List.mem_cons, not_or] at h
    show ((t.put e.1 e.2).putAll es).get? place = _
    rw [ih _ fun hne => (h hne).2, get?_put_of_ne t e.2 fun hne => (h hne).1]

/-- The entries of files in one directory, given by their names and contents. -/
def filesIn (place : List Text) (named : List (Text × Text)) : List (Text × Entry) :=
  named.map fun f => (pathOf (place ++ [f.1]), .file f.2)

theorem nodup_filesIn (place : List Text) {named : List (Text × Text)}
    (h : (named.map Prod.fst).Nodup) : ((filesIn place named).map Prod.fst).Nodup := by
  have hpaths : (filesIn place named).map Prod.fst =
      (named.map Prod.fst).map fun name => pathOf (place ++ [name]) := by
    simp only [filesIn, List.map_map, Function.comp_def]
  rw [hpaths]
  exact List.Pairwise.map _ (fun _ _ hne heq => hne (pathOf_concat_inj heq)) h

theorem get?_putAll_filesIn (t : FileTree) (place : List Text) {named : List (Text × Text)}
    (h : (named.map Prod.fst).Nodup) {name content : Text} (hf : (name, content) ∈ named) :
    (t.putAll (filesIn place named)).get? (place ++ [name]) = some (.file content) := by
  induction named generalizing t with
  | nil => exact absurd hf List.not_mem_nil
  | cons f named ih =>
    rw [List.map_cons, List.nodup_cons] at h
    show ((t.put (pathOf (place ++ [f.1])) (.file f.2)).putAll (filesIn place named)).get? _ = _
    rcases List.mem_cons.mp hf with rfl | hf
    · have hapart : pathOf (place ++ [name]) ∉ (filesIn place named).map Prod.fst := by
        intro hmem
        simp only [filesIn, List.map_map, List.mem_map, Function.comp_apply] at hmem
        obtain ⟨g, hg, heq⟩ := hmem
        exact h.1 (List.mem_map.mpr ⟨g, hg, pathOf_concat_inj heq⟩)
      rw [get?_putAll_of_ne _ fun _ => hapart, get?_put_self _ _ (by simp)]
    · exact ih _ h.2 hf

/-- A file in a directory does not change the directory. -/
theorem get?_put_file {t : FileTree} {place : List Text} (h : t.get? place = some .directory) (name : Text)
    (e : Entry) : (t.put (pathOf (place ++ [name])) e).get? place = some .directory := by
  rw [get?_put_of_ne t e fun hne => (pathOf_concat_ne place name hne).symm]
  exact h

theorem resolve_put_file {t : FileTree} {cwd p name : Text} {e : Entry} {place q : List Text}
    (h : t.resolve cwd p = .ok q) (hfree : t.get? (place ++ [name]) ≠ some .directory) :
    (t.put (pathOf (place ++ [name])) e).resolve cwd p = .ok q := by
  refine resolve_put (fun r hr hpath => ?_) h
  rw [t.get?_congr hr (by simp) hpath]
  exact hfree

theorem get?_putAll_dir (t : FileTree) (place : List Text) (named : List (Text × Text)) :
    (t.putAll (filesIn place named)).get? place = t.get? place := by
  refine get?_putAll_of_ne t fun hne hmem => ?_
  simp only [filesIn, List.map_map, List.mem_map, Function.comp_apply] at hmem
  obtain ⟨f, -, heq⟩ := hmem
  exact pathOf_concat_ne place f.1 hne heq

theorem resolve_putAll {t : FileTree} {cwd p : Text} {place q : List Text} {named : List (Text × Text)}
    (hfree : ∀ f ∈ named, t.get? (place ++ [f.1]) ≠ some .directory) (h : t.resolve cwd p = .ok q) :
    (t.putAll (filesIn place named)).resolve cwd p = .ok q := by
  induction named generalizing t with
  | nil => exact h
  | cons f named ih =>
    refine ih (fun g hg => ?_) (resolve_put_file h (hfree f List.mem_cons_self))
    show (t.put (pathOf (place ++ [f.1])) (.file f.2)).get? (place ++ [g.1]) ≠ some .directory
    by_cases heq : pathOf (place ++ [g.1]) = pathOf (place ++ [f.1])
    · rw [← heq, get?_put_self t _ (by simp)]
      simp
    · rw [get?_put_of_ne t _ fun _ => heq]
      exact hfree g (List.mem_cons_of_mem f hg)

/-! ## Making directories -/

theorem eq_unslashed_append (p : Text) : ∃ n, p = unslashed p ++ List.replicate n slash := by
  have hall : ∀ b ∈ p.reverse.takeWhile (· = slash), b = slash := fun b hb =>
    of_decide_eq_true (List.all_eq_true.mp List.all_takeWhile b hb)
  have hslashes := List.eq_replicate_of_mem hall
  refine ⟨(p.reverse.takeWhile (· = slash)).length, ?_⟩
  rw [unslashed, ← List.reverse_replicate, ← hslashes, ← List.reverse_append,
    List.takeWhile_append_dropWhile, List.reverse_reverse]

theorem elements_append_slashes (p : Text) (n : Nat) :
    elements (p ++ List.replicate n slash) = elements p ++ List.replicate n [] := by
  induction n generalizing p with
  | zero => simp
  | succ n ih =>
    have hslashes : elements (List.replicate n slash) = [[]] ++ List.replicate n [] := ih []
    rw [List.replicate_succ, elements, Text.splitOn_append_sep]
    exact congrArg (elements p ++ ·) hslashes

theorem follow_slashes {t : FileTree} {done place es : List Text} (h : t.follow done es = .ok place)
    (hdir : t.get? place.reverse = some .directory) (n : Nat) :
    t.follow done (es ++ List.replicate n []) = .ok place := by
  refine follow_append_eq_ok_iff.mpr ⟨place, h, ?_⟩
  induction n with
  | zero => rfl
  | succ n ih => exact follow_cons_eq_ok_iff.mpr ⟨hdir, ih⟩

/-- Slashes behind a directory lead to the directory. -/
theorem resolve_append_slashes {t : FileTree} {cwd p : Text} {place : List Text}
    (h : t.resolve cwd p = .ok place) (hdir : t.get? place = some .directory) (n : Nat) :
    t.resolve cwd (p ++ List.replicate n slash) = .ok place := by
  obtain ⟨hne, hfollow⟩ := resolve_eq_ok_iff.mp h
  refine resolve_eq_ok_iff.mpr ⟨List.append_ne_nil_of_left_ne_nil hne _, ?_⟩
  rw [start, Path.isAbsolute_append hne, elements_append_slashes]
  exact follow_slashes hfollow (by rwa [List.reverse_reverse]) n

theorem stat_of_make {t t' : FileTree} {cwd p : Text} (h : t.make cwd p = .ok t') :
    t'.stat cwd p = .ok .directory := by
  unfold make at h
  by_cases hcond : (p.isEmpty || unslashed p ≠ []) = true
  · rw [if_pos hcond] at h
    cases hplace : t.resolve cwd (unslashed p) with
    | error fault => simp [hplace, bind, Except.bind] at h
    | ok place =>
      simp only [hplace, bind, Except.bind] at h
      split at h
      · exact absurd h (by simp)
      · next hnone hparent =>
        obtain rfl := Except.ok.inj h
        have hne : place ≠ [] := by
          rintro rfl
          exact absurd hnone (by simp [get?])
        have hfree : ∀ q, q ≠ [] → pathOf q = pathOf place → t.get? q ≠ some .directory := by
          intro q hq hpath
          rw [t.get?_congr hq hne hpath, hnone]
          simp
        have hdir : (t.put (pathOf place) .directory).get? place = some .directory :=
          get?_put_self t .directory hne
        obtain ⟨n, hp⟩ := eq_unslashed_append p
        have hresolve := resolve_append_slashes (resolve_put hfree hplace) hdir n
        rw [← hp] at hresolve
        exact stat_of_resolve hresolve hdir
      · exact absurd h (by simp)
      · exact absurd h (by simp)
  · rw [if_neg hcond] at h
    exact absurd h (by simp [bind, Except.bind, get?])

theorem stat_of_makeAll {t t' : FileTree} {cwd p : Text} {fuel : Nat}
    (h : t.makeAll cwd (fuel + 1) p = .ok t') : t'.stat cwd p = .ok .directory := by
  unfold makeAll at h
  split at h
  · next hstat =>
    obtain rfl := Except.ok.inj h
    exact hstat
  · exact absurd h (by simp)
  · -- The directories above are made first; then this one is made, or is there already.
    simp only [bind, Except.bind] at h
    split at h
    · split at h
      · exact absurd h (by simp)
      · split at h
        · next hmake => exact Except.ok.inj h ▸ stat_of_make hmake
        · next hstat => exact Except.ok.inj h ▸ hstat
        · exact absurd h (by simp)
    · split at h
      · next hmake => exact Except.ok.inj h ▸ stat_of_make hmake
      · next hstat => exact Except.ok.inj h ▸ hstat
      · exact absurd h (by simp)

theorem stat_of_makeDirectories {t t' : FileTree} {cwd p : Text}
    (h : t.makeDirectories cwd p = .ok t') : t'.stat cwd p = .ok .directory :=
  stat_of_makeAll h

end FileTree
end FeltLowering
