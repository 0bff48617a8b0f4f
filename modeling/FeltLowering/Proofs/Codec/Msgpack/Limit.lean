import FeltLowering.Proofs.Codec.Msgpack

/-
What can be read at all.

`Ensures r P` says that whatever the reader `r` gives satisfies `P`.  A header announces
fewer than `lengthLimit` bytes or elements, so no program that is read has a longer text or
list (`fit_of_decodeProgram?`), whatever it was read over.
-/
namespace FeltLowering
namespace Msgpack

/-! ## Lengths -/

/-- Lengths that a header can hold. -/
abbrev Fit (lengths : List Nat) : Prop := ∀ n ∈ lengths, n < lengthLimit

theorem fit_append {ms ns : List Nat} : Fit (ms ++ ns) ↔ Fit ms ∧ Fit ns := List.forall_mem_append

theorem fit_cons {n : Nat} {ns : List Nat} : Fit (n :: ns) ↔ n < lengthLimit ∧ Fit ns :=
  List.forall_mem_cons

def argLengths (a : GenericArg) : List Nat :=
  [(a.value.getD []).length, (a.type.elim [] (·.debugName)).length, (a.userType.getD []).length,
    (a.libfunc.elim [] (·.debugName)).length]

def declarationLengths (d : Declaration) : List Nat :=
  [d.id.debugName.length, d.genericId.length, d.argList.length] ++ d.argList.flatMap argLengths

/-- The lengths of all texts and lists in a program. -/
def lengths (p : Program) : List Nat :=
  [p.typeList.length, p.libfuncList.length] ++ (p.typeList ++ p.libfuncList).flatMap declarationLengths

theorem length_nil_lt {α : Type} : ([] : List α).length < lengthLimit := by
  simp [lengthLimit]

theorem forall_none {α : Type} {P : α → Prop} : ∀ x, none = some x → P x := by
  rintro x ⟨⟩

/-! ## What a reader gives -/

/-- Whatever the reader gives satisfies `P`. -/
def Ensures {α : Type} (r : Reader α) (P : α → Prop) : Prop :=
  ∀ t x rest, r t = some (x, rest) → P x

namespace Ensures

variable {α β : Type} {r : Reader α} {P : α → Prop} {Q : β → Prop}

theorem pure {x : α} (h : P x) : Ensures (Pure.pure x) P := by
  rintro t _ _ ⟨rfl, rfl⟩
  exact h

theorem failure : Ensures (Alternative.failure : Reader α) P := by
  rintro t x rest ⟨⟩

theorem any (r : Reader α) : Ensures r fun _ => True := fun _ _ _ _ => trivial

theorem mono {P' : α → Prop} (h : Ensures r P) (hP : ∀ x, P x → P' x) : Ensures r P' :=
  fun t x rest heq => hP x (h t x rest heq)

theorem bind {f : α → Reader β} (h : Ensures r P) (h' : ∀ a, P a → Ensures (f a) Q) : Ensures (r >>= f) Q := by
  intro t y rest heq
  obtain ⟨⟨a, t'⟩, hr, hf⟩ := Option.bind_eq_some_iff.mp heq
  exact h' a (h t a t' hr) t' y rest hf

theorem map {f : α → β} (h : Ensures r P) (hf : ∀ a, P a → Q (f a)) : Ensures (f <$> r) Q := by
  intro t y rest heq
  obtain ⟨⟨a, t'⟩, hr, hy⟩ := Option.bind_eq_some_iff.mp heq
  obtain ⟨rfl, rfl⟩ := Prod.mk.inj (Option.some.inj hy)
  exact hf a (h t a t' hr)

end Ensures

/-! ## Headers -/

theorem length_of_splitExact {n : Nat} {t front rest : Text} (h : splitExact n t = some (front, rest)) :
    front.length = n := by
  induction n generalizing t front with
  | zero =>
    cases h
    rfl
  | succ n ih =>
    cases t with
    | nil => cases h
    | cons b t =>
      obtain ⟨⟨front', rest'⟩, hsplit, heq⟩ := Option.map_eq_some_iff.mp h
      cases heq
      rw [List.length_cons, ih hsplit]

theorem foldl_bigEndian_lt (t : Text) (n : Nat) :
    t.foldl (fun n b => n * 256 + b.toNat) n < (n + 1) * 256 ^ t.length := by
  induction t generalizing n with
  | nil =>
    show n < (n + 1) * 1
    omega
  | cons b t ih =>
    have hb : b.toNat < 256 := b.toNat_lt
    calc t.foldl (fun n b => n * 256 + b.toNat) (n * 256 + b.toNat)
        < (n * 256 + b.toNat + 1) * 256 ^ t.length := ih _
      _ ≤ ((n + 1) * 256) * 256 ^ t.length := Nat.mul_le_mul_right _ (by omega)
      _ = (n + 1) * 256 ^ (t.length + 1) := by rw [Nat.pow_succ', Nat.mul_assoc]

theorem ensures_bytes (n : Nat) : Ensures (bytes n) fun t => t.length = n :=
  fun _ _ _ h => length_of_splitExact h

theorem ensures_unsigned (n : Nat) : Ensures (unsigned n) fun v => v < 256 ^ n := by
  refine (ensures_bytes n).map fun t ht => ?_
  have hlt := foldl_bigEndian_lt t 0
  rwa [ht, Nat.zero_add, Nat.one_mul] at hlt

theorem ensures_length {n : Nat} (h : n ≤ 4) : Ensures (unsigned n) fun v => v < lengthLimit :=
  (ensures_unsigned n).mono fun _ hv => Nat.lt_of_lt_of_le hv (Nat.pow_le_pow_right (by decide) h)

theorem toNat_sub_lt (c : UInt8) (k : Nat) : c.toNat - k < lengthLimit := by
  have hc : c.toNat < 256 := c.toNat_lt
  unfold lengthLimit
  omega

theorem ensures_textLength (c : UInt8) : Ensures (textLength c) fun n => n < lengthLimit := by
  unfold textLength
  split
  · exact .pure (by decide)
  · split
    · exact .pure (toNat_sub_lt c _)
    · split
      · exact ensures_length (by decide)
      · split
        · exact ensures_length (by decide)
        · split
          · exact ensures_length (by decide)
          · exact .failure

theorem ensures_readText : Ensures readText fun t => t.length < lengthLimit :=
  (Ensures.any byte).bind fun c _ => (ensures_textLength c).bind fun n hn =>
    (ensures_bytes n).mono fun _ ht => ht ▸ hn

theorem ensures_arrayLength {c : UInt8} {r : Reader (Option Nat)} (h : arrayLength? c = some r) :
    Ensures r fun o => ∀ n, o = some n → n < lengthLimit := by
  have hsome : ∀ {m : Nat}, m < lengthLimit → ∀ n, some m = some n → n < lengthLimit := by
    rintro m hm n ⟨rfl⟩
    exact hm
  unfold arrayLength? at h
  split at h
  · cases h
    exact .pure forall_none
  · split at h
    · cases h
      exact .pure (hsome (toNat_sub_lt c _))
    · split at h
      · cases h
        exact (ensures_length (by decide)).map fun _ => hsome
      · split at h
        · cases h
          exact (ensures_length (by decide)).map fun _ => hsome
        · cases h

/-! ## Records and lists -/

section Over

variable {α : Type} {P : α → Prop} {zero old : α}

/-- Every field reader keeps to `P`. -/
def Keeps (fields : Fields α) (P : α → Prop) : Prop := ∀ f ∈ fields, ∀ old, P old → Ensures (f.2 old) P

theorem ensures_readEntries {fields : Fields α} (h : Keeps fields P) (hold : P old) (n : Nat) :
    Ensures (readEntries fields n old) P := by
  induction n generalizing old with
  | zero => exact .pure hold
  | succ n ih =>
    refine (Ensures.any readText).bind fun key _ => Ensures.bind (P := P) ?_ fun new hnew => ih hnew
    unfold readEntry
    cases hfind : fields.find? fun f => f.1 = key with
    | none => exact (Ensures.any skip).bind fun _ _ => .pure hold
    | some f => exact h f (List.mem_of_find?_eq_some hfind) old hold

theorem ensures_foldlM {fields : Fields α} (h : Keeps fields P) (hold : P old) :
    Ensures (fields.foldlM (fun r f => f.2 r) old) P := by
  induction fields generalizing old with
  | nil => exact .pure hold
  | cons f fields ih =>
    exact (h f List.mem_cons_self old hold).bind fun new hnew =>
      ih (fun g hg => h g (List.mem_cons_of_mem f hg)) hnew

theorem ensures_readRecord {fields : Fields α} (h : Keeps fields P) (hzero : P zero) (hold : P old) :
    Ensures (readRecord zero fields old) P := by
  refine (Ensures.any byte).bind fun c _ => ?_
  split
  · refine (Ensures.any _).bind fun o _ => ?_
    split
    · exact .pure hzero
    · exact ensures_readEntries h hold _
  · split
    · exact .failure
    · refine (Ensures.any _).bind fun o _ => ?_
      split
      · exact .pure hzero
      · exact .pure hzero
      · split
        · exact ensures_foldlM h hold
        · exact .failure

/-- A list under reading that is not too long, and all of whose entries satisfy `P`. -/
def Holds (P : α → Prop) (o : Option (Slots α)) : Prop :=
  ∀ s, o = some s → s.used.length < lengthLimit ∧ ∀ x ∈ s.all, P x

variable {read : α → Reader α}

theorem ensures_readElements (hread : ∀ old, P old → Ensures (read old) P) (hzero : P zero) {old : List α}
    (hold : ∀ x ∈ old, P x) (n : Nat) :
    Ensures (readElements zero read n old) fun xs => xs.length = n ∧ ∀ x ∈ xs, P x := by
  induction n generalizing old with
  | zero => exact .pure ⟨rfl, fun _ hx => absurd hx List.not_mem_nil⟩
  | succ n ih =>
    have hhead : P (old.headD zero) := by
      cases old with
      | nil => exact hzero
      | cons x xs => exact hold x List.mem_cons_self
    refine (hread _ hhead).bind fun x hx => ?_
    refine (ih fun y hy => hold y (List.mem_of_mem_tail hy)).bind fun xs hxs => .pure ?_
    exact ⟨by rw [List.length_cons, hxs.1], List.forall_mem_cons.mpr ⟨hx, hxs.2⟩⟩

theorem ensures_readSlots (hread : ∀ old, P old → Ensures (read old) P) (hzero : P zero)
    {old : Option (Slots α)} (hold : Holds P old) : Ensures (readSlots zero read old) (Holds P) := by
  have hall : ∀ x ∈ (old.getD .empty).all, P x := by
    cases old with
    | none => exact fun _ hx => absurd hx List.not_mem_nil
    | some s => exact (hold s rfl).2
  refine (Ensures.any byte).bind fun c _ => ?_
  split
  · exact .failure
  · next hcode =>
    refine (ensures_arrayLength hcode).bind fun o ho => ?_
    split
    · exact .pure forall_none
    · refine (ensures_readElements hread hzero hall _).bind fun used hused => .pure ?_
      rintro s ⟨rfl⟩
      refine ⟨hused.1 ▸ ho _ rfl, fun x hx => ?_⟩
      rcases List.mem_append.mp hx with hx | hx
      · exact hused.2 x hx
      · exact hall x (List.mem_of_mem_drop hx)

theorem ensures_readPayload (hread : ∀ old, P old → Ensures (read old) P) (hzero : P zero) {old : Option α}
    (hold : ∀ x, old = some x → P x) :
    Ensures (readPayload zero read old) fun o => ∀ x, o = some x → P x := by
  have hover : P (old.getD zero) := by
    cases old with
    | none => exact hzero
    | some x => exact hold x rfl
  refine (Ensures.any _).bind fun t _ => ?_
  split
  · exact (Ensures.any byte).bind fun _ _ => .pure forall_none
  · refine (hread _ hover).map fun a ha x hx => ?_
    cases hx
    exact ha

end Over

/-! ## Programs -/

structure ArgFits (a : GenericArg) : Prop where
  value : ∀ t, a.value = some t → t.length < lengthLimit
  type : ∀ i, a.type = some i → i.debugName.length < lengthLimit
  userType : ∀ t, a.userType = some t → t.length < lengthLimit
  libfunc : ∀ i, a.libfunc = some i → i.debugName.length < lengthLimit

structure DraftFits (d : DeclarationDraft) : Prop where
  name : d.id.debugName.length < lengthLimit
  genericId : d.genericId.length < lengthLimit
  args : Holds ArgFits d.args

structure ProgramFits (p : ProgramDraft) : Prop where
  types : Holds DraftFits p.types
  libfuncs : Holds DraftFits p.libfuncs

theorem ensures_readIdent (i : Ident) (h : i.debugName.length < lengthLimit) :
    Ensures (readIdent i) fun i => i.debugName.length < lengthLimit := by
  refine ensures_readRecord ?_ length_nil_lt h
  simp only [Keeps, identFields, List.forall_mem_cons, List.not_mem_nil, false_implies, implies_true, and_true]
  exact ⟨fun _ hi => (Ensures.any readId).bind fun _ _ => .pure hi,
    fun _ _ => ensures_readText.bind fun _ ht => .pure ht⟩

theorem argFits_empty : ArgFits {} := ⟨forall_none, forall_none, forall_none, forall_none⟩

theorem ensures_readArg (a : GenericArg) (h : ArgFits a) : Ensures (readArg a) ArgFits := by
  have htext : ∀ {old : Option Text}, (∀ t, old = some t → t.length < lengthLimit) →
      Ensures (readPayload [] (fun _ => readText) old) fun o => ∀ t, o = some t → t.length < lengthLimit :=
    ensures_readPayload (fun _ _ => ensures_readText) length_nil_lt
  have hident : ∀ {old : Option Ident}, (∀ i, old = some i → i.debugName.length < lengthLimit) →
      Ensures (readPayload ⟨0, []⟩ readIdent old) fun o => ∀ i, o = some i → i.debugName.length < lengthLimit :=
    ensures_readPayload ensures_readIdent length_nil_lt
  refine ensures_readRecord ?_ argFits_empty h
  simp only [Keeps, argFields, List.forall_mem_cons, List.not_mem_nil, false_implies, implies_true, and_true]
  exact ⟨fun _ ha => (htext ha.value).bind fun _ ho => .pure { ha with value := ho },
    fun _ ha => (hident ha.type).bind fun _ ho => .pure { ha with type := ho },
    fun _ ha => (htext ha.userType).bind fun _ ho => .pure { ha with userType := ho },
    fun _ ha => (hident ha.libfunc).bind fun _ ho => .pure { ha with libfunc := ho }⟩

theorem ensures_readLongId (d : DeclarationDraft) (h : DraftFits d) : Ensures (readLongId d) DraftFits := by
  refine ensures_readRecord ?_ ⟨h.name, length_nil_lt, forall_none⟩ h
  simp only [Keeps, longIdFields, List.forall_mem_cons, List.not_mem_nil, false_implies, implies_true, and_true]
  exact ⟨fun _ hd => ensures_readText.bind fun _ ht => .pure { hd with genericId := ht },
    fun _ hd => (ensures_readSlots ensures_readArg argFits_empty hd.args).bind fun _ ho =>
      .pure { hd with args := ho }⟩

theorem draftFits_empty : DraftFits {} := ⟨length_nil_lt, length_nil_lt, forall_none⟩

theorem ensures_readDeclaration (d : DeclarationDraft) (h : DraftFits d) :
    Ensures (readDeclaration d) DraftFits := by
  refine ensures_readRecord ?_ draftFits_empty h
  simp only [Keeps, declarationFields, List.forall_mem_cons, List.not_mem_nil, false_implies, implies_true,
    and_true]
  exact ⟨fun d hd => (ensures_readIdent d.id hd.name).bind fun _ hi => .pure { hd with name := hi },
    ensures_readLongId⟩

theorem ensures_readProgram : Ensures (readRecord {} programFields {}) ProgramFits := by
  have hempty : ProgramFits {} := ⟨forall_none, forall_none⟩
  refine ensures_readRecord ?_ hempty hempty
  simp only [Keeps, programFields, List.forall_mem_cons, List.not_mem_nil, false_implies, implies_true,
    and_true]
  exact ⟨fun _ hp => (ensures_readSlots ensures_readDeclaration draftFits_empty hp.types).bind fun _ ho =>
      .pure { hp with types := ho },
    fun _ hp => (ensures_readSlots ensures_readDeclaration draftFits_empty hp.libfuncs).bind fun _ ho =>
      .pure { hp with libfuncs := ho }⟩

/-! ## Finished programs -/

theorem ArgFits.fit {a : GenericArg} (h : ArgFits a) : Fit (argLengths a) := by
  obtain ⟨value, type, userType, libfunc⟩ := a
  simp only [argLengths, fit_cons]
  refine ⟨?_, ?_, ?_, ?_, fun _ hn => absurd hn List.not_mem_nil⟩
  · cases value with
    | none => exact length_nil_lt
    | some t => exact h.value t rfl
  · cases type with
    | none => exact length_nil_lt
    | some i => exact h.type i rfl
  · cases userType with
    | none => exact length_nil_lt
    | some t => exact h.userType t rfl
  · cases libfunc with
    | none => exact length_nil_lt
    | some i => exact h.libfunc i rfl

theorem Holds.used {α : Type} {P : α → Prop} {o : Option (Slots α)} (h : Holds P o) :
    ((o.map Slots.used).getD []).length < lengthLimit ∧ ∀ x ∈ (o.map Slots.used).getD [], P x := by
  cases o with
  | none => exact ⟨length_nil_lt, fun _ hx => absurd hx List.not_mem_nil⟩
  | some s => exact ⟨(h s rfl).1, fun x hx => (h s rfl).2 x (List.mem_append_left _ hx)⟩

theorem DraftFits.fit {d : DeclarationDraft} (h : DraftFits d) : Fit (declarationLengths d.finish) := by
  obtain ⟨hlength, hargs⟩ := h.args.used
  simp only [declarationLengths, fit_append, fit_cons]
  refine ⟨⟨h.name, h.genericId, hlength, fun _ hn => absurd hn List.not_mem_nil⟩, fun n hn => ?_⟩
  obtain ⟨a, ha, hn⟩ := List.mem_flatMap.mp hn
  exact (hargs a ha).fit n hn

theorem Holds.finish {o : Option (Slots DeclarationDraft)} (h : Holds DraftFits o) :
    ((o.map (·.used.map DeclarationDraft.finish)).getD []).length < lengthLimit ∧
      ∀ d ∈ (o.map (·.used.map DeclarationDraft.finish)).getD [], Fit (declarationLengths d) := by
  obtain ⟨hlength, hused⟩ := h.used
  cases o with
  | none => exact ⟨hlength, fun _ hd => absurd hd List.not_mem_nil⟩
  | some s =>
    refine ⟨by simpa using hlength, fun d hd => ?_⟩
    obtain ⟨draft, hdraft, rfl⟩ := List.mem_map.mp hd
    exact (hused draft hdraft).fit

/-- No program that is read has a text or a list that is too long for a header. -/
theorem fit_of_decodeProgram? {t : Text} {p : Program} (h : decodeProgram? t = some p) : Fit (lengths p) := by
  obtain ⟨⟨draft, rest⟩, hread, rfl⟩ := Option.map_eq_some_iff.mp h
  have hfits := ensures_readProgram t draft rest hread
  obtain ⟨htypes, htype⟩ := hfits.types.finish
  obtain ⟨hlibfuncs, hlibfunc⟩ := hfits.libfuncs.finish
  simp only [lengths, fit_append, fit_cons]
  refine ⟨⟨htypes, hlibfuncs, fun _ hn => absurd hn List.not_mem_nil⟩, fun n hn => ?_⟩
  obtain ⟨d, hd, hn⟩ := List.mem_flatMap.mp hn
  rcases List.mem_append.mp hd with hd | hd
  · exact htype d hd n hn
  · exact hlibfunc d hd n hn

end Msgpack
end FeltLowering
