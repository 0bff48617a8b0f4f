import FeltLowering.Codec.Json.Program
import FeltLowering.Proofs.Codec
import FeltLowering.Proofs.Codec.Json

/-
Programs in JSON read back.

The value of a program gives the program back whatever its texts are; that the value can
be read from its written form needs them to be valid UTF-8.
-/
namespace FeltLowering
namespace Json

/-! ## Records -/

section Records

variable {α β : Type} {fields : List (Text × (α → Json → Option α))} {old new : α}

theorem readRecord_cons (mid : α) {k : Text} {v : Json} {f : Text × (α → Json → Option α)}
    (hfind : Text.findFolded? fields k = some f) (hv : f.2 old v = some mid) (ms : List (Text × Json)) :
    readRecord fields old ((k, v) :: ms) = readRecord fields mid ms := by
  rw [readRecord, hfind]
  show (f.2 old v >>= _) = _
  rw [hv]
  rfl

theorem bind_pure_eq {o : Option β} {x : β} {set : β → α} (h : o = some x) (hset : set x = new) :
    (do let y ← o; return set y) = some new := by
  rw [h, ← hset]
  rfl

theorem readRecord_append {mid : α} {ms ms' : List (Text × Json)} (h : readRecord fields old ms = some mid) :
    readRecord fields old (ms ++ ms') = readRecord fields mid ms' := by
  induction ms generalizing old with
  | nil =>
    obtain rfl : old = mid := Option.some.inj h
    rfl
  | cons m ms ih =>
    obtain ⟨k, v⟩ := m
    rw [readRecord] at h
    obtain ⟨f, hfind, h⟩ := Option.bind_eq_some_iff.mp h
    obtain ⟨next, hv, h⟩ := Option.bind_eq_some_iff.mp h
    rw [List.cons_append, readRecord_cons next hfind hv, ih h]

/-- A member that is written only if there is something to write. -/
theorem readRecord_option {o : Option β} {write : β → Text × Json} (hnone : o = none → old = new)
    (hsome : ∀ x, o = some x → readRecord fields old [write x] = some new) :
    readRecord fields old (o.map write).toList = some new := by
  cases o with
  | none => exact congrArg some (hnone rfl)
  | some x => exact hsome x rfl

theorem readOver_map {zero : α} {read : α → Json → Option α} {write : β → Json} {result : β → α}
    {xs : List β} (h : ∀ x ∈ xs, read zero (write x) = some (result x)) :
    readOver zero read [] (xs.map write) = some (xs.map result) := by
  induction xs with
  | nil => rfl
  | cons x xs ih =>
    have hrest := ih fun y hy => h y (List.mem_cons_of_mem x hy)
    rw [List.map_cons, readOver, h x List.mem_cons_self, hrest]
    rfl

theorem readSlots_array {zero : α} {read : α → Json → Option α} (write : β → Json) (result : β → α)
    {xs : List β} (h : ∀ x ∈ xs, read zero (write x) = some (result x)) :
    readSlots zero read none (.array (xs.map write)) = some (some ⟨xs.map result, []⟩) := by
  cases xs with
  | nil => rfl
  | cons x xs =>
    have hover := readOver_map h
    show (readOver zero read [] ((x :: xs).map write) >>= _) = _
    rw [hover]
    rfl

end Records

theorem readId_ofNat (old v : UInt64) : readId old (ofNat v.toNat) = some v := by
  have hlt : v.toNat < twoPow 64 := v.toNat_lt
  show (Decimal.parseNat? (Text.ofNat v.toNat) >>= _) = _
  rw [Text.parseNat?_ofNat]
  show (if _ then _ else _) = _
  rw [if_pos hlt]
  exact congrArg some UInt64.ofNat_toNat

theorem readIdent_ofIdent (i : Ident) : readIdent ⟨0, []⟩ (ofIdent i) = some i := by
  unfold readIdent ofIdent
  rw [readObject, readRecord_cons ⟨i.id, []⟩ rfl (bind_pure_eq (readId_ofNat 0 i.id) rfl)]
  by_cases hname : i.debugName = []
  · rw [hname]
    exact congrArg (fun t => some (Ident.mk i.id t)) hname.symm
  · rw [if_neg (by simpa using hname)]
    rfl

theorem readPayload_ofIdent (i : Ident) : readPayload ⟨0, []⟩ readIdent none (ofIdent i) = some (some i) :=
  congrArg (Option.map some) (readIdent_ofIdent i)

theorem readArg_ofArg (a : GenericArg) : readArg {} (ofArg a) = some a := by
  obtain ⟨value, type, userType, libfunc⟩ := a
  -- The payloads are set one after the other, in the order they are written.
  have h1 : readRecord argFields {} (value.map fun t => (Text.ofString "value", Json.string t)).toList =
      some { value } := by
    refine readRecord_option (fun hnone => by rw [hnone]) fun t ht => ?_
    subst ht
    rfl
  have h2 : readRecord argFields { value }
      (type.map fun i => (Text.ofString "type", ofIdent i)).toList = some { value, type } := by
    refine readRecord_option (fun hnone => by rw [hnone]) fun i hi => ?_
    subst hi
    exact readRecord_cons _ rfl (bind_pure_eq (readPayload_ofIdent i) rfl) []
  have h3 : readRecord argFields { value, type }
      (userType.map fun t => (Text.ofString "user_type", Json.string t)).toList =
        some { value, type, userType } := by
    refine readRecord_option (fun hnone => by rw [hnone]) fun t ht => ?_
    subst ht
    rfl
  have h4 : readRecord argFields { value, type, userType }
      (libfunc.map fun i => (Text.ofString "libfunc", ofIdent i)).toList =
        some { value, type, userType, libfunc } := by
    refine readRecord_option (fun hnone => by rw [hnone]) fun i hi => ?_
    subst hi
    exact readRecord_cons _ rfl (bind_pure_eq (readPayload_ofIdent i) rfl) []
  unfold readArg ofArg
  rw [readObject, List.append_assoc, List.append_assoc, readRecord_append h1, readRecord_append h2,
    readRecord_append h3, h4]

/-- The members for the generic id and the generic arguments. -/
def longMembers (d : Declaration) : List (Text × Json) :=
  ("generic_id", .string d.genericId) ::
    if d.argList = [] then [] else [("generic_args", .array (d.argList.map ofArg))]

theorem ofDeclaration_eq (d : Declaration) :
    ofDeclaration d = .object [("id", ofIdent d.id), ("long_id", .object (longMembers d))] := by
  unfold ofDeclaration longMembers
  cases d.argList <;> rfl

theorem readRecord_longMembers (d : Declaration) :
    readRecord longIdFields { id := d.id } (longMembers d) = some d.draft := by
  have hgeneric : readText [] (.string d.genericId) = some d.genericId := rfl
  rw [longMembers, readRecord_cons { id := d.id, genericId := d.genericId } rfl
    (bind_pure_eq hgeneric rfl)]
  by_cases hnone : d.argList = []
  · rw [if_pos hnone, Declaration.draft, if_pos hnone]
    rfl
  · have hread : ∀ a ∈ d.argList, readArg {} (ofArg a) = some a := fun a _ => readArg_ofArg a
    have hslots := readSlots_array ofArg (fun a => a) hread
    rw [List.map_id'] at hslots
    rw [if_neg hnone, Declaration.draft, if_neg hnone]
    exact readRecord_cons _ rfl (bind_pure_eq hslots rfl) []

theorem readDeclaration_ofDeclaration (d : Declaration) :
    readDeclaration {} (ofDeclaration d) = some d.draft := by
  rw [ofDeclaration_eq, readDeclaration, readObject,
    readRecord_cons { id := d.id } rfl (bind_pure_eq (readIdent_ofIdent d.id) rfl)]
  exact readRecord_cons _ rfl (readRecord_longMembers d) []

theorem readSlots_ofDeclarations (ds : Option (List Declaration)) :
    readSlots {} readDeclaration none (ofDeclarations ds) = some (Declaration.drafts ds) := by
  cases ds with
  | none => rfl
  | some ds => exact readSlots_array _ _ fun d _ => readDeclaration_ofDeclaration d

theorem toProgram?_ofProgram (p : Program) : toProgram? (ofProgram p) = some p.withoutEmptyArgs := by
  have hread : readObject programFields {} (ofProgram p) = some p.draft := by
    rw [ofProgram, readObject, readRecord_cons { types := Declaration.drafts p.types } rfl
      (bind_pure_eq (readSlots_ofDeclarations p.types) rfl)]
    exact readRecord_cons _ rfl (bind_pure_eq (readSlots_ofDeclarations p.libfuncs) rfl) []
  rw [toProgram?, hread]
  exact congrArg some p.finish_draft

/-! ## Texts -/

def argTexts (a : GenericArg) : List Text :=
  a.value.toList ++ (a.type.map (·.debugName)).toList ++ a.userType.toList ++
    (a.libfunc.map (·.debugName)).toList

def declarationTexts (d : Declaration) : List Text :=
  [d.id.debugName, d.genericId] ++ d.argList.flatMap argTexts

def texts (p : Program) : List Text := (p.typeList ++ p.libfuncList).flatMap declarationTexts

theorem isValid_ofString (s : String) : (Text.ofString s).isValid = true :=
  Text.isValid_iff.mpr ⟨s.toList, rfl⟩

/-- Members with readable keys and values. -/
def ReadableMembers (d : Nat) (ms : List (Text × Json)) : Prop :=
  ∀ m ∈ ms, m.1.isValid = true ∧ Readable d m.2

namespace ReadableMembers

variable {d : Nat} {ms ms' : List (Text × Json)}

theorem nil : ReadableMembers d [] := fun _ hm => absurd hm List.not_mem_nil

theorem cons {s : String} {v : Json} (hv : Readable d v) (h : ReadableMembers d ms) :
    ReadableMembers d ((Text.ofString s, v) :: ms) :=
  List.forall_mem_cons.mpr ⟨⟨isValid_ofString s, hv⟩, h⟩

theorem append (h : ReadableMembers d ms) (h' : ReadableMembers d ms') : ReadableMembers d (ms ++ ms') :=
  List.forall_mem_append.mpr ⟨h, h'⟩

theorem option {α : Type} {s : String} {o : Option α} {write : α → Json}
    (h : ∀ x, o = some x → Readable d (write x)) :
    ReadableMembers d (o.map fun x => (Text.ofString s, write x)).toList := by
  cases o with
  | none => exact nil
  | some x => exact nil.cons (h x rfl)

theorem object (h : ReadableMembers d ms) : Readable (d + 1) (.object ms) :=
  .object (fun m hm => (h m hm).1) fun m hm => (h m hm).2

end ReadableMembers

theorem readable_ofIdent {i : Ident} (h : i.debugName.isValid = true) (d : Nat) :
    Readable (d + 1) (ofIdent i) := by
  refine ReadableMembers.object (.cons (.number _) ?_)
  by_cases hname : i.debugName = []
  · rw [hname]
    exact .nil
  · rw [if_neg (by simpa using hname)]
    exact .cons (.string h) .nil

theorem readable_ofArg {a : GenericArg} (h : ∀ t ∈ argTexts a, t.isValid = true) (d : Nat) :
    Readable (d + 2) (ofArg a) := by
  obtain ⟨value, type, userType, libfunc⟩ := a
  simp only [argTexts, List.forall_mem_append, Option.mem_toList,
    Option.map_eq_some_iff, forall_exists_index, and_imp] at h
  obtain ⟨⟨⟨hvalue, htype⟩, huser⟩, hlibfunc⟩ := h
  refine ReadableMembers.object (((ReadableMembers.append ?_ ?_).append ?_).append ?_)
  · exact .option fun t ht => .string (hvalue t ht)
  · exact .option fun i hi => readable_ofIdent (htype _ i hi rfl) d
  · exact .option fun t ht => .string (huser t ht)
  · exact .option fun i hi => readable_ofIdent (hlibfunc _ i hi rfl) d

theorem readable_ofDeclaration {x : Declaration} (h : ∀ t ∈ declarationTexts x, t.isValid = true)
    (d : Nat) : Readable (d + 5) (ofDeclaration x) := by
  simp only [declarationTexts, List.forall_mem_append, List.forall_mem_cons] at h
  obtain ⟨⟨hname, hgeneric, -⟩, hargs⟩ := h
  have hlong : ReadableMembers (d + 3) (longMembers x) := by
    refine .cons (.string hgeneric) ?_
    by_cases hnone : x.argList = []
    · rw [if_pos hnone]
      exact .nil
    · rw [if_neg hnone]
      refine .cons (.array fun v hv => ?_) .nil
      obtain ⟨a, ha, rfl⟩ := List.mem_map.mp hv
      exact readable_ofArg (fun t ht => hargs t (List.mem_flatMap_of_mem ha ht)) d
  rw [ofDeclaration_eq]
  exact ReadableMembers.object (.cons (readable_ofIdent hname (d + 3)) (.cons hlong.object .nil))

theorem readable_ofDeclarations {xs : Option (List Declaration)}
    (h : ∀ x ∈ xs.getD [], ∀ t ∈ declarationTexts x, t.isValid = true) (d : Nat) :
    Readable (d + 6) (ofDeclarations xs) := by
  cases xs with
  | none => exact .null
  | some xs =>
    refine .array fun v hv => ?_
    obtain ⟨x, hx, rfl⟩ := List.mem_map.mp hv
    exact readable_ofDeclaration (h x hx) d

/-- The value of a program has seven levels. -/
theorem readable_ofProgram {p : Program} (h : ∀ t ∈ texts p, t.isValid = true) (d : Nat) :
    Readable (d + 7) (ofProgram p) := by
  have hdecl : ∀ x ∈ p.typeList ++ p.libfuncList, ∀ t ∈ declarationTexts x, t.isValid = true :=
    fun x hx t ht => h t (List.mem_flatMap_of_mem hx ht)
  have htypes := readable_ofDeclarations (fun x hx => hdecl x (List.mem_append_left _ hx)) d
  have hlibfuncs := readable_ofDeclarations (fun x hx => hdecl x (List.mem_append_right _ hx)) d
  exact ReadableMembers.object (.cons htypes (.cons hlibfuncs .nil))

theorem decodeProgram?_encodeProgram {p : Program} (h : ∀ t ∈ texts p, t.isValid = true) :
    decodeProgram? (encodeProgram p) = some p.withoutEmptyArgs := by
  have hparse : parseFirst? (encodeProgram p) = some (ofProgram p) :=
    parseFirst?_write (readable_ofProgram h (maxDepth - 7)) (some 0)
  rw [decodeProgram?, hparse]
  exact toProgram?_ofProgram p

end Json

/-- A valid program whose texts are valid UTF-8 is read back from its written form, an
empty list of arguments as none. -/
theorem json_roundTrip {p : Program} (hvalid : p.IsValid)
    (htexts : ∀ t ∈ Json.texts p, t.isValid = true) :
    (Codec.encode (some .json) (some p) >>= Codec.decode (some .json)) = .ok p.withoutEmptyArgs :=
  Codec.decode_encode rfl (Json.decodeProgram?_encodeProgram htexts) hvalid

/-- A quote, a backslash, control characters, characters that are escaped though they need
not be, a line separator, and characters of two, three and four bytes. -/
def unusualText : Text :=
  Text.ofChars ([0x22, 0x5C, 0, 0x0A, 0x1F, 0x3C, 0x3E, 0x26, 0x7F, 0xE9, 0x2028, 0xFFFD, 0x1F600].map Char.ofNat)

/-- The greatest id, unusual texts, an empty literal, an empty list of arguments, and an
empty list of declarations. -/
def unusualProgram : Program where
  types := some
    [⟨⟨0xFFFFFFFFFFFFFFFF, unusualText⟩, "felt", some []⟩,
     ⟨⟨0, []⟩, unusualText, some [{ value := some [] }, { userType := some unusualText },
       { type := some ⟨0xFFFFFFFFFFFFFFFF, unusualText⟩ }]⟩]
  libfuncs := some []

theorem unusualProgram_roundTrip :
    unusualProgram.IsValid ∧ (∀ t ∈ Json.texts unusualProgram, t.isValid = true) ∧
      (Codec.encode (some .json) (some unusualProgram) >>= Codec.decode (some .json)) =
        .ok unusualProgram.withoutEmptyArgs ∧
      unusualProgram.withoutEmptyArgs.typeList.map (·.args.isSome) = [false, true] ∧
      unusualProgram.withoutEmptyArgs.libfuncs = some [] := by
  have hvalid : unusualProgram.IsValid := by decide
  have hempty : Text.isValid [] = true := Text.isValid_iff.mpr ⟨[], rfl⟩
  have hunusual : unusualText.isValid = true := Text.isValid_iff.mpr ⟨_, rfl⟩
  have hlist : Json.texts unusualProgram =
      [unusualText, "felt", [], unusualText, [], unusualText, unusualText] := rfl
  have htexts : ∀ t ∈ Json.texts unusualProgram, t.isValid = true := by
    rw [hlist]
    simp only [List.forall_mem_cons, hempty, hunusual, Json.isValid_ofString, List.not_mem_nil, true_and,
      false_implies, implies_true]
  exact ⟨hvalid, htexts, json_roundTrip hvalid htexts, rfl, rfl⟩

end FeltLowering
