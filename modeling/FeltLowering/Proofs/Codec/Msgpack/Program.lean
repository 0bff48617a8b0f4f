import FeltLowering.Proofs.Codec
import FeltLowering.Proofs.Codec.Msgpack.Limit

/-
Programs in MessagePack read back.

Each record is written as the entries that turn an empty record into it, so it is read
back by `Fills.reads_record`.
-/
namespace FeltLowering
namespace Msgpack

/-! ## Records -/

theorem head_writeText {t : Text} (h : t.length < lengthLimit) :
    ∃ c w, writeText t = c :: w ∧ c ≠ 0xC0 := by
  obtain ⟨c, w, hheader, hc, -⟩ := reads_textLength h
  exact ⟨c, w ++ t, by rw [writeText, hheader, List.cons_append], hc⟩

theorem head_writeRecord {entries : List (Text × Text)} (h : entries.length < lengthLimit) :
    ∃ c w, writeRecord entries = c :: w ∧ c ≠ 0xC0 := by
  obtain ⟨c, w, r, hheader, hc, -, -⟩ := reads_mapLength h
  exact ⟨c, _, by rw [writeRecord, hheader, List.cons_append], hc⟩

theorem reads_readIdent {i : Ident} (h : i.debugName.length < lengthLimit) :
    Reads (readIdent ⟨0, []⟩) (writeIdent i) i := by
  have hid : ∀ {rest}, Fills identFields ⟨i.id, []⟩ rest i →
      Fills identFields ⟨0, []⟩ (("id", writeId i.id) :: rest) i :=
    fun hrest => .cons (by decide) rfl ((reads_readId i.id).bind_pure rfl) hrest
  unfold writeIdent
  by_cases hname : i.debugName = []
  · have hfills : Fills identFields ⟨i.id, []⟩ [] i := by
      rw [← hname]
      exact .nil i
    rw [hname]
    exact (hid hfills).reads_record (by simp [lengthLimit]) _
  · have hfills : Fills identFields ⟨i.id, []⟩ [("debug_name", writeText i.debugName)] i :=
      .cons (by decide) rfl ((reads_readText h).bind_pure rfl) (.nil i)
    rw [if_neg (by simpa using hname)]
    exact (hid hfills).reads_record (by simp [lengthLimit]) _

theorem reads_textPayload {t : Text} (h : t.length < lengthLimit) :
    Reads (readPayload [] (fun _ => readText) none) (writeText t) (some t) :=
  reads_readPayload (reads_readText h) (head_writeText h)

theorem reads_identPayload {i : Ident} (h : i.debugName.length < lengthLimit) :
    Reads (readPayload ⟨0, []⟩ readIdent none) (writeIdent i) (some i) := by
  refine reads_readPayload (reads_readIdent h) (head_writeRecord ?_)
  cases i.debugName.isEmpty <;> simp [lengthLimit]

theorem Fills.option {α β : Type} {fields : Fields α} {old new : α} {o : Option β}
    {write : β → Text × Text} (hnone : o = none → old = new)
    (hsome : ∀ x, o = some x → Fills fields old [write x] new) :
    Fills fields old (o.map write).toList new := by
  cases o with
  | none =>
    rw [hnone rfl]
    exact .nil new
  | some x => exact hsome x rfl

theorem length_toList_le {α : Type} (o : Option α) : o.toList.length ≤ 1 := by
  cases o <;> simp

theorem reads_readArg {a : GenericArg} (h : Fit (argLengths a)) : Reads (readArg {}) (writeArg a) a := by
  simp only [argLengths, fit_cons] at h
  obtain ⟨hvalue, htype, huser, hlibfunc, -⟩ := h
  obtain ⟨value, type, userType, libfunc⟩ := a
  -- The payloads are set one after the other, in the order they are written.
  have h1 : Fills argFields {} (value.map fun t => (Text.ofString "value", writeText t)).toList
      { value } := by
    refine .option (fun hnone => by rw [hnone]) fun t ht => ?_
    subst ht
    exact .cons (by decide) rfl ((reads_textPayload hvalue).bind_pure rfl) (.nil _)
  have h2 : Fills argFields { value } (type.map fun i => (Text.ofString "type", writeIdent i)).toList
      { value, type } := by
    refine .option (fun hnone => by rw [hnone]) fun i hi => ?_
    subst hi
    exact .cons (by decide) rfl ((reads_identPayload htype).bind_pure rfl) (.nil _)
  have h3 : Fills argFields { value, type }
      (userType.map fun t => (Text.ofString "user_type", writeText t)).toList
      { value, type, userType } := by
    refine .option (fun hnone => by rw [hnone]) fun t ht => ?_
    subst ht
    exact .cons (by decide) rfl ((reads_textPayload huser).bind_pure rfl) (.nil _)
  have h4 : Fills argFields { value, type, userType }
      (libfunc.map fun i => (Text.ofString "libfunc", writeIdent i)).toList
      { value, type, userType, libfunc } := by
    refine .option (fun hnone => by rw [hnone]) fun i hi => ?_
    subst hi
    exact .cons (by decide) rfl ((reads_identPayload hlibfunc).bind_pure rfl) (.nil _)
  refine (((h1.append h2).append h3).append h4).reads_record ?_ _
  simp only [List.length_append, lengthLimit]
  have := length_toList_le (value.map fun t => (Text.ofString "value", writeText t))
  have := length_toList_le (type.map fun i => (Text.ofString "type", writeIdent i))
  have := length_toList_le (userType.map fun t => (Text.ofString "user_type", writeText t))
  have := length_toList_le (libfunc.map fun i => (Text.ofString "libfunc", writeIdent i))
  omega

def longEntries (d : Declaration) : List (Text × Text) :=
  ("generic_id", writeText d.genericId) ::
    if d.argList = [] then [] else [("generic_args", writeList (d.argList.map writeArg))]

theorem writeDeclaration_eq (d : Declaration) :
    writeDeclaration d = writeRecord [("id", writeIdent d.id), ("long_id", writeRecord (longEntries d))] := by
  unfold writeDeclaration longEntries
  cases d.argList <;> rfl

theorem fills_longId {d : Declaration} (h : Fit (declarationLengths d)) :
    Fills longIdFields { id := d.id } (longEntries d) d.draft := by
  simp only [declarationLengths, fit_append, fit_cons] at h
  obtain ⟨⟨-, hgeneric, hlen, -⟩, hargs⟩ := h
  refine .cons (by decide) rfl ((reads_readText hgeneric).bind_pure rfl) ?_
  by_cases hnone : d.argList = []
  · rw [if_pos hnone, Declaration.draft, if_pos hnone]
    exact .nil _
  · have hread : ∀ a ∈ d.argList, Reads (readArg {}) (writeArg a) a :=
      fun a ha => reads_readArg fun n hn => hargs n (List.mem_flatMap_of_mem ha hn)
    have hslots := reads_readSlots hlen hread
    rw [List.map_id'] at hslots
    rw [if_neg hnone, Declaration.draft, if_neg hnone]
    exact .cons (by decide) rfl (hslots.bind_pure rfl) (.nil _)

theorem reads_readDeclaration {d : Declaration} (h : Fit (declarationLengths d)) :
    Reads (readDeclaration {}) (writeDeclaration d) d.draft := by
  have hname : d.id.debugName.length < lengthLimit := h _ List.mem_cons_self
  have hlength : (longEntries d).length < lengthLimit := by
    unfold longEntries
    split <;> simp [lengthLimit]
  have hlong : Reads (readLongId { id := d.id }) (writeRecord (longEntries d)) d.draft :=
    (fills_longId h).reads_record hlength _
  rw [writeDeclaration_eq]
  exact (Fills.cons (by decide) rfl ((reads_readIdent hname).bind_pure rfl)
    (.cons (by decide) rfl hlong (.nil _))).reads_record (by simp [lengthLimit]) _

/-! ## Programs -/

theorem reads_declarations {ds : Option (List Declaration)} (hlen : (ds.getD []).length < lengthLimit)
    (h : ∀ d ∈ ds.getD [], Fit (declarationLengths d)) :
    Reads (readSlots {} readDeclaration none) (writeDeclarations ds) (Declaration.drafts ds) := by
  cases ds with
  | none => exact fun _ => rfl
  | some ds => exact reads_readSlots hlen fun d hd => reads_readDeclaration (h d hd)

theorem fills_program {p : Program} (h : Fit (lengths p)) :
    Fills programFields {} [("type_declarations", writeDeclarations p.types),
      ("libfunc_declarations", writeDeclarations p.libfuncs)] p.draft := by
  simp only [lengths, fit_append, fit_cons] at h
  obtain ⟨⟨htypes, hlibfuncs, -⟩, hdecls⟩ := h
  have hdecl : ∀ d ∈ p.typeList ++ p.libfuncList, Fit (declarationLengths d) :=
    fun d hd n hn => hdecls n (List.mem_flatMap_of_mem hd hn)
  have hfirst := reads_declarations htypes fun d hd => hdecl d (List.mem_append_left _ hd)
  have hsecond := reads_declarations hlibfuncs fun d hd => hdecl d (List.mem_append_right _ hd)
  exact .cons (by decide) rfl (hfirst.bind_pure rfl)
    (.cons (by decide) rfl (hsecond.bind_pure rfl) (.nil _))

theorem declarationLengths_withoutEmptyArgs (d : Declaration) :
    declarationLengths d.withoutEmptyArgs = declarationLengths d := by
  rw [declarationLengths, Declaration.argList_withoutEmptyArgs]
  rfl

theorem lengths_withoutEmptyArgs (p : Program) : lengths p.withoutEmptyArgs = lengths p := by
  rw [lengths, Program.typeList_withoutEmptyArgs, Program.libfuncList_withoutEmptyArgs, ← List.map_append,
    List.flatMap_map, List.length_map, List.length_map]
  simp only [declarationLengths_withoutEmptyArgs]
  rfl

theorem decodeProgram?_encodeProgram {p : Program} (h : Fit (lengths p)) :
    decodeProgram? (encodeProgram p) = some p.withoutEmptyArgs := by
  have hread := (fills_program h).reads_record (by simp [lengthLimit]) {} []
  rw [List.append_nil] at hread
  rw [decodeProgram?, encodeProgram, hread]
  exact congrArg some p.finish_draft

theorem fit_of_roundTrip {p : Program}
    (h : (Codec.encode (some .msgpack) (some p) >>= Codec.decode (some .msgpack)) = .ok p.withoutEmptyArgs) :
    Fit (lengths p) := by
  have hfit := fit_of_decodeProgram? (Codec.parse?_of_encode_decode rfl h)
  rwa [lengths_withoutEmptyArgs] at hfit

end Msgpack

/-- A valid program is read back from its written form, an empty list of arguments as
none.  The lengths of its texts and lists have to fit into a header, which has four bytes for
them: a longer one is written with a header that announces less. -/
theorem msgpack_roundTrip {p : Program} (hvalid : p.IsValid) :
    (Codec.encode (some .msgpack) (some p) >>= Codec.decode (some .msgpack)) = .ok p.withoutEmptyArgs ↔
      Msgpack.Fit (Msgpack.lengths p) := by
  constructor
  · exact Msgpack.fit_of_roundTrip
  · intro hfit
    exact Codec.decode_encode rfl (Msgpack.decodeProgram?_encodeProgram hfit) hvalid

/-- Texts at the lengths where the form of the header changes, one of them no valid UTF-8,
an empty literal, the greatest id, and an empty list of arguments. -/
def boundaryProgram : Program where
  types := some
    [⟨⟨0xFFFFFFFFFFFFFFFF, Text.fill 32 0xFF⟩, "felt", some []⟩,
     ⟨⟨0, []⟩, "Struct", some [{ value := some [] }, { userType := some (Text.fill 65536 0x61) },
       { type := some ⟨0xFFFFFFFFFFFFFFFF, Text.fill 256 0⟩ }]⟩]
  libfuncs := none

theorem boundaryProgram_roundTrip :
    boundaryProgram.IsValid ∧ Msgpack.Fit (Msgpack.lengths boundaryProgram) ∧
      (Codec.encode (some .msgpack) (some boundaryProgram) >>= Codec.decode (some .msgpack)) =
        .ok boundaryProgram.withoutEmptyArgs ∧
      boundaryProgram.withoutEmptyArgs.typeList.map (·.args.isSome) = [false, true] := by
  have hvalid : boundaryProgram.IsValid := by decide
  have hfill : ∀ n b, (Text.fill n b).length = n := fun n b => List.length_replicate
  have hlengths : Msgpack.lengths boundaryProgram =
      [2, 0, (Text.fill 32 0xFF).length, 4, 0, 0, 6, 3, 0, 0, 0, 0, 0, 0,
        (Text.fill 65536 0x61).length, 0, 0, (Text.fill 256 0).length, 0, 0] := rfl
  have hfit : Msgpack.Fit (Msgpack.lengths boundaryProgram) := by
    rw [hlengths, hfill, hfill, hfill]
    decide
  exact ⟨hvalid, hfit, (msgpack_roundTrip hvalid).mpr hfit, rfl⟩

/-- One user type whose name is one byte longer than the longest that a header can announce. -/
def overlongProgram : Program where
  types := some [⟨⟨0, "overlong"⟩, "Struct", some [{ userType := some (Text.fill Msgpack.lengthLimit 0x61) }]⟩]
  libfuncs := none

theorem overlongProgram_not_read_back :
    overlongProgram.IsValid ∧
      (Codec.encode (some .msgpack) (some overlongProgram) >>= Codec.decode (some .msgpack)) ≠
        .ok overlongProgram.withoutEmptyArgs := by
  refine ⟨by decide, fun h => ?_⟩
  have hlengths : Msgpack.lengths overlongProgram =
      [1, 0, 8, 6, 1, 0, 0, (Text.fill Msgpack.lengthLimit 0x61).length, 0] := rfl
  have hlt : (Text.fill Msgpack.lengthLimit 0x61).length < Msgpack.lengthLimit :=
    Msgpack.fit_of_roundTrip h _ (by simp [hlengths])
  rw [Text.fill, List.length_replicate] at hlt
  exact Nat.lt_irrefl _ hlt

end FeltLowering
