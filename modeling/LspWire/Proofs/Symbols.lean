import LspWire.Proofs.Alike
import LspWire.Proofs.Unions

/-!
# Symbols of a workspace

The response of a workspace symbol request is a list of symbols with full locations, or else a list of symbols whose
locations may lack a range. The first class does not know the `data` of the second, and data of the second class is of
the first one as well if every location has a range. So a list of symbols is written and read back whole if one location
lacks a range, and otherwise only if no symbol has `data` (`workspaceSymbols_kept_iff`).

A symbol that is read at the first class is written with its container after its location, so what is written is equal
up to the order of members (`Json.Alike`).
-/

namespace LspWire

open Schema

/-! ## Symbols -/

/-- The value of a field of a record. -/
def Value.field? (name : String) : Value → Option Value
  | .record _ fs _ => Members.find? name fs
  | _ => none

/-- A symbol whose location is a document without a range. -/
def Value.LacksRange (v : Value) : Prop := ∃ fs extra, v.field? "location" = some (.record .workspaceLocation fs extra)

/-- The location of a symbol that may lack a range. -/
def symbolLocation : Field := required "location" (.oneOf [.record .location, .record .workspaceLocation])

/-- The location of a symbol that has a range. -/
def fullLocation : Field := required "location" (.record .location)

/-- What a symbol keeps until it is resolved. -/
def symbolData : Field := Schema.optional "data" .any

theorem workspaceSymbol_fields : (recordOf .workspaceSymbol).fields = [required "name" .str,
    required "kind" (.intEnum .symbolKind), Schema.optional "tags" (.list (.intEnum .symbolTag)),
    Schema.optional "containerName" .str, symbolLocation, symbolData] := rfl

theorem symbolInformation_fields : (recordOf .symbolInformation).fields = [required "name" .str,
    required "kind" (.intEnum .symbolKind), Schema.optional "tags" (.list (.intEnum .symbolTag)),
    Schema.optional "deprecated" .bool, fullLocation,
    Schema.optional "containerName" .str] := rfl

/-- The fields of a symbol at the class that has no data and asks for a range. -/
def plainField (g : Field → Value) (f : Field) : Value :=
  if f.name = "deprecated" then .null else if f.name = "location" then g symbolLocation else g f

/-- A symbol with its fields, each of which is read from what the symbol writes. -/
structure IsSymbol (v : Value) (g : Field → Value) : Prop where
  value : v = .record .workspaceSymbol ((recordOf .workspaceSymbol).fields.map fun f => (f.name, g f)) []
  field : ∀ f ∈ (recordOf .workspaceSymbol).fields, decodeField .data f (writtenFields .workspaceSymbol g) = .ok (g f)
  data : (g symbolData).HasForm
  back : decode .data (.record .workspaceSymbol) v.encode = .ok v

theorem exists_isSymbol {d : Json} {v : Value} (hd : d.Finite) (h : decode .data (.record .workspaceSymbol) d = .ok v) :
    ∃ g, IsSymbol v g := by
  have hread := reads_of_decode _ _ h
  have hfinite := hread.finite rfl hd
  have hback := hread.read_back rfl rfl hd (hread.recoverable rfl (by decide)) .data
  obtain ⟨out, hout, hfields, hv⟩ := decodeRecord_eq_ok ((decode_record _ _).symm.trans hback)
  rw [keptMembers_of_not_keepsExtra out rfl] at hv
  have hwritten : out = writtenFields .workspaceSymbol fun f => (decodeField .data f out).got := by
    rw [hv, encode_record, writtenExtra, List.filter_nil, List.append_nil] at hout
    exact (Json.obj.inj hout).symm
  refine ⟨fun f => (decodeField .data f out).got, hv, ?_, ?_, hback⟩
  · rw [← hwritten]
    exact hfields
  · have hmem : (symbolData.name, (decodeField .data symbolData out).got) ∈
        (recordOf .workspaceSymbol).fields.map fun f => (f.name, (decodeField .data f out).got) := by
      refine List.mem_map_of_mem (f := fun f => (f.name, (decodeField .data f out).got)) ?_
      simp [workspaceSymbol_fields]
    rw [hv] at hfinite
    exact (hfinite.field hmem).hasForm

namespace IsSymbol

variable {v : Value} {g : Field → Value}

theorem encode (h : IsSymbol v g) : v.encode = .obj (writtenFields .workspaceSymbol g) := by
  rw [h.value, encode_record, writtenExtra, List.filter_nil, List.append_nil]

theorem field?_eq (h : IsSymbol v g) {f : Field} (hf : f ∈ (recordOf .workspaceSymbol).fields) :
    v.field? f.name = some (g f) := by
  rw [h.value]
  refine Members.find?_of_mem ?_ (List.mem_map_of_mem (f := fun f => (f.name, g f)) hf)
  rw [List.map_map]
  show ((recordOf .workspaceSymbol).fields.map (·.name)).Nodup
  decide +kernel

theorem location_mem : symbolLocation ∈ (recordOf .workspaceSymbol).fields := by simp [workspaceSymbol_fields]

theorem data_mem : symbolData ∈ (recordOf .workspaceSymbol).fields := by simp [workspaceSymbol_fields]

/-- A symbol writes nothing under the key of a field that its class does not have. -/
theorem read_deprecated (g : Field → Value) :
    decodeField .data (Schema.optional "deprecated" .bool) (writtenFields .workspaceSymbol g) = .ok .null := by
  have hkeys : (recordOf .workspaceSymbol).fields.all (fun f => f.wire != "deprecated") = true := by decide +kernel
  have hnone : Members.find? "deprecated" (writtenFields .workspaceSymbol g) = none := by
    refine Members.find?_eq_none.2 fun m hm he => ?_
    obtain ⟨f, hf, -, rfl⟩ := mem_writtenFields.1 hm
    exact bne_iff_ne.1 (List.all_eq_true.1 hkeys f hf) he
  simp only [decodeField, findField?, Schema.optional, hnone, decodeAbsent]

/-- The location of a symbol is read as one with a range, or lacks the range. -/
theorem location_cases (h : IsSymbol v g) :
    decodeField .data fullLocation (writtenFields .workspaceSymbol g) = .ok (g symbolLocation) ∧ ¬ v.LacksRange ∨
    (∀ w, decodeField .data fullLocation (writtenFields .workspaceSymbol g) ≠ .ok w) ∧ v.LacksRange := by
  have hfield := h.field symbolLocation location_mem
  have hvalue : v.field? "location" = some (g symbolLocation) := h.field?_eq location_mem
  have hfind : findField? fullLocation (writtenFields .workspaceSymbol g) =
      findField? symbolLocation (writtenFields .workspaceSymbol g) := rfl
  rw [decodeField] at hfield
  rw [decodeField, hfind, Value.LacksRange, hvalue]
  cases hx : findField? symbolLocation (writtenFields .workspaceSymbol g) with
  | none =>
    rw [hx, decodeAbsent_eq_ok] at hfield
    cases hfield
  | some p =>
    have hread : decodeFirst .data [.record .location, .record .workspaceLocation] p.2 = .ok (g symbolLocation) := by
      rw [hx] at hfield
      exact (decode_oneOf _ _).symm.trans hfield
    show decode .data (.record .location) p.2 = _ ∧ _ ∨ (∀ w, decode .data (.record .location) p.2 ≠ .ok w) ∧ _
    obtain ⟨pre, t, post, harms, hpre, ht⟩ := decodeFirst_eq_ok hread
    -- by the number of arms that are refused: none is a location, one is a document without a range
    cases pre with
    | nil =>
      cases harms
      obtain ⟨ms, -, -, hw⟩ := decodeRecord_eq_ok ((decode_record _ _).symm.trans ht)
      refine .inl ⟨ht, ?_⟩
      rintro ⟨fs, extra, he⟩
      rw [hw] at he
      cases he
    | cons a pre =>
      obtain ⟨rfl, hrest⟩ := List.cons.inj harms
      cases pre with
      | nil =>
        cases hrest
        obtain ⟨ms, -, -, hw⟩ := decodeRecord_eq_ok ((decode_record _ _).symm.trans ht)
        exact .inr ⟨hpre _ List.mem_cons_self, _, _, congrArg some hw⟩
      | cons b pre =>
        have hlength := congrArg List.length (List.cons.inj hrest).2
        simp at hlength

/-- A symbol with a range is read as one of the class that has no data. -/
theorem read_plain (h : IsSymbol v g)
    (hlocation : decodeField .data fullLocation (writtenFields .workspaceSymbol g) = .ok (g symbolLocation)) :
    decode .data (.record .symbolInformation) v.encode =
      .ok (.record .symbolInformation ((recordOf .symbolInformation).fields.map fun f => (f.name, plainField g f)) []) := by
  rw [h.encode, decode_record, decodeRecord_map (plainField g), keptMembers_of_not_keepsExtra _ rfl]
  have hshared : ∀ f ∈ (recordOf .workspaceSymbol).fields, f.name ≠ "deprecated" → f.name ≠ "location" →
      decodeField .data f (writtenFields .workspaceSymbol g) = .ok (plainField g f) := by
    intro f hf hd hl
    rw [plainField, if_neg hd, if_neg hl]
    exact h.field f hf
  simp only [symbolInformation_fields, workspaceSymbol_fields, List.forall_mem_cons] at hshared ⊢
  obtain ⟨hname, hkind, htags, hcontainer, -⟩ := hshared
  exact ⟨hname (by decide) (by decide), hkind (by decide) (by decide), htags (by decide) (by decide),
    read_deprecated g, hlocation, hcontainer (by decide) (by decide), fun _ hf => by cases hf⟩

/-- A symbol without a range is refused by the class that asks for one. -/
theorem not_read_plain (h : IsSymbol v g)
    (hlocation : ∀ w, decodeField .data fullLocation (writtenFields .workspaceSymbol g) ≠ .ok w) (w : Value) :
    decode .data (.record .symbolInformation) v.encode ≠ .ok w := by
  intro hread
  rw [h.encode, decode_record] at hread
  obtain ⟨ms, hms, hfields, -⟩ := decodeRecord_eq_ok hread
  cases hms
  have hmem : fullLocation ∈ (recordOf .symbolInformation).fields := by simp [symbolInformation_fields]
  exact hlocation _ (hfields _ hmem)

end IsSymbol

/-! ## What is written -/

/-- What a record writes for one field. -/
def writtenField (g : Field → Value) (f : Field) : List (String × Json) :=
  if f.writes (g f) then [(f.wire, (g f).encode)] else []

theorem writtenFields_eq_flatMap (c : Class) (g : Field → Value) :
    writtenFields c g = (recordOf c).fields.flatMap (writtenField g) := by
  rw [writtenFields]
  generalize (recordOf c).fields = fields
  induction fields with
  | nil => rfl
  | cons f fields ih =>
    rw [List.filter_cons, List.flatMap_cons, ← ih, writtenField]
    cases f.writes (g f) <;> rfl

section Written

variable {v : Value} {g : Field → Value}

/-- A symbol writes what it writes at the class that has no data, and its data. -/
theorem perm_written_plain (g : Field → Value) :
    (writtenFields .symbolInformation (plainField g) ++ writtenField g symbolData).Perm
      (writtenFields .workspaceSymbol g) := by
  have hdeprecated : writtenField (plainField g) (Schema.optional "deprecated" .bool) = [] := rfl
  rw [writtenFields_eq_flatMap, writtenFields_eq_flatMap, symbolInformation_fields, workspaceSymbol_fields]
  simp only [List.flatMap_cons, List.flatMap_nil, hdeprecated, List.append_nil, List.nil_append, List.append_assoc]
  refine List.Perm.append_left _ (List.Perm.append_left _ (List.Perm.append_left _ ?_))
  exact List.perm_append_comm_assoc _ _ _

/-- The data of a symbol is `null` if it is not written. -/
theorem IsSymbol.data_null (h : IsSymbol v g) (hv : (g symbolData).isVoid = true) : g symbolData = .null := by
  have hfield := h.field symbolData IsSymbol.data_mem
  rw [decodeField] at hfield
  split at hfield
  · next k x hx =>
    by_cases hnull : x = .null
    · subst hnull
      rw [symbolData, Schema.optional, decode] at hfield
      exact (Except.ok.inj hfield).symm
    · have hread : decode .data .any x = .ok (g symbolData) := (decode_optional_of_ne hnull).symm.trans hfield
      rw [decode] at hread
      rcases h.data hv with hdata | hdata
      · exact hdata
      · rw [hdata] at hread
        exact absurd (Json.merged_eq_null.1 (Value.untyped.inj (Except.ok.inj hread))) hnull
  · exact (Option.some.inj (decodeAbsent_eq_ok.1 hfield)).symm

/-- What a symbol writes at the class that has no data is what it writes, if and only if it has none. -/
theorem IsSymbol.alike_plain_iff (h : IsSymbol v g) :
    (Json.obj (writtenFields .symbolInformation (plainField g))).Alike v.encode ↔ v.field? "data" = some .null := by
  have hvalue : v.field? "data" = some (g symbolData) := h.field?_eq IsSymbol.data_mem
  have hperm := perm_written_plain g
  rw [h.encode, hvalue, Option.some.injEq]
  constructor
  · intro hall
    cases hv : (g symbolData).isVoid with
    | true => exact h.data_null hv
    | false =>
      -- data that is written is one member more, and equality up to order keeps their number
      have hdata : writtenField g symbolData = [("data", (g symbolData).encode)] := by
        rw [writtenField, Field.writes, hv]
        rfl
      have hlength := hperm.length_eq
      rw [hdata, List.length_append, hall.length_eq] at hlength
      simp at hlength
  · intro hnull
    have hdata : writtenField g symbolData = [] := by rw [writtenField, hnull]; rfl
    rw [hdata, List.append_nil] at hperm
    exact .of_perm hperm

end Written

/-! ## The response -/

/-- A symbol as it is read at the class that has no data. -/
def plainSymbol (v : Value) : Value := (decode .data (.record .symbolInformation) v.encode).got

section Response

variable {v : Value} {g : Field → Value}

/-- A symbol is read at the class that has no data unless its location lacks a range. -/
theorem IsSymbol.decode_plainSymbol (h : IsSymbol v g) (hrange : ¬ v.LacksRange) :
    decode .data (.record .symbolInformation) v.encode = .ok (plainSymbol v) ∧
      ((plainSymbol v).encode.Alike v.encode ↔ v.field? "data" = some .null) := by
  rcases h.location_cases with ⟨hlocation, -⟩ | ⟨-, hlacks⟩
  · have hread := h.read_plain hlocation
    have halike := h.alike_plain_iff
    rw [plainSymbol, hread, Outcome.got, encode_record, writtenExtra, List.filter_nil, List.append_nil]
    exact ⟨rfl, halike⟩
  · exact absurd hlacks hrange

theorem IsSymbol.not_decode_plain (h : IsSymbol v g) (hlacks : v.LacksRange) (w : Value) :
    decode .data (.record .symbolInformation) v.encode ≠ .ok w := by
  rcases h.location_cases with ⟨-, hrange⟩ | ⟨hlocation, -⟩
  · exact absurd hlacks hrange
  · exact h.not_read_plain hlocation w

variable {vs : List Value} (hvs : ∀ v ∈ vs, ∃ g, IsSymbol v g)

include hvs

theorem decode_symbols :
    decode .data (.list (.record .workspaceSymbol)) (.arr (vs.map Value.encode)) = .ok (.list vs) := by
  have hback : ∀ v ∈ vs, decode .data (.record .workspaceSymbol) v.encode = .ok v := by
    intro v hv
    obtain ⟨g, h⟩ := hvs v hv
    exact h.back
  simpa using decode_list_map Value.encode id hback

/-- Symbols one of which lacks a range are read whole. -/
theorem decode_response_of_lacksRange (hlacks : ∃ v ∈ vs, v.LacksRange) :
    decode .data workspaceSymbolResponse (.arr (vs.map Value.encode)) = .ok (.list vs) := by
  have hplain : ∀ a ∈ [Ty.list (.record .symbolInformation)], ∀ w,
      decode .data a (.arr (vs.map Value.encode)) = .ok w → w = .list vs := by
    intro a ha w hw
    cases List.mem_singleton.1 ha
    obtain ⟨v, hv, hlacks⟩ := hlacks
    obtain ⟨items, hitems, hok, -⟩ := decode_list_eq_ok hw
    cases hitems
    obtain ⟨g, h⟩ := hvs v hv
    exact absurd (hok v.encode (List.mem_map_of_mem hv)) (h.not_decode_plain hlacks _)
  rw [workspaceSymbolResponse, decode_oneOf]
  exact decodeFirst_of_mem (decode_symbols hvs) hplain

/-- Symbols that all have ranges are read at the class that has no data. -/
theorem decode_response_of_ranges (hranges : ∀ v ∈ vs, ¬ v.LacksRange) :
    decode .data workspaceSymbolResponse (.arr (vs.map Value.encode)) = .ok (.list (vs.map plainSymbol)) := by
  have hread : ∀ v ∈ vs, decode .data (.record .symbolInformation) v.encode = .ok (plainSymbol v) := by
    intro v hv
    obtain ⟨g, h⟩ := hvs v hv
    exact (h.decode_plainSymbol (hranges v hv)).1
  rw [workspaceSymbolResponse, decode_oneOf, decodeFirst, decode_list_map Value.encode plainSymbol hread]

end Response

/-- **A list of symbols is read back whole if and only if a location lacks a range or no symbol has data.** -/
theorem workspaceSymbols_kept_iff {vs : List Value}
    (hvs : ∀ v ∈ vs, ∃ d : Json, d.Finite ∧ decodeData (.record .workspaceSymbol) d = .ok v) :
    let j := (Value.list vs).encodeAs (.list (.record .workspaceSymbol))
    ∃ w, decodeData workspaceSymbolResponse j = .ok w ∧
      ((w.encodeAs workspaceSymbolResponse).Alike j ↔
        (∃ v ∈ vs, v.LacksRange) ∨ ∀ v ∈ vs, v.field? "data" = some .null) := by
  intro j
  have hsymbols : ∀ v ∈ vs, ∃ g, IsSymbol v g := by
    intro v hv
    obtain ⟨d, hd, h⟩ := hvs v hv
    exact exists_isSymbol hd (Outcome.decodeData_eq_ok.1 h)
  have hj : j = .arr (vs.map Value.encode) := by
    show (Value.list vs).encodeAs (.list (.record .workspaceSymbol)) = _
    rw [encodeAs_eq_encode rfl (decode_symbols hsymbols), Value.encode_list]
  rw [hj]
  by_cases hlacks : ∃ v ∈ vs, v.LacksRange
  · have hread := decode_response_of_lacksRange hsymbols hlacks
    refine ⟨.list vs, Outcome.decodeData_eq_ok.2 hread, iff_of_true ?_ (.inl hlacks)⟩
    rw [encodeAs_eq_encode rfl hread, Value.encode_list]
    exact .eq _
  · have hranges : ∀ v ∈ vs, ¬ v.LacksRange := fun v hv h => hlacks ⟨v, hv, h⟩
    have hread := decode_response_of_ranges hsymbols hranges
    refine ⟨.list (vs.map plainSymbol), Outcome.decodeData_eq_ok.2 hread, ?_⟩
    rw [encodeAs_eq_encode rfl hread, Value.encode_list, List.map_map, Json.Alike.arr_map_iff,
      or_iff_right hlacks]
    refine forall_congr' fun v => forall_congr' fun hv => ?_
    obtain ⟨g, h⟩ := hsymbols v hv
    exact (h.decode_plainSymbol (hranges v hv)).2

/-- A document. -/
def symbolUri : Uri := ⟨"file:///a", by decide +kernel⟩

/-- A symbol with data at a location. -/
def symbolAt (location : Json) : Json :=
  .obj [("name", .str "f"), ("kind", .int 12), ("location", location), ("data", .int 1)]

/-- What the symbol is read as. -/
def symbolOf (location : Value) : Value := .record .workspaceSymbol [("name", .str "f"),
  ("kind", .intEnum .symbolKind 12), ("tags", .null), ("containerName", .null), ("location", location),
  ("data", .untyped (.int 1))] []

theorem decode_symbolAt {location : Json} {v : Value} (h : decode .data symbolLocation.ty location = .ok v) :
    decode .data (.record .workspaceSymbol) (symbolAt location) = .ok (symbolOf v) := by
  have hkeeps : (recordOf .workspaceSymbol).keepsExtra = false := rfl
  rw [symbolLocation, required] at h
  simp [symbolAt, symbolOf, decode_record, decodeRecord, decodeFields, workspaceSymbol_fields, hkeeps, symbolLocation,
    symbolData, required, Schema.optional, findField?, Members.find?, h, decode, decodeStr, decodeIntEnum, isInt32,
    int32Min, int32Max, decodeAbsent, Json.merged, Outcome.both, Outcome.map, Outcome.within]

theorem decode_symbolUri : decode .data .uri (.str symbolUri.text) = .ok (.uri symbolUri) :=
  ReadsScalar.decode_eq (.uri symbolUri)

theorem decode_fullLocation {range : Json} {span : Value} (h : decode .data (.record .range) range = .ok span) :
    decode .data symbolLocation.ty (.obj [("uri", .str symbolUri.text), ("range", range)]) =
      .ok (.record .location [("uri", .uri symbolUri), ("range", span)] []) := by
  have hfields : (recordOf .location).fields = [required "uri" .uri, required "range" (.record .range)] := rfl
  have hkeeps : (recordOf .location).keepsExtra = false := rfl
  rw [symbolLocation, required, decode_oneOf, decodeFirst, decode_record]
  simp [decodeRecord, decodeFields, hfields, hkeeps, required, findField?, Members.find?, decode_symbolUri, h,
    Outcome.both, Outcome.map, Outcome.within]

/-- A symbol with data and without a range is read back whole. -/
theorem symbol_without_range_kept :
    let d := symbolAt (.obj [("uri", .str symbolUri.text)])
    let v := symbolOf (.record .workspaceLocation [("uri", .uri symbolUri)] [])
    let j := (Value.list [v]).encodeAs (.list (.record .workspaceSymbol))
    decodeData (.record .workspaceSymbol) d = .ok v ∧
      ∃ w, decodeData workspaceSymbolResponse j = .ok w ∧ (w.encodeAs workspaceSymbolResponse).Alike j := by
  intro d v j
  have hlocation : decode .data symbolLocation.ty (.obj [("uri", .str symbolUri.text)]) =
      .ok (.record .workspaceLocation [("uri", .uri symbolUri)] []) := by
    have hfull : (recordOf .location).fields = [required "uri" .uri, required "range" (.record .range)] := rfl
    have huri : (recordOf .workspaceLocation).fields = [required "uri" .uri] := rfl
    have hkeeps : (recordOf .workspaceLocation).keepsExtra = false := rfl
    simp [symbolLocation, required, decode_oneOf, decodeFirst, decode_record, decodeRecord, decodeFields, hfull, huri,
      hkeeps, findField?, Members.find?, decode_symbolUri, decodeAbsent, Outcome.both, Outcome.map, Outcome.within,
      Outcome.orElse]
  have hread : decodeData (.record .workspaceSymbol) d = .ok v := Outcome.decodeData_eq_ok.2 (decode_symbolAt hlocation)
  have hfinite : d.Finite := .obj (by simp [Json.Finite.str, Json.Finite.int, Json.Finite.obj])
  have hall : ∀ x ∈ [v], ∃ d : Json, d.Finite ∧ decodeData (.record .workspaceSymbol) d = .ok x :=
    List.forall_mem_singleton.2 ⟨d, hfinite, hread⟩
  obtain ⟨w, hw, hiff⟩ := workspaceSymbols_kept_iff hall
  exact ⟨hread, w, hw, hiff.2 (.inl ⟨v, List.mem_cons_self, _, _, rfl⟩)⟩

/-- A symbol with data at a full location loses the data. -/
theorem symbol_with_range_loses_data :
    let position : Json := .obj [("line", .int 0), ("character", .int 0)]
    let d := symbolAt (.obj [("uri", .str symbolUri.text), ("range", .obj [("start", position), ("end", position)])])
    let origin : Value := .record .position [("line", .int 0), ("character", .int 0)] []
    let v := symbolOf (.record .location
      [("uri", .uri symbolUri), ("range", .record .range [("start", origin), ("end", origin)] [])] [])
    let j := (Value.list [v]).encodeAs (.list (.record .workspaceSymbol))
    decodeData (.record .workspaceSymbol) d = .ok v ∧
      ∃ w, decodeData workspaceSymbolResponse j = .ok w ∧ ¬ (w.encodeAs workspaceSymbolResponse).Alike j := by
  intro position d origin v j
  have hposition : decode .data (.record .position) position = .ok origin := by
    have hfields : (recordOf .position).fields = [required "line" .uint32, required "character" .uint32] := rfl
    have hkeeps : (recordOf .position).keepsExtra = false := rfl
    simp [position, origin, decode_record, decodeRecord, decodeFields, hfields, hkeeps, required, findField?, Members.find?,
      Ty.uint32, decode, decodeBounded, Outcome.both, Outcome.map, Outcome.within]
  have hrange : decode .data (.record .range) (.obj [("start", position), ("end", position)]) =
      .ok (.record .range [("start", origin), ("end", origin)] []) := by
    have hfields : (recordOf .range).fields =
        [required "start" (.record .position), required "end" (.record .position)] := rfl
    have hkeeps : (recordOf .range).keepsExtra = false := rfl
    rw [decode_record]
    simp [decodeRecord, decodeFields, hfields, hkeeps, required, findField?, Members.find?, hposition, Outcome.both,
      Outcome.map, Outcome.within]
  have hread : decode .data (.record .workspaceSymbol) d = .ok v := decode_symbolAt (decode_fullLocation hrange)
  have hfinite : d.Finite := by
    have hpoint : position.Finite := .obj (by simp [Json.Finite.int])
    have hspan : (Json.obj [("start", position), ("end", position)]).Finite := .obj (by simp [hpoint])
    have hplace : (Json.obj [("uri", .str symbolUri.text),
        ("range", .obj [("start", position), ("end", position)])]).Finite := .obj (by simp [Json.Finite.str, hspan])
    exact .obj (by simp [Json.Finite.str, Json.Finite.int, hplace])
  have hsymbols : ∀ x ∈ [v], ∃ g, IsSymbol x g := by
    intro x hx
    rw [List.mem_singleton.1 hx]
    exact exists_isSymbol hfinite hread
  have hranges : ∀ x ∈ [v], ¬ x.LacksRange := by
    refine List.forall_mem_singleton.2 ?_
    rintro ⟨fs, extra, he⟩
    cases he
  have hresponse := decode_response_of_ranges hsymbols hranges
  have hj : j = .arr ([v].map Value.encode) := by
    show (Value.list [v]).encodeAs (.list (.record .workspaceSymbol)) = _
    rw [encodeAs_eq_encode rfl (decode_symbols hsymbols), Value.encode_list]
  rw [hj]
  refine ⟨Outcome.decodeData_eq_ok.2 hread, _, Outcome.decodeData_eq_ok.2 hresponse, fun halike => ?_⟩
  rw [encodeAs_eq_encode rfl hresponse, Value.encode_list, List.map_map, Json.Alike.arr_map_iff] at halike
  obtain ⟨g, h⟩ := hsymbols v List.mem_cons_self
  have hnull := (h.decode_plainSymbol (hranges v List.mem_cons_self)).2.1 (halike v List.mem_cons_self)
  cases hnull

end LspWire
