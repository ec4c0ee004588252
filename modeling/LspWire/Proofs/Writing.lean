import LspWire.Codec.Encode
import LspWire.Proofs.Library

/-!
# What a record writes

A record that was read writes its fields under their wire keys (`writtenFields`), less those that are `null` and not
kept, and then what it keeps besides. No two of these members share a key, so each field is found again exactly where it
was written (`findField?_written`) and a record is read back if its fields are (`decode_encode_record`).
-/

namespace LspWire

open Schema

/-! ## Writing part by part -/

namespace Value

theorem encodeItems_eq_map : ∀ vs : List Value, encodeItems vs = vs.map encode
  | [] => rfl
  | v :: vs => by rw [encodeItems, encodeItems_eq_map vs, List.map_cons]

theorem encodeEntries_eq_map : ∀ es : List (String × Value), encodeEntries es = es.map fun e => (e.1, e.2.encode)
  | [] => rfl
  | (k, v) :: es => by rw [encodeEntries, encodeEntries_eq_map es, List.map_cons]

theorem encode_list (vs : List Value) : (Value.list vs).encode = .arr (vs.map encode) := by
  rw [encode, encodeItems_eq_map]

theorem encode_map (keys : KeyKind) (es : List (String × Value)) :
    (Value.map keys es).encode = .obj (es.map fun e => (e.1, e.2.encode)) := by
  rw [encode, encodeEntries_eq_map]

theorem encode_eq_null {v : Value} : v.encode = .null ↔ v = .null ∨ v = .untyped .null := by
  cases v <;> simp [encode]

end Value

/-- Whether a field with a value is written. -/
def Field.writes (f : Field) (v : Value) : Bool := f.keepsNull || !v.isVoid

/-- What a record of a class writes for its fields, given their values. -/
def writtenFields (c : Class) (g : Field → Value) : List (String × Json) :=
  ((recordOf c).fields.filter fun f => f.writes (g f)).map fun f => (f.wire, (g f).encode)

/-- What a record writes besides its fields. -/
def writtenExtra (extra : List (String × Json)) : List (String × Json) := extra.filter fun m => !m.2.isVoid

section Record

variable {c : Class} {g : Field → Value}

theorem encodeFields_map : ∀ {fields : List Field}, (∀ f ∈ fields, f ∈ (recordOf c).fields) →
    Value.encodeFields c (fields.map fun f => (f.name, g f)) =
      (fields.filter fun f => f.writes (g f)).map fun f => (f.wire, (g f).encode)
  | [], _ => rfl
  | f :: fields, h => by
    rw [List.forall_mem_cons] at h
    rw [List.map_cons, Value.encodeFields, Value.fieldNamed?, find_name h.1, encodeFields_map h.2, List.filter_cons]
    cases hk : f.keepsNull <;> cases hv : (g f).isVoid <;> simp [Field.writes, hk, hv]

theorem encode_record (extra : List (String × Json)) :
    (Value.record c ((recordOf c).fields.map fun f => (f.name, g f)) extra).encode =
      .obj (writtenFields c g ++ writtenExtra extra) := by
  rw [Value.encode, encodeFields_map fun _ h => h]
  rfl

theorem mem_writtenFields {m : String × Json} : m ∈ writtenFields c g ↔
    ∃ f ∈ (recordOf c).fields, f.writes (g f) = true ∧ (f.wire, (g f).encode) = m := by
  simp [writtenFields, and_assoc]

/-! ## Finding what was written -/

/-- Two fields of a record that share a key are one. -/
theorem field_eq {f f' : Field} (hf : f ∈ (recordOf c).fields) (hf' : f' ∈ (recordOf c).fields)
    (h : f'.wire = f.wire ∨ f'.wire = f.name) : f' = f := by
  by_cases he : f' = f
  · exact he
  · obtain ⟨-, hw, -, hn⟩ := apart_of_ne hf' hf he
    exact (h.elim hw hn).elim

theorem nodup_writtenFields : ((writtenFields c g).map (·.1)).Nodup := by
  have hw : (recordOf c).fields.Pairwise fun f f' => f.wire ≠ f'.wire := (fields_apart c).imp fun h => h.2.1
  rw [writtenFields, List.map_map]
  exact List.pairwise_map.2 (hw.filter _)

theorem find?_written_of_not_writes {f : Field} {key : String} (hf : f ∈ (recordOf c).fields)
    (hw : ¬ f.writes (g f) = true) (hkey : key = f.wire ∨ key = f.name) :
    Members.find? key (writtenFields c g) = none := by
  refine Members.find?_eq_none.2 fun m hm he => ?_
  obtain ⟨f', hf', hw', rfl⟩ := mem_writtenFields.1 hm
  rw [← he] at hkey
  exact hw (field_eq hf hf' hkey ▸ hw')

/-- What is found under the wire key of a field. -/
theorem find?_written {f : Field} {extra : List (String × Json)} (hf : f ∈ (recordOf c).fields)
    (hx : ∀ m ∈ extra, m.1 ≠ f.wire) : Members.find? f.wire (writtenFields c g ++ extra) =
      if f.writes (g f) then some (g f).encode else none := by
  rw [Members.find?_append, Members.find?_eq_none.2 hx, Option.none_or]
  by_cases hw : f.writes (g f) = true
  · rw [if_pos hw, Members.find?_of_mem nodup_writtenFields (mem_writtenFields.2 ⟨f, hf, hw, rfl⟩)]
  · rw [if_neg hw, find?_written_of_not_writes hf hw (.inl rfl)]

/-- A field is found where it was written, and only there. -/
theorem findField?_written {f : Field} {extra : List (String × Json)} (hf : f ∈ (recordOf c).fields)
    (hx : ∀ m ∈ extra, m.1 ≠ f.wire ∧ m.1 ≠ f.name) :
    findField? f (writtenFields c g ++ extra) = if f.writes (g f) then some (f.wire, (g f).encode) else none := by
  rw [findField?, find?_written hf fun m hm => (hx m hm).1]
  by_cases hw : f.writes (g f) = true
  · rw [if_pos hw, if_pos hw]
  · rw [if_neg hw, if_neg hw, Members.find?_append, Members.find?_eq_none.2 fun m hm => (hx m hm).2, Option.none_or,
      find?_written_of_not_writes hf hw (.inr rfl)]

/-! ## Members besides the fields -/

variable {ms : List (String × Json)}

theorem mem_extraMembers {fields : List Field} {m : String × Json} (hm : m ∈ extraMembers fields ms) :
    ∃ n ∈ ms, n.1 = m.1 ∧ n.2.merged = m.2 ∧ ∀ f ∈ fields, m.1 ≠ f.wire ∧ m.1 ≠ f.name := by
  have hm := Members.mem_of_mem_merge hm
  rw [Json.mergedMembers_eq_map] at hm
  obtain ⟨n, hn, rfl⟩ := List.mem_map.1 hm
  obtain ⟨hn, hk⟩ := List.mem_filter.1 hn
  refine ⟨n, hn, rfl, rfl, fun f hf => ?_⟩
  simp only [Bool.not_eq_true', List.any_eq_false, Bool.or_eq_true, beq_iff_eq, not_or] at hk
  exact ⟨Ne.symm (hk f hf).1, Ne.symm (hk f hf).2⟩

theorem mem_keptMembers {m : String × Json} (hm : m ∈ keptMembers c ms) :
    (recordOf c).keepsExtra = true ∧ m ∈ extraMembers (recordOf c).fields ms := by
  unfold keptMembers at hm
  split at hm
  · next h => exact ⟨h, hm⟩
  · cases hm

theorem kept_ne {m : String × Json} (hm : m ∈ writtenExtra (keptMembers c ms)) {f : Field}
    (hf : f ∈ (recordOf c).fields) : m.1 ≠ f.wire ∧ m.1 ≠ f.name := by
  obtain ⟨-, -, -, -, hk⟩ := mem_extraMembers (mem_keptMembers (List.mem_filter.1 hm).1).2
  exact hk f hf

/-- What a record of a class that keeps no further members writes, it writes for its fields. -/
theorem mem_encode_record {m : String × Json} (hk : (recordOf c).keepsExtra = false)
    (hm : m ∈ writtenFields c g ++ writtenExtra (keptMembers c ms)) :
    ∃ f ∈ (recordOf c).fields, (f.wire, (g f).encode) = m := by
  rcases List.mem_append.1 hm with hm | hm
  · obtain ⟨f, hf, -, he⟩ := mem_writtenFields.1 hm
    exact ⟨f, hf, he⟩
  · rw [(mem_keptMembers (List.mem_filter.1 hm).1).1] at hk
    cases hk

theorem filter_writtenFields :
    (writtenFields c g).filter (fun m => !(recordOf c).fields.any fun f => f.wire == m.1 || f.name == m.1) = [] := by
  refine List.filter_eq_nil_iff.2 fun m hm => ?_
  obtain ⟨f, hf, -, rfl⟩ := mem_writtenFields.1 hm
  simp only [Bool.not_eq_true', Bool.not_eq_false, List.any_eq_true]
  exact ⟨f, hf, by simp⟩

theorem filter_extraMembers (fields : List Field) : (extraMembers fields ms).filter
    (fun m => !fields.any fun f => f.wire == m.1 || f.name == m.1) = extraMembers fields ms := by
  refine List.filter_eq_self.2 fun m hm => ?_
  obtain ⟨-, -, -, -, hk⟩ := mem_extraMembers hm
  rw [Bool.not_eq_true', List.any_eq_false]
  exact fun f hf hkey => (Field.hasKey_iff.1 hkey).elim (hk f hf).1 (hk f hf).2

/-- Members that were merged once are kept as they are. -/
theorem merge_extraMembers (fields : List Field) :
    Members.merge (Json.mergedMembers (extraMembers fields ms)) = extraMembers fields ms := by
  have h := Json.merged_merged (.obj (ms.filter fun m => !fields.any fun f => f.wire == m.1 || f.name == m.1))
  rw [Json.merged, Json.merged] at h
  exact Json.obj.inj h

/-- What a record keeps is what is kept of what it writes. -/
theorem keptMembers_written :
    keptMembers c (writtenFields c g ++ keptMembers c ms) = keptMembers c ms := by
  unfold keptMembers
  split
  · rw [extraMembers, List.filter_append, filter_writtenFields, filter_extraMembers, List.nil_append,
      merge_extraMembers]
  · rfl

theorem writtenExtra_eq_self {extra : List (String × Json)} (h : ∀ m ∈ extra, m.2.isVoid = false) :
    writtenExtra extra = extra :=
  List.filter_eq_self.2 fun m hm => by rw [h m hm]; rfl

/-- **A record is read back if its fields are.** -/
theorem decode_encode_record {source : Source}
    (hg : ∀ f ∈ (recordOf c).fields,
      if f.writes (g f) then decode source f.ty (g f).encode = .ok (g f) else f.absent = some (g f))
    (hx : ∀ m ∈ keptMembers c ms, m.2.isVoid = false) :
    decode source (.record c)
        (Value.record c ((recordOf c).fields.map fun f => (f.name, g f)) (keptMembers c ms)).encode =
      .ok (.record c ((recordOf c).fields.map fun f => (f.name, g f)) (keptMembers c ms)) := by
  rw [encode_record, decode_record, decodeRecord_map g fun f hf => ?_, writtenExtra_eq_self hx, keptMembers_written]
  have hf' := hg f hf
  rw [decodeField, findField?_written hf fun m hm => kept_ne hm hf]
  split at hf'
  · next hw => rw [if_pos hw]; exact hf'
  · next hw => rw [if_neg hw]; exact decodeAbsent_eq_ok.2 hf'

end Record

end LspWire
