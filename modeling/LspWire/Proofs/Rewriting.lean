import LspWire.Proofs.RoundTrip

/-!
# What reading and writing changes

`Rewrites t d v e` says how the value `e` that is written relates to the data `d` that `v` was read from. Lists keep
their length and order, maps their keys and order, scalars and what no type describes are as they were. An object that
became a record is written with the fields of the record in their order: each one comes from its key, or is `null` and
kept, or is a tag. Every key that is not written again has a reason (`Dropped`).

`encodeAs_rewrites`: writing what was read changes nothing else.
-/

namespace LspWire

open Schema

/-! ## Members of a record -/

/-- Whether a value is `null`. -/
def Value.isNull : Value → Bool
  | .null => true
  | _ => false

theorem Value.eq_null_of_isNull {v : Value} (h : v.isNull = true) : v = .null := by
  cases v <;> first | rfl | cases h

/-- The members of an object that a record keeps and that are no fields, as they stand there. -/
def besides (c : Class) (ms : List (String × Json)) : List (String × Json) :=
  if (recordOf c).keepsExtra then ms.filter fun m => (recordOf c).fields.all fun f => m.1 != f.wire && m.1 != f.name
  else []

/-- The members of a record, given what its fields are and what is written for them: the fields that are not `null` or
    that are kept, in their order, and then the members besides that are not `null`. -/
def recordMembers (c : Class) (g : Field → Value) (h : Field → Json) (ms : List (String × Json)) :
    List (String × Json) :=
  ((recordOf c).fields.filter fun f => f.keepsNull || !(g f).isNull).map (fun f => (f.wire, h f)) ++
    (besides c ms).filter fun m => m.2.kind != .null

/-- Why a member of an object is not written again by the record that it became. -/
inductive Dropped (c : Class) : String × Json → Prop
  /-- It is no field, and the record keeps nothing else. -/
  | unknown {m : String × Json} : (recordOf c).keepsExtra = false →
      (∀ f ∈ (recordOf c).fields, m.1 ≠ f.wire ∧ m.1 ≠ f.name) → Dropped c m
  /-- It is no field, and `null`. -/
  | nullExtra {k : String} : (∀ f ∈ (recordOf c).fields, k ≠ f.wire ∧ k ≠ f.name) → Dropped c (k, .null)
  /-- It is a field that is `null`. -/
  | nullField {f : Field} : f ∈ (recordOf c).fields → f.keepsNull = false → Dropped c (f.wire, .null)
  /-- It is the flag of an older client that is off. -/
  | flagOff {f : Field} {on : Value} {t : Ty} : f ∈ (recordOf c).fields → f.ty = .switch on t →
      Dropped c (f.wire, .bool false)
  /-- It is the field `from` under its name. -/
  | alias {f : Field} {j : Json} : f ∈ (recordOf c).fields → f.name = "from_" → f.wire = "from" →
      Dropped c ("from_", j)

/-! ## The relation -/

mutual

/-- Data of a type, the value that it is read as, and what that value is written as. -/
inductive Rewrites : Ty → Json → Value → Json → Prop
  | any (j : Json) : Rewrites .any j (.untyped j) j
  | unchanged {t : Ty} {j : Json} {v : Value} : ReadsScalar .data t j v → (t = .float → j.kind = .float) →
      Rewrites t j v j
  | floatOfInt (n : Int) : Rewrites .float (.int n) (.float (Double.ofInt n)) (.float (Double.ofInt n))
  | list {t : Ty} {items : List Json} (g : Json → Value) (h : Json → Json) :
      (∀ j ∈ items, Rewrites t j (g j) (h j)) →
      Rewrites (.list t) (.arr items) (.list (items.map g)) (.arr (items.map h))
  | pair {a b : Ty} {x y x' y' : Json} {v w : Value} : Rewrites a x v x' → Rewrites b y w y' →
      Rewrites (.pair a b) (.arr [x, y]) (.pair v w) (.arr [x', y'])
  | map {keys : KeyKind} {t : Ty} {ms : List (String × Json)} (g : Json → Value) (h : Json → Json) :
      (∀ m ∈ ms, Rewrites t m.2 (g m.2) (h m.2)) →
      Rewrites (.map keys t) (.obj ms) (.map keys (ms.map fun m => (m.1, g m.2))) (.obj (ms.map fun m => (m.1, h m.2)))
  | record {c : Class} {ms : List (String × Json)} (g : Field → Value) (h : Field → Json) :
      (∀ f ∈ (recordOf c).fields, Filled ms f (g f) (h f)) →
      (∀ m ∈ ms, m.1 ∈ (recordMembers c g h ms).map (·.1) ∨ Dropped c m) →
      Rewrites (.record c) (.obj ms) (.record c ((recordOf c).fields.map fun f => (f.name, g f)) (besides c ms))
        (.obj (recordMembers c g h ms))
  | optionalNull (t : Ty) : Rewrites (.optional t) .null .null .null
  | optional {t : Ty} {j e : Json} {v : Value} : Rewrites t j v e → Rewrites (.optional t) j v e
  | oneOf {arms : List Ty} {t : Ty} {j e : Json} {v : Value} : t ∈ arms → Rewrites t j v e →
      Rewrites (.oneOf arms) j v e
  | tagged {key tag : String} {arms : List (String × Ty)} {t : Ty} {j e : Json} {v : Value} : (tag, t) ∈ arms →
      Rewrites t j v e → Rewrites (.tagged key arms) j v e
  | plain {b : Bool} {p r : Class} {j e : Json} {v : Value} : Rewrites (.record p) j v e →
      Rewrites (.provider b p r) j v e
  | registered {b : Bool} {p r : Class} {j e : Json} {v : Value} : Rewrites (.record r) j v e →
      Rewrites (.provider b p r) j v e
  | allowed (p r : Class) (b : Bool) : Rewrites (.provider true p r) (.bool b) (.bool b) (.bool b)
  | flagNull (on : Value) (t : Ty) : Rewrites (.switch on t) .null .null .null
  | flagOff (on : Value) (t : Ty) : Rewrites (.switch on t) (.bool false) .null .null
  | flagOn {c : Class} {name : String} : Rewrites (.switch (.record c [(name, .list [])] []) (.record c))
      (.bool true) (.record c [(name, .list [])] []) (.obj [(name, .arr [])])
  | switch {on : Value} {t : Ty} {j e : Json} {v : Value} : Rewrites t j v e → Rewrites (.switch on t) j v e

/-- Where a field of a record comes from, its value and what is written for it. -/
inductive Filled : List (String × Json) → Field → Value → Json → Prop
  /-- From its key. -/
  | key {ms : List (String × Json)} {f : Field} {j e : Json} {v : Value} : (f.wire, j) ∈ ms → Rewrites f.ty j v e →
      Filled ms f v e
  /-- From its name, where that is not its key and the key is absent. -/
  | alias {ms : List (String × Json)} {f : Field} {j e : Json} {v : Value} : f.name = "from_" → f.wire = "from" →
      (∀ m ∈ ms, m.1 ≠ f.wire) → (f.name, j) ∈ ms → Rewrites f.ty j v e → Filled ms f v e
  /-- From nothing, as `null`. -/
  | null {ms : List (String × Json)} {f : Field} : (∀ m ∈ ms, m.1 ≠ f.wire ∧ m.1 ≠ f.name) → Filled ms f .null .null
  /-- From nothing, as its tag. -/
  | tag {ms : List (String × Json)} {f : Field} {text : String} : (∀ m ∈ ms, m.1 ≠ f.wire ∧ m.1 ≠ f.name) →
      f.ty = .literal text → Filled ms f (.str text) (.str text)

end

/-! ## Values that are `null` -/

/-- What is read as `null` is `null`, or the flag of an older client that is off. -/
theorem Reads.of_null {source : Source} {t : Ty} {j : Json} {v : Value} (h : Reads source t j v) :
    t.regular = true → v = .null → j = .null ∨ j = .bool false ∧ t.readsFlag = true := by
  induction h with
  | scalar h =>
    intro _ hv
    cases h with
    | null => exact .inl rfl
    | _ => cases hv
  | any | list | pair | map | record | allowed => exact fun _ hv => by cases hv
  | optionalNull | switchNull => exact fun _ _ => .inl rfl
  | switchOff => exact fun _ _ => .inr ⟨rfl, rfl⟩
  | optional _ _ ih => exact fun hr hv => ih (Ty.regular_inner hr List.mem_cons_self) hv
  | @oneOf pre post t j v _ _ ih =>
    intro hr hv
    have ht : t ∈ pre ++ t :: post := List.mem_append_right _ List.mem_cons_self
    exact (ih (Ty.regular_inner hr ht) hv).imp_right fun h => ⟨h.1, Ty.any_partsThrough rfl ht h.2⟩
  | tagged _ hm ht =>
    intro hr hv
    obtain ⟨hobj, hreg⟩ := (Ty.regular_tagged hr).2 _ (mem_of_lookup hm)
    obtain ⟨c, fs, extra, rfl⟩ := ht.isRecord hreg hobj
    cases hv
  | registered _ ht | plain _ ht =>
    intro _ hv
    obtain ⟨c, fs, extra, rfl⟩ := ht.isRecord rfl rfl
    cases hv
  | switchOn on t =>
    intro hr hv
    replace hr := Ty.regular_switch hr
    obtain ⟨c, name, e, a, rfl, -⟩ := Ty.isBlank_iff.1 hr.1
    cases hv
  | switch _ _ _ ih =>
    intro hr hv
    replace hr := Ty.regular_switch hr
    exact (ih hr.2 hv).imp_right fun h => ⟨h.1, rfl⟩

/-! ## Members of decoded records -/

section Members

variable {source : Source} {c : Class} {g : Field → Value} {ms : List (String × Json)}

theorem besides_of_keepsExtra (hk : (recordOf c).keepsExtra = true) : besides c ms =
    ms.filter fun m => !(recordOf c).fields.any fun f => f.wire == m.1 || f.name == m.1 := by
  rw [besides, if_pos hk]
  congr 1
  funext m
  rw [List.not_any_eq_all_not]
  simp only [Bool.not_or, bne, Bool.beq_comm]

/-- Without repeated keys a record keeps the members besides its fields as they stand. -/
theorem keptMembers_eq_besides (hd : (Json.obj ms).Distinct) : keptMembers c ms = besides c ms := by
  cases hk : (recordOf c).keepsExtra with
  | false => simp [keptMembers, besides, hk]
  | true =>
    have hsub : (Json.obj (ms.filter fun m =>
        !(recordOf c).fields.any fun f => f.wire == m.1 || f.name == m.1)).Distinct :=
      .obj (hd.nodup.sublist (List.filter_sublist.map _)) fun m hm => hd.member (List.mem_filter.1 hm).1
    rw [keptMembers, if_pos hk, besides_of_keepsExtra hk, extraMembers]
    exact Json.obj.inj hsub.merged_eq

theorem isVoid_eq_null {j : Json} (h : j.Finite) : (!j.isVoid) = (j.kind != .null) := by
  cases h with
  | float hx => simp [Json.isVoid, hx, Json.kind]
  | _ => rfl

/-- What a decoded record writes are the members of the record. -/
theorem encode_eq_recordMembers
    (hvoid : ∀ f ∈ (recordOf c).fields, f.keepsNull = false → (g f).isVoid = true → g f = .null)
    (hj : (Json.obj ms).Finite) (hd : (Json.obj ms).Distinct) :
    writtenFields c g ++ writtenExtra (keptMembers c ms) = recordMembers c g (fun f => (g f).encode) ms := by
  have hfields : ∀ f ∈ (recordOf c).fields, f.writes (g f) = (f.keepsNull || !(g f).isNull) := by
    intro f hf
    cases hk : f.keepsNull with
    | true => simp [Field.writes, hk]
    | false =>
      rw [Field.writes, hk, Bool.false_or, Bool.false_or]
      cases hv : (g f).isVoid with
      | true => rw [hvoid f hf hk hv]; rfl
      | false =>
        have hn : (g f).isNull = false := Bool.eq_false_iff.2 fun h => by
          rw [Value.eq_null_of_isNull h] at hv; cases hv
        rw [hn]
  have hextra : ∀ m ∈ besides c ms, (!m.2.isVoid) = (m.2.kind != .null) := by
    intro m hm
    unfold besides at hm
    split at hm
    · exact isVoid_eq_null (hj.member (List.mem_filter.1 hm).1)
    · cases hm
  rw [writtenFields, writtenExtra, recordMembers, keptMembers_eq_besides hd, List.filter_congr hfields,
    List.filter_congr hextra]

theorem ne_of_findField?_none {f : Field} (h : findField? f ms = none) :
    ∀ m ∈ ms, m.1 ≠ f.wire ∧ m.1 ≠ f.name := by
  unfold findField? at h
  split at h
  · cases h
  · next hw =>
    split at h
    · cases h
    · next hn => exact fun m hm => ⟨Members.find?_eq_none.1 hw m hm, Members.find?_eq_none.1 hn m hm⟩

/-- Each field is filled from its key, its name or nothing. -/
theorem filled_of_reads {f : Field} (hf : f ∈ (recordOf c).fields)
    (hrewrites : ∀ k j, findField? f ms = some (k, j) → Rewrites f.ty j (g f) (g f).encode)
    (habsent : findField? f ms = none → f.absent = some (g f)) : Filled ms f (g f) (g f).encode := by
  have hreg := field_regular hf
  cases hr : findField? f ms with
  | some p =>
    obtain ⟨k, j⟩ := p
    have hj := hrewrites k j hr
    unfold findField? at hr
    split at hr
    · next hw => cases hr; exact .key (Members.mem_of_find? hw) hj
    · next hw =>
      split at hr
      · next hn =>
        cases hr
        have hne := Members.find?_eq_none.1 hw
        have hmem := Members.mem_of_find? hn
        rcases (Field.spelled_iff.1 hreg.spelled).1 with he | ⟨hname, hwire⟩
        · exact absurd he (hne _ hmem)
        · exact .alias hname hwire hne hmem hj
      · cases hr
  | none =>
    have hne := ne_of_findField?_none hr
    rcases f.absent_cases hreg.defaultFits (habsent hr) with ⟨hg, -⟩ | ⟨hg, -⟩ | ⟨s, hg, hty⟩ <;> rw [hg, Value.encode]
    · exact .null hne
    · exact .null hne
    · exact .tag hne hty

/-- A field that was read as `null` and is not written was `null`, or a flag that is off. -/
theorem dropped_of_null {f : Field} {j : Json} (hf : f ∈ (recordOf c).fields) (hread : Reads source f.ty j .null)
    (hk : f.keepsNull = false) : Dropped c (f.wire, j) := by
  have hreg := field_regular hf
  rcases hread.of_null hreg.ty rfl with rfl | ⟨rfl, hflag⟩
  · exact .nullField hf hk
  · rcases Field.flagIsSwitch_iff.1 hreg.flagIsSwitch with ⟨on, t, ht⟩ | hno
    · exact .flagOff hf ht
    · rw [hno] at hflag; cases hflag

/-- A member that is not written again was dropped for a reason. -/
theorem dropped_of_not_written
    (hread : ∀ f ∈ (recordOf c).fields, ∀ k j, findField? f ms = some (k, j) → Reads source f.ty j (g f))
    (hd : (Json.obj ms).Distinct) {m : String × Json} (hm : m ∈ ms) :
    m.1 ∈ (recordMembers c g (fun f => (g f).encode) ms).map (·.1) ∨ Dropped c m := by
  rw [recordMembers, List.map_append, List.mem_append]
  by_cases hfield : ∃ f ∈ (recordOf c).fields, m.1 = f.wire ∨ m.1 = f.name
  · obtain ⟨f, hf, hkey⟩ := hfield
    by_cases hwire : m.1 = f.wire
    · by_cases hw : (f.keepsNull || !(g f).isNull) = true
      · refine .inl (.inl ?_)
        rw [List.map_map, List.mem_map]
        exact ⟨f, List.mem_filter.2 ⟨hf, hw⟩, hwire.symm⟩
      · right
        simp only [Bool.or_eq_true, Bool.not_eq_true', not_or, Bool.not_eq_true, Bool.not_eq_false] at hw
        obtain ⟨k, j⟩ := m
        simp only at hwire
        subst hwire
        have hfind : findField? f ms = some (f.wire, j) := by rw [findField?, Members.find?_of_mem hd.nodup hm]
        exact dropped_of_null hf (Value.eq_null_of_isNull hw.2 ▸ hread f hf _ _ hfind) hw.1
    · right
      rcases (Field.spelled_iff.1 (field_regular hf).spelled).1 with he | ⟨hname, hwire'⟩
      · exact absurd (hkey.resolve_left hwire) (he ▸ hwire)
      · obtain ⟨k, j⟩ := m
        have hk : k = "from_" := (hkey.resolve_left hwire).trans hname
        subst hk
        exact .alias hf hname hwire'
  · have hne : ∀ f ∈ (recordOf c).fields, m.1 ≠ f.wire ∧ m.1 ≠ f.name :=
      fun f hf => ⟨fun h => hfield ⟨f, hf, .inl h⟩, fun h => hfield ⟨f, hf, .inr h⟩⟩
    cases hk : (recordOf c).keepsExtra with
    | false => exact .inr (.unknown hk hne)
    | true =>
      by_cases hn : m.2 = .null
      · obtain ⟨k, j⟩ := m
        cases hn
        exact .inr (.nullExtra hne)
      · refine .inl (.inr (List.mem_map_of_mem (List.mem_filter.2 ⟨?_, ?_⟩)))
        · rw [besides, if_pos hk, List.mem_filter]
          exact ⟨hm, by simpa using hne⟩
        · cases h : m.2 <;> first | rfl | exact absurd h hn

end Members

/-! ## Writing what was read -/

theorem ReadsScalar.rewrites {t : Ty} {j : Json} {v : Value} (h : ReadsScalar .data t j v) :
    Rewrites t j v v.encode := by
  cases h with
  | floatOfInt => exact .floatOfInt _
  | float x => exact .unchanged (.float x) fun _ => rfl
  | _ =>
    rw [Value.encode]
    exact .unchanged (by constructor <;> assumption) fun ht => by cases ht

/-- What was read is written with the changes of the rules and no others. -/
theorem Reads.rewrites {t : Ty} {j : Json} {v : Value} (h : Reads .data t j v) :
    t.regular = true → j.Finite → j.Distinct → Rewrites t j v v.encode := by
  induction h with
  | any j =>
    intro _ _ hd
    rw [hd.merged_eq, Value.encode]
    exact .any j
  | scalar h => exact fun _ _ _ => h.rewrites
  | list g _ ih =>
    intro hr hj hd
    replace hr := Ty.regular_inner hr List.mem_cons_self
    rw [Value.encode_list, List.map_map]
    exact .list g _ fun x hx => ih x hx hr (hj.item hx) (hd.item hx)
  | pair _ _ iha ihb =>
    intro hr hj hd
    replace hr := Ty.regular_pair hr
    rw [Value.encode]
    exact .pair (iha hr.1 (hj.item (by simp)) (hd.item (by simp))) (ihb hr.2 (hj.item (by simp)) (hd.item (by simp)))
  | @map keys t ms g _ _ ih =>
    intro hr hj hd
    replace hr := Ty.regular_inner hr List.mem_cons_self
    have hnodup : ((ms.map fun m => (m.1, g m.2)).map (·.1)).Nodup := by
      rw [List.map_map]
      exact hd.nodup
    rw [Members.merge_of_nodup hnodup, Value.encode_map, List.map_map]
    exact .map g (fun j => (g j).encode) fun m hm => ih m hm hr (hj.member hm) (hd.member hm)
  | @record c ms g hread habsent ih =>
    intro _ hj hd
    have hfin := (Reads.record g hread habsent).finite rfl hj
    have hvoid : ∀ f ∈ (recordOf c).fields, f.keepsNull = false → (g f).isVoid = true → g f = .null := by
      intro f hf hk hv
      have hval : (g f).Finite := hfin.field (List.mem_map_of_mem (f := fun f => (f.name, g f)) hf)
      refine fieldValue_null hf (hread f hf) (habsent f hf) hval.hasForm ?_ hv
      have h := (field_regular hf).keepsVoid
      rw [Field.keepsVoid, hk, Bool.false_or] at h
      split at h
      · simpa using h
      · simp only [Bool.and_eq_true, Bool.not_eq_true'] at h
        exact h.1
    rw [encode_record, encode_eq_recordMembers hvoid hj hd, keptMembers_eq_besides hd]
    refine .record g _ (fun f hf => ?_) fun m hm => dropped_of_not_written hread hd hm
    refine filled_of_reads hf (fun k j hr => ?_) (habsent f hf)
    have hmem := mem_of_findField? hr
    exact ih f hf k j hr (field_regular hf).ty (hj.member hmem) (hd.member hmem)
  | optionalNull t => intro _ _ _; rw [Value.encode]; exact .optionalNull t
  | optional _ _ ih => exact fun hr hj hd => .optional (ih (Ty.regular_inner hr List.mem_cons_self) hj hd)
  | oneOf _ _ ih => exact fun hr hj hd => .oneOf (by simp) (ih (Ty.regular_inner hr (by simp)) hj hd)
  | tagged _ hm _ ih =>
    intro hr hj hd
    have hmem := mem_of_lookup hm
    exact .tagged hmem (ih ((Ty.regular_tagged hr).2 _ hmem).2 hj hd)
  | registered _ _ ih => exact fun _ hj hd => .registered (ih rfl hj hd)
  | plain _ _ ih => exact fun _ hj hd => .plain (ih rfl hj hd)
  | allowed p r b => intro _ _ _; rw [Value.encode]; exact .allowed p r b
  | switchNull on t => intro _ _ _; rw [Value.encode]; exact .flagNull on t
  | switchOff on t => intro _ _ _; rw [Value.encode]; exact .flagOff on t
  | switchOn on t =>
    intro hr _ _
    replace hr := Ty.regular_switch hr
    obtain ⟨c, name, e, a, rfl, rfl, hf⟩ := Ty.isBlank_iff.1 hr.1
    have hon : Value.record c [(name, .list [])] [] =
        .record c ((recordOf c).fields.map fun f => (f.name, .list [])) [] := by rw [hf]; rfl
    have he : (Value.record c [(name, .list [])] []).encode = .obj [(name, .arr [])] := by
      rw [hon, encode_record, writtenFields, hf]
      rfl
    rw [he]
    exact .flagOn
  | switch _ _ _ ih =>
    intro hr hj hd
    replace hr := Ty.regular_switch hr
    exact .switch (ih hr.2 hj hd)

/-- **Writing what was read changes nothing else.** -/
theorem encodeAs_rewrites {t : Ty} (ht : InLibrary t) {d : Json} (hj : d.Finite) (hd : d.Distinct) {v : Value}
    (h : decodeData t d = .ok v) : Rewrites t d v (v.encodeAs t) := by
  rw [Outcome.decodeData_eq_ok] at h
  rw [encodeAs_eq_encode ht.regular h]
  exact (reads_of_decode t d h).rewrites ht.regular hj hd

/-- The flag of an older client is written as an object without tags; a `null` and an unknown key are not written. -/
theorem flag_rewritten :
    let d : Json := .obj [("tagSupport", .bool true), ("versionSupport", .null), ("other", .int 1)]
    ∃ v, decodeData (.record .publishDiagnosticsClientCapabilities) d = .ok v ∧
      v.encode = .obj [("tagSupport", .obj [("valueSet", .arr [])])] ∧
      Rewrites (.record .publishDiagnosticsClientCapabilities) d v
        (v.encodeAs (.record .publishDiagnosticsClientCapabilities)) := by
  intro d
  have hf : recordOf .publishDiagnosticsClientCapabilities = publishDiagnosticsClientCapabilities := rfl
  have hread : decodeData (.record .publishDiagnosticsClientCapabilities) d =
      .ok (.record .publishDiagnosticsClientCapabilities
        [("relatedInformation", .null), ("tagSupport", .record .tagSupportOfDiagnosticTag [("valueSet", .list [])] []),
          ("versionSupport", .null), ("codeDescriptionSupport", .null), ("dataSupport", .null)] []) := by
    rw [Outcome.decodeData_eq_ok]
    simp [d, decode, decodeRecord, decodeFields, hf, publishDiagnosticsClientCapabilities, record, Schema.optional,
      tagSupportOrFlag, findField?, Members.find?, decodeAbsent, Outcome.both, Outcome.map, Outcome.within]
  have hfinite : d.Finite := .obj (by simp [Json.Finite.bool, Json.Finite.null, Json.Finite.int])
  have hdistinct : d.Distinct := .obj (by decide) (by simp [Json.Distinct.bool, Json.Distinct.null, Json.Distinct.int])
  exact ⟨_, hread, rfl, encodeAs_rewrites (.record _) hfinite hdistinct hread⟩

end LspWire
