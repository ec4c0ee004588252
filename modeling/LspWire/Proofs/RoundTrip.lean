import LspWire.Proofs.Fitting
import LspWire.Proofs.Invertible
import LspWire.Proofs.Numbers

/-!
# Reading back what was written

`Reads.read_back`: what was read at an invertible type is written as a JSON value that reads back as the same value,
from either source. The induction follows the rules of reading. At a union the arm that wrote the value reads it back,
and the arms before it agree. Two things are lost in writing and are excluded (`Recoverable`): a `null` among the
members that a record keeps besides its fields, and the registration of a notebook provider that has no `id`. A field
that no type describes may hold a number that is not finite, and is not written then; that is excluded as well
(`Value.Formed`). It is so where the numbers of the value are finite (`Reads.read_back_of_finite`), and those of the
data need not be, where the value does not hold them.
-/

namespace LspWire

open Schema

/-! ## Values inside of values -/

/-- `Within t v t' v'`: inside a value `v` of type `t`, the value `v'` stands where the type is `t'`. -/
inductive Within : Ty → Value → Ty → Value → Prop
  | here (t : Ty) (v : Value) : Within t v t v
  | item {t t' : Ty} {v v' : Value} {vs : List Value} : v ∈ vs → Within t v t' v' → Within (.list t) (.list vs) t' v'
  | first {a b t' : Ty} {v w v' : Value} : Within a v t' v' → Within (.pair a b) (.pair v w) t' v'
  | second {a b t' : Ty} {v w v' : Value} : Within b w t' v' → Within (.pair a b) (.pair v w) t' v'
  | entry {keys : KeyKind} {t t' : Ty} {k : String} {v v' : Value} {es : List (String × Value)} : (k, v) ∈ es →
      Within t v t' v' → Within (.map keys t) (.map keys es) t' v'
  | field {c : Class} {f : Field} {t' : Ty} {v v' : Value} {fs : List (String × Value)}
      {extra : List (String × Json)} : f ∈ (recordOf c).fields → (f.name, v) ∈ fs → Within f.ty v t' v' →
      Within (.record c) (.record c fs extra) t' v'
  | optional {t t' : Ty} {v v' : Value} : Within t v t' v' → Within (.optional t) v t' v'
  | oneOf {arms : List Ty} {t t' : Ty} {v v' : Value} : t ∈ arms → Within t v t' v' → Within (.oneOf arms) v t' v'
  | tagged {key tag : String} {arms : List (String × Ty)} {t t' : Ty} {v v' : Value} : (tag, t) ∈ arms →
      Within t v t' v' → Within (.tagged key arms) v t' v'
  | plain {b : Bool} {p r : Class} {t' : Ty} {v v' : Value} : Within (.record p) v t' v' →
      Within (.provider b p r) v t' v'
  | registered {b : Bool} {p r : Class} {t' : Ty} {v v' : Value} : Within (.record r) v t' v' →
      Within (.provider b p r) v t' v'
  | switch {on : Value} {t t' : Ty} {v v' : Value} : Within t v t' v' → Within (.switch on t) v t' v'

/-- A value that holds nothing that writing loses: no `null` among the members that a record keeps besides its fields,
    and no registration of a notebook provider without an `id`. -/
structure Recoverable (t : Ty) (v : Value) : Prop where
  extra : ∀ {c : Class} {fs : List (String × Value)} {extra : List (String × Json)},
    Within t v (.record c) (.record c fs extra) → ∀ m ∈ extra, m.2 ≠ .null
  id : ∀ {fs : List (String × Value)} {extra : List (String × Json)},
    Within t v notebookDocumentSyncServerCapabilities (.record .notebookDocumentSyncRegistrationOptions fs extra) →
      ("id", Value.null) ∉ fs

theorem Recoverable.part {t t' : Ty} {v v' : Value} (h : Recoverable t v)
    (hw : ∀ {t'' : Ty} {w : Value}, Within t' v' t'' w → Within t v t'' w) : Recoverable t' v' :=
  ⟨fun hc => h.extra (hw hc), fun hc => h.id (hw hc)⟩

/-- `Inside v w`: the value `w` stands inside of `v`. -/
inductive Value.Inside : Value → Value → Prop
  | here (v : Value) : Inside v v
  | item {v w : Value} {vs : List Value} : v ∈ vs → Inside v w → Inside (.list vs) w
  | first {x y w : Value} : Inside x w → Inside (.pair x y) w
  | second {x y w : Value} : Inside y w → Inside (.pair x y) w
  | entry {keys : KeyKind} {e : String × Value} {w : Value} {es : List (String × Value)} : e ∈ es → Inside e.2 w →
      Inside (.map keys es) w
  | field {c : Class} {m : String × Value} {w : Value} {fs : List (String × Value)} {extra : List (String × Json)} :
      m ∈ fs → Inside m.2 w → Inside (.record c fs extra) w

/-- Whether a value has a JSON form, unless it is `null`. -/
def Value.HasForm (v : Value) : Prop := v.isVoid = true → v = .null ∨ v = .untyped .null

/-- A value whose fields have JSON forms, and the members that its records keep besides. -/
structure Value.Formed (v : Value) : Prop where
  field : ∀ {c : Class} {fs : List (String × Value)} {extra : List (String × Json)},
    Inside v (.record c fs extra) → ∀ m ∈ fs, m.2.HasForm
  extra : ∀ {c : Class} {fs : List (String × Value)} {extra : List (String × Json)},
    Inside v (.record c fs extra) → ∀ m ∈ extra, m.2.isVoid = true → m.2 = .null

theorem Value.Formed.part {v w : Value} (h : v.Formed) (hw : ∀ {u : Value}, Inside w u → Inside v u) : w.Formed :=
  ⟨fun hc => h.field (hw hc), fun hc => h.extra (hw hc)⟩

theorem Value.Finite.hasForm {v : Value} (h : v.Finite) : v.HasForm := by
  intro hv
  cases v with
  | null => exact .inl rfl
  | untyped j => rw [h.eq_null hv]; exact .inr rfl
  | _ => cases hv

theorem Value.Inside.finite {v w : Value} (h : Inside v w) : v.Finite → w.Finite := by
  induction h with
  | here => exact id
  | item hm _ ih => exact fun hv => ih (hv.item hm)
  | first _ ih => exact fun hv => ih hv.first
  | second _ ih => exact fun hv => ih hv.second
  | entry hm _ ih => exact fun hv => ih (hv.entry hm)
  | field hm _ ih => exact fun hv => ih (hv.field hm)

/-- A value whose numbers are finite has a JSON form in every field. -/
theorem Value.Finite.formed {v : Value} (h : v.Finite) : v.Formed where
  field := fun hw _ hm => ((hw.finite h).field hm).hasForm
  extra := fun hw _ hm hv => ((hw.finite h).extra hm).eq_null hv

/-! ## Values that are not written -/

section Void

variable {source : Source} {t : Ty} {j : Json} {v : Value}

/-- What has no JSON form was read from `null`, or is absent from a type that may be. -/
theorem Reads.void (h : Reads source t j v) : t.regular = true → v.HasForm → v.isVoid = true →
    v = .null ∧ t.readsNull = true ∨ j = .null ∧ t.readsRaw = true := by
  induction h with
  | any j =>
    intro _ hform hv
    rcases hform hv with hnull | hnull
    · cases hnull
    · exact .inr ⟨Json.merged_eq_null.1 (Value.untyped.inj hnull), rfl⟩
  | scalar h =>
    intro _ _ hv
    cases h with
    | null => exact .inl ⟨rfl, rfl⟩
    | _ => cases hv
  | list | pair | map | record | allowed => exact fun _ _ hv => by cases hv
  | optionalNull t => exact fun _ _ _ => .inl ⟨rfl, rfl⟩
  | optional hn _ ih =>
    intro hr hform hv
    replace hr := Ty.regular_inner hr List.mem_cons_self
    exact .inl ⟨((ih hr hform hv).resolve_right fun h => hn h.1).1, rfl⟩
  | @oneOf pre post t j v _ _ ih =>
    intro hr hform hv
    have ht : t ∈ pre ++ t :: post := List.mem_append_right _ List.mem_cons_self
    rcases ih (Ty.regular_inner hr ht) hform hv with ⟨rfl, hnull⟩ | ⟨rfl, hraw⟩
    · exact .inl ⟨rfl, Ty.any_partsThrough rfl ht hnull⟩
    · exact .inr ⟨rfl, Ty.any_partsThrough rfl ht hraw⟩
  | tagged _ hm ht =>
    intro hr _ hv
    obtain ⟨hobj, hreg⟩ := (Ty.regular_tagged hr).2 _ (mem_of_lookup hm)
    obtain ⟨c, fs, extra, rfl⟩ := ht.isRecord hreg hobj
    cases hv
  | registered _ ht | plain _ ht =>
    intro _ _ hv
    obtain ⟨c, fs, extra, rfl⟩ := ht.isRecord rfl rfl
    cases hv
  | switchNull | switchOff => exact fun _ _ _ => .inl ⟨rfl, rfl⟩
  | switchOn on t =>
    intro hr _ hv
    replace hr := Ty.regular_switch hr
    obtain ⟨c, name, e, a, rfl, -⟩ := Ty.isBlank_iff.1 hr.1
    cases hv
  | switch hn _ _ ih =>
    intro hr hform hv
    replace hr := Ty.regular_switch hr
    exact .inl ⟨((ih hr.2 hform hv).resolve_right fun h => hn h.1).1, rfl⟩

/-- A field that was read and is not written is read as it was when it is absent. -/
theorem Reads.absent_of_not_writes {f : Field} (h : Reads source f.ty j v) (hr : f.ty.regular = true)
    (hform : v.HasForm) (hk : f.keepsVoid = true) (hw : ¬ f.writes v = true) : f.absent = some v := by
  simp only [Field.writes, Bool.or_eq_true, Bool.not_eq_true', not_or, Bool.not_eq_true, Bool.not_eq_false] at hw
  rw [Field.keepsVoid, hw.1, Bool.false_or] at hk
  rcases h.void hr hform hw.2 with ⟨rfl, hn⟩ | ⟨-, hraw⟩
  · split at hk
    · next ha => exact ha
    · simp [hn] at hk
  · split at hk <;> simp [hraw] at hk

/-- A default is read back as itself. -/
theorem Field.decode_absent {f : Field} (hf : f.defaultFits = true) (h : f.absent = some v) :
    decode source f.ty v.encode = .ok v := by
  rcases f.absent_cases hf h with ⟨rfl, t, ht⟩ | ⟨rfl, on, t, ht⟩ | ⟨s, rfl, ht⟩
  · rw [ht, Value.encode, decode]
  · rw [ht, Value.encode, decode]
  · rw [ht, Value.encode]
    exact (ReadsScalar.literal s).decode_eq

end Void

/-! ## Keys that records write -/

section Keys

variable {source : Source} {c : Class} {g : Field → Value} {ms extra : List (String × Json)}

theorem isRegistration_written {f : Field} (hf : f ∈ (recordOf c).fields) (hkey : f.wire ∈ registrationKeys)
    (hw : f.writes (g f) = true) : isRegistration (writtenFields c g ++ extra) = true :=
  isRegistration_iff.2 ⟨_, List.mem_append_left _ (mem_writtenFields.2 ⟨f, hf, hw, rfl⟩), hkey⟩

theorem not_isRegistration_written (h : (registrationKeys.all fun k => neverWrites k c) = true) :
    isRegistration (writtenFields c g ++ writtenExtra (keptMembers c ms)) = false := by
  simp only [List.all_eq_true, neverWrites, Bool.and_eq_true, Bool.not_eq_true', bne_iff_ne] at h
  refine Bool.eq_false_iff.2 fun hr => ?_
  obtain ⟨m, hm, hkey⟩ := isRegistration_iff.1 hr
  obtain ⟨f, hf, rfl⟩ := mem_encode_record (h _ hkey).1 hm
  exact (h _ hkey).2 f hf rfl

theorem notebook_id : ∃ f ∈ (recordOf .notebookDocumentSyncRegistrationOptions).fields,
    f.name = "id" ∧ f.wire ∈ registrationKeys ∧ f.ty.readsRaw = false := by
  have h : ((recordOf .notebookDocumentSyncRegistrationOptions).fields.any fun f =>
      f.name == "id" && registrationKeys.contains f.wire && !f.ty.readsRaw) = true := by decide +kernel
  obtain ⟨f, hf, h⟩ := List.any_eq_true.1 h
  simp only [Bool.and_eq_true, beq_iff_eq, List.contains_iff_mem, Bool.not_eq_true'] at h
  exact ⟨f, hf, h.1.1, h.1.2, h.2⟩

section Values

variable {f : Field} (hf : f ∈ (recordOf c).fields)
  (hread : ∀ k j, findField? f ms = some (k, j) → Reads source f.ty j (g f))
  (habsent : findField? f ms = none → f.absent = some (g f))

include hf hread habsent

/-- A field that is not raw has the value `null` where it has no JSON form. -/
theorem fieldValue_null (hform : (g f).HasForm) (hraw : f.ty.readsRaw = false) (hv : (g f).isVoid = true) :
    g f = .null := by
  have hreg := field_regular hf
  cases hr : findField? f ms with
  | some p =>
    rcases (hread p.1 p.2 hr).void hreg.ty hform hv with h | h
    · exact h.1
    · rw [hraw] at h; cases h.2
  | none =>
    rcases f.absent_cases hreg.defaultFits (habsent hr) with ⟨h, -⟩ | ⟨h, -⟩ | ⟨s, h, -⟩
    · exact h
    · exact h
    · rw [h] at hv; cases hv

/-- A tag is read as itself, present or absent. -/
theorem fieldValue_literal {text : String} (hty : f.ty = .literal text) : g f = .str text := by
  cases hr : findField? f ms with
  | some p =>
    obtain ⟨k, j⟩ := p
    have h := hread k j hr
    rw [hty] at h
    generalize g f = v at h
    cases h with
    | scalar h => cases h; rfl
  | none =>
    rcases f.absent_cases (field_regular hf).defaultFits (habsent hr) with ⟨-, t, ht⟩ | ⟨-, on, t, ht⟩ | ⟨s, h, ht⟩
    · rw [hty] at ht; cases ht
    · rw [hty] at ht; cases ht
    · rw [hty] at ht; cases ht; exact h

end Values

/-- What registers with a provider writes a registration key. -/
theorem isRegistration_registered {b : Bool} {p r : Class} (htold : providerTold b p r = true)
    (hfields : ∀ f ∈ (recordOf r).fields, ∀ k j, findField? f ms = some (k, j) → Reads source f.ty j (g f))
    (habsent : ∀ f ∈ (recordOf r).fields, findField? f ms = none → f.absent = some (g f))
    (hform : ∀ f ∈ (recordOf r).fields, (g f).HasForm)
    (hid : .provider b p r = notebookDocumentSyncServerCapabilities →
      ("id", Value.null) ∉ (recordOf r).fields.map fun f => (f.name, g f)) :
    isRegistration (writtenFields r g ++ extra) = true := by
  rw [providerTold, Bool.and_eq_true] at htold
  rcases Bool.or_eq_true_iff.1 htold.2 with hreg | hnote
  · obtain ⟨f, hf, hkey⟩ := List.any_eq_true.1 hreg
    rw [Bool.and_eq_true, List.contains_iff_mem] at hkey
    exact isRegistration_written hf hkey.1 (by rw [Field.writes, hkey.2, Bool.true_or])
  · -- the notebook provider writes its `id` only because there is one
    simp only [Bool.and_eq_true, Bool.not_eq_true', beq_iff_eq] at hnote
    obtain ⟨⟨rfl, rfl⟩, rfl⟩ := hnote
    obtain ⟨f, hf, hname, hkey, hraw⟩ := notebook_id
    have hsome : (g f).isVoid = false := by
      refine Bool.eq_false_iff.2 fun hv => hid rfl ?_
      rw [← hname, ← fieldValue_null hf (hfields f hf) (habsent f hf) (hform f hf) hraw hv]
      exact List.mem_map_of_mem hf
    exact isRegistration_written hf hkey (by rw [Field.writes, hsome, Bool.not_false, Bool.or_true])

/-- What is read under a tag writes the tag. -/
theorem Reads.writes_tag {t : Ty} {j : Json} {v : Value} {key tag : String} (h : Reads source t j v) :
    t.writesTag key tag = true → ∃ ms, v.encode = .obj ms ∧ Members.find? key ms = some (.str tag) := by
  induction h with
  | @record c ms g hread habsent _ =>
    intro ht
    rw [Ty.writesTag_record, Ty.writesTagLevel, List.any_eq_true] at ht
    obtain ⟨f, hf, ht⟩ := ht
    rw [Bool.and_eq_true, beq_iff_eq] at ht
    obtain ⟨rfl, ht⟩ := ht
    split at ht
    · next text hty =>
      rw [beq_iff_eq] at ht
      subst ht
      have hg := fieldValue_literal hf (hread f hf) (habsent f hf) hty
      refine ⟨_, encode_record _, ?_⟩
      rw [find?_written hf fun m hm => (kept_ne hm hf).1, hg, if_pos (by simp [Field.writes, Value.isVoid])]
      rfl
    · cases ht
  | tagged _ hm _ ih => exact fun ht => ih (Ty.writesTag_tagged ht (mem_of_lookup hm))
  | scalar h => cases h <;> exact fun ht => by cases ht
  | _ => exact fun ht => by cases ht

end Keys

/-! ## Reading back -/

theorem ReadsScalar.read_back {source : Source} {t : Ty} {j : Json} {v : Value} (h : ReadsScalar source t j v)
    (s : Source) : decode s t v.encode = .ok v := by
  cases h with
  | floatOfInt => rw [Value.encode]; exact (ReadsScalar.float _).decode_eq
  | _ =>
    rw [Value.encode]
    exact ReadsScalar.decode_eq (by constructor <;> assumption)

/-- A value that one arm of a union reads back is read back by the union, if the arms before it give that value or
    none. -/
theorem decode_oneOf_of_agrees {s : Source} {pre post : List Ty} {t : Ty} {v : Value}
    (h : decode s t v.encode = .ok v) (hpre : ∀ a ∈ pre, a.agrees t = true ∨ ∀ w, decode s a v.encode ≠ .ok w) :
    decode s (.oneOf (pre ++ t :: post)) v.encode = .ok v := by
  rw [decode_oneOf]
  refine decodeFirst_of_mem h fun a ha w hw => ?_
  rcases hpre a ha with hagree | hno
  · exact (reads_of_decode t _ h).eq_of_agrees rfl a w hagree hw
  · exact absurd hw (hno w)

/-- The value that `true` stands for is read back. -/
theorem decode_blank {on : Value} {t : Ty} (h : Ty.isBlank on t = true) (s : Source) :
    decode s t on.encode = .ok on := by
  obtain ⟨c, name, e, a, rfl, rfl, hf⟩ := Ty.isBlank_iff.1 h
  have hkept : keptMembers c [] = [] := by
    simp [keptMembers, extraMembers, Members.merge, Json.mergedMembers]
  have hon : Value.record c [(name, .list [])] [] =
      .record c ((recordOf c).fields.map fun f => (f.name, .list [])) (keptMembers c []) := by
    rw [hkept, hf]; rfl
  rw [hon]
  refine decode_encode_record (fun f hmem => ?_) (by simp [hkept])
  rw [hf, List.mem_singleton] at hmem
  subst hmem
  rw [if_pos (by simp [Field.writes, Value.isVoid]), Value.encode_list]
  exact decode_list_map id (fun _ => .null) fun x hx => absurd hx (List.not_mem_nil)

theorem decode_switch_record {s : Source} {on : Value} {t : Ty} {c : Class} {fs : List (String × Value)}
    {extra : List (String × Json)} : decode s (.switch on t) (Value.record c fs extra).encode =
      decode s t (Value.record c fs extra).encode := by
  rw [Value.encode]
  exact decode_switch_of_ne (by simp) (by simp)

section Forms

variable {source s : Source} {t : Ty} {j : Json} {v : Value}

/-- What an optional type reads is read back by it if the type inside reads it back. -/
theorem Reads.read_back_optional (h : Reads source t j v) (hr : t.regular = true) (hn : j ≠ .null)
    (hread : decode s t v.encode = .ok v) : decode s (.optional t) v.encode = .ok v := by
  by_cases he : v.encode = .null
  · have hnull := Value.encode_eq_null.1 he
    have hv : v.isVoid = true := by
      rcases hnull with rfl | rfl <;> rfl
    obtain ⟨rfl, -⟩ := (h.void hr (fun _ => hnull) hv).resolve_right fun h => hn h.1
    rw [Value.encode, decode]
  · rwa [decode_optional_of_ne he]

/-- What an arm reads is read back by the union if the arm reads it back and may stand behind the arms before it. -/
theorem Reads.read_back_arm {pre post : List Ty} (h : Reads source t j v)
    (hpre : ∀ a ∈ pre, ∀ w, decode source a j ≠ .ok w) (hbefore : ∀ a ∈ pre, a.goesBefore t = true)
    (hread : decode s t v.encode = .ok v) : decode s (.oneOf (pre ++ t :: post)) v.encode = .ok v := by
  refine decode_oneOf_of_agrees hread fun a ha => ?_
  have hgoes := hbefore a ha
  unfold Ty.goesBefore at hgoes
  rcases Bool.or_eq_true_iff.1 hgoes with hagree | hflat
  · exact .inl hagree
  · -- the later arm takes anything, and what it writes is refused as the value was
    split at hflat
    · cases h with
      | any => exact .inr fun w hw => hpre a ha w (decode_flat hflat hw)
      | scalar h => cases h
    · cases hflat

/-- A record is read back if its fields are. -/
theorem read_back_record {c : Class} {g : Field → Value} {ms : List (String × Json)}
    (hread : ∀ f ∈ (recordOf c).fields, ∀ k j, findField? f ms = some (k, j) → Reads source f.ty j (g f))
    (habsent : ∀ f ∈ (recordOf c).fields, findField? f ms = none → f.absent = some (g f))
    (hform : (Value.record c ((recordOf c).fields.map fun f => (f.name, g f)) (keptMembers c ms)).Formed)
    (hextra : ∀ m ∈ keptMembers c ms, m.2 ≠ .null)
    (hback : ∀ f ∈ (recordOf c).fields, ∀ k j, findField? f ms = some (k, j) →
      decode s f.ty (g f).encode = .ok (g f)) :
    decode s (.record c) (Value.record c ((recordOf c).fields.map fun f => (f.name, g f)) (keptMembers c ms)).encode =
      .ok (.record c ((recordOf c).fields.map fun f => (f.name, g f)) (keptMembers c ms)) := by
  refine decode_encode_record (fun f hf => ?_) fun m hm => ?_
  · have hreg := field_regular hf
    have hval : (g f).HasForm := hform.field (.here _) _ (List.mem_map_of_mem (f := fun f => (f.name, g f)) hf)
    cases hr : findField? f ms with
    | some p =>
      split
      · exact hback f hf p.1 p.2 hr
      · next hw => exact (hread f hf p.1 p.2 hr).absent_of_not_writes hreg.ty hval hreg.keepsVoid hw
    | none =>
      split
      · exact f.decode_absent hreg.defaultFits (habsent f hf hr)
      · exact habsent f hf hr
  · exact Bool.eq_false_iff.2 fun hv => hextra m hm (hform.extra (.here _) m hm hv)

variable {b : Bool} {p r : Class} {ms : List (String × Json)}

/-- Registration options are read back in the place of a provider: they write a registration key. -/
theorem Reads.read_back_registered (h : Reads source (.record r) (.obj ms) v) (htold : providerTold b p r = true)
    (hform : v.Formed) (hc : Recoverable (.provider b p r) v) (hread : decode s (.record r) v.encode = .ok v) :
    decode s (.provider b p r) v.encode = .ok v := by
  cases h with
  | scalar h => cases h
  | record g hfields habsent =>
    rw [encode_record] at hread ⊢
    have hvals : ∀ f ∈ (recordOf r).fields, (g f).HasForm := fun f hf =>
      hform.field (.here _) _ (List.mem_map_of_mem (f := fun f => (f.name, g f)) hf)
    refine decode_registered (isRegistration_registered htold hfields habsent hvals fun hnote => ?_) hread
    cases hnote
    exact hc.id (.here _ _)

/-- Plain options are read back in the place of a provider: they write no registration key. -/
theorem Reads.read_back_plain (h : Reads source (.record p) (.obj ms) v) (htold : providerTold b p r = true)
    (hread : decode s (.record p) v.encode = .ok v) : decode s (.provider b p r) v.encode = .ok v := by
  cases h with
  | scalar h => cases h
  | record g _ _ =>
    rw [encode_record] at hread ⊢
    rw [providerTold, Bool.and_eq_true] at htold
    exact decode_plain (not_isRegistration_written htold.1) hread

end Forms

/-- **What was written is read back.** -/
theorem Reads.read_back_of_formed {source : Source} {t : Ty} {j : Json} {v : Value} (h : Reads source t j v) :
    t.regular = true → t.invertible = true → v.Formed → Recoverable t v → ∀ s, decode s t v.encode = .ok v := by
  induction h with
  | any j => intro _ _ _ _ s; rw [Value.encode, decode, Json.merged_merged]
  | scalar h => exact fun _ _ _ _ => h.read_back
  | @list t items g _ ih =>
    intro hr hi hform hc s
    replace hr := Ty.regular_inner hr List.mem_cons_self
    replace hi := Ty.invertible_inner hi List.mem_cons_self
    rw [Value.encode_list, List.map_map]
    exact decode_list_map _ g fun x hx =>
      ih x hx hr hi (hform.part (.item (List.mem_map_of_mem hx))) (hc.part (.item (List.mem_map_of_mem hx))) s
  | @pair a b x y v w _ _ iha ihb =>
    intro hr hi hform hc s
    replace hr := Ty.regular_pair hr
    have hia : a.invertible = true := Ty.invertible_inner hi List.mem_cons_self
    have hib : b.invertible = true := Ty.invertible_inner hi (List.mem_cons_of_mem _ List.mem_cons_self)
    rw [Value.encode]
    exact decode_pair (iha hr.1 hia (hform.part .first) (hc.part .first) s)
      (ihb hr.2 hib (hform.part .second) (hc.part .second) s)
  | @map keys t ms g hk _ ih =>
    intro hr hi hform hc s
    replace hr := Ty.regular_inner hr List.mem_cons_self
    replace hi := Ty.invertible_inner hi List.mem_cons_self
    have hmem : ∀ e ∈ Members.merge (ms.map fun m => (m.1, g m.2)), ∃ m ∈ ms, (m.1, g m.2) = e :=
      fun e he => List.mem_map.1 (Members.mem_of_mem_merge he)
    rw [Value.encode_map, decode_map_map Value.encode id (fun e he => ?_) fun e he => ?_]
    · simp
    · obtain ⟨m, hm, rfl⟩ := hmem e he
      exact hk m hm
    · obtain ⟨m, hm, rfl⟩ := hmem e he
      exact ih m hm hr hi (hform.part (.entry he)) (hc.part (.entry he)) s
  | @record c ms g hread habsent ih =>
    intro _ _ hform hc s
    refine read_back_record hread habsent hform (hc.extra (.here _ _)) fun f hf k j hr => ?_
    have hmem : (f.name, g f) ∈ (recordOf c).fields.map fun f => (f.name, g f) := List.mem_map_of_mem hf
    exact ih f hf k j hr (field_regular hf).ty (field_invertible hf) (hform.part (.field hmem))
      (hc.part (.field hf hmem)) s
  | optionalNull t => intro _ _ _ _ s; rw [Value.encode, decode]
  | optional hn ht ih =>
    intro hr hi hform hc s
    replace hr := Ty.regular_inner hr List.mem_cons_self
    exact ht.read_back_optional hr hn (ih hr (Ty.invertible_inner hi List.mem_cons_self) hform (hc.part .optional) s)
  | @oneOf pre post t j v hpre ht ih =>
    intro hr hi hform hc s
    have hmem : t ∈ pre ++ t :: post := by simp
    have hbefore : ∀ a ∈ pre, a.goesBefore t = true := fun a ha =>
      (List.pairwise_append.1 (Ty.goesBefore_of_invertible hi)).2.2 a ha t List.mem_cons_self
    exact ht.read_back_arm hpre hbefore
      (ih (Ty.regular_inner hr hmem) (Ty.invertible_inner hi hmem) hform (hc.part (.oneOf hmem)) s)
  | @tagged key tag arms t ms v _ hm ht ih =>
    intro hr hi hform hc s
    have hmem := mem_of_lookup hm
    have hinv : t.invertible = true := Ty.invertible_inner hi (List.mem_map_of_mem hmem)
    obtain ⟨out, he, hout⟩ := ht.writes_tag (Ty.writesTag_of_invertible hi hmem)
    have hread := ih ((Ty.regular_tagged hr).2 _ hmem).2 hinv hform (hc.part (.tagged hmem)) s
    rw [he] at hread ⊢
    exact decode_tagged_eq_ok.2 ⟨out, tag, t, rfl, hout, hm, hread⟩
  | registered _ ht ih =>
    exact fun _ hi hform hc s =>
      ht.read_back_registered (Ty.told_of_invertible hi) hform hc (ih rfl rfl hform (hc.part .registered) s)
  | plain _ ht ih =>
    exact fun _ hi hform hc s => ht.read_back_plain (Ty.told_of_invertible hi) (ih rfl rfl hform (hc.part .plain) s)
  | allowed p r b => intro _ _ _ _ s; rw [Value.encode]; exact decode_allowed p r b
  | switchNull on t => intro _ _ _ _ s; rw [Value.encode, decode]
  | switchOff on t => intro _ _ _ _ s; rw [Value.encode, decode]
  | switchOn on t =>
    intro hr _ _ _ s
    replace hr := Ty.regular_switch hr
    have hblank := decode_blank hr.1 s
    obtain ⟨c, name, e, a, rfl, rfl, -⟩ := Ty.isBlank_iff.1 hr.1
    rwa [decode_switch_record]
  | @switch on t j v hn hb ht ih =>
    intro hr hi hform hc s
    replace hr := Ty.regular_switch hr
    obtain ⟨c, name, e, a, -, rfl, -⟩ := Ty.isBlank_iff.1 hr.1
    have hread := ih rfl rfl hform (hc.part .switch) s
    obtain ⟨c', fs, extra, rfl⟩ := ht.isRecord rfl rfl
    rwa [decode_switch_record]

/-- What was written is read back if its numbers are finite. -/
theorem Reads.read_back_of_finite {source : Source} {t : Ty} {j : Json} {v : Value} (h : Reads source t j v)
    (hr : t.regular = true) (hi : t.invertible = true) (hfin : v.Finite) (hc : Recoverable t v) (s : Source) :
    decode s t v.encode = .ok v :=
  h.read_back_of_formed hr hi hfin.formed hc s

/-- What was read from data with finite numbers is read back. -/
theorem Reads.read_back {t : Ty} {j : Json} {v : Value} (h : Reads .data t j v) (hr : t.regular = true)
    (hi : t.invertible = true) (hj : j.Finite) (hc : Recoverable t v) (s : Source) : decode s t v.encode = .ok v :=
  h.read_back_of_finite hr hi (h.finite hr hj) hc s

end LspWire
