import LspWire.Proofs.Unions

/-!
# Providers

A server capability is given as plain options or as registration options, and maybe as a boolean. Neither record is
tried: a registration key decides, among the keys of an object and among the fields of a record (`Json.providerTag`,
`Value.providerTag`). Writing drops a field that is `null` unless its class keeps it, so the two agree only if a record
of registration options always writes a registration key. All do but one: the registration of a notebook provider has
no document selector, and its `id` is dropped where it is `null` (`decodeData_provider_iff`).

No number in the data has to be finite here, for the options of providers hold no data that no type describes but in
maps (`providerClasses`).
-/

namespace LspWire

open Schema

/-! ## Tags -/

/-- The tags of the arms of a provider. -/
inductive ProviderTag where
  | bool
  | options
  | registration
deriving DecidableEq, Repr

/-- The name of a tag. -/
def ProviderTag.name : ProviderTag → String
  | .bool => "bool"
  | .options => "options"
  | .registration => "registration"

/-- The tag of what has a registration key or not. -/
def ProviderTag.ofKey (hasKey : Bool) : ProviderTag := if hasKey then .registration else .options

/-- The tag of data in the place of a provider. -/
def Json.providerTag : Json → ProviderTag
  | .obj ms => .ofKey (isRegistration ms)
  | _ => .bool

/-- The tag of a value in the place of a provider. -/
def Value.providerTag : Value → ProviderTag
  | .record c _ _ => .ofKey (hasRegistrationKey (recordOf c).fields)
  | .map _ es => .ofKey (registrationKeys.any fun k => Members.has k es)
  | .untyped j => j.providerTag
  | _ => .bool

/-- The arm of a provider under a tag. -/
def providerArm? (b : Bool) (p r : Class) : ProviderTag → Option Ty
  | .bool => if b then some .bool else none
  | .options => some (.record p)
  | .registration => some (.record r)

/-- **A provider is read at the arm that the tag names**, and refused if there is none. -/
theorem decode_provider_tag (source : Source) (b : Bool) (p r : Class) (j : Json) : decode source (.provider b p r) j =
    match providerArm? b p r j.providerTag with
    | some a => (decode source a j).within (.arm j.providerTag.name)
    | none => Outcome.fail .notOptions := by
  cases j with
  | obj ms =>
    rw [decode, Json.providerTag]
    cases isRegistration ms with
    | true =>
      rw [if_pos rfl, ← decode_record]
      rfl
    | false =>
      rw [if_neg Bool.false_ne_true, ← decode_record]
      rfl
  | _ =>
    simp only [decode, Json.providerTag, providerArm?, ProviderTag.name]
    cases b with
    | true => simp only [if_true, decode]
    | false => rfl

/-! ## Values with JSON forms -/

namespace Ty

/-- Whether no value of a type is one that no type describes. -/
def described (t : Ty) : Bool := (t.partsThrough passesOn).all fun
  | .any => false
  | _ => true

/-- What a described type passes a value on to is described. -/
theorem described_inner {t u : Ty} (h : t.described = true) (ht : t.passesOn = true) (hu : u ∈ t.inner) :
    u.described = true :=
  (all_partsThrough.1 h).2 ht u hu

end Ty

section Forms

variable {source : Source} {t : Ty} {j : Json} {v : Value}

/-- What is read at a described type is `null` if it has no JSON form. -/
theorem Reads.null_of_void (h : Reads source t j v) : t.regular = true → t.described = true → v.isVoid = true →
    v = .null := by
  induction h with
  | any j => exact fun _ ht _ => by cases ht
  | scalar h =>
    intro _ _ hv
    cases h with
    | null => rfl
    | _ => cases hv
  | list | pair | map | record | allowed => exact fun _ _ hv => by cases hv
  | optionalNull | switchNull | switchOff => exact fun _ _ _ => rfl
  | optional _ _ ih =>
    intro hr ht hv
    replace hr := Ty.regular_inner hr List.mem_cons_self
    exact ih hr (Ty.described_inner ht rfl List.mem_cons_self) hv
  | oneOf _ _ ih =>
    exact fun hr ht hv => ih (Ty.regular_inner hr (by simp)) (Ty.described_inner ht rfl (by simp)) hv
  | tagged _ hm ht =>
    intro hr _ hv
    obtain ⟨hobj, hreg⟩ := (Ty.regular_tagged hr).2 _ (mem_of_lookup hm)
    obtain ⟨c, fs, extra, rfl⟩ := ht.isRecord hreg hobj
    cases hv
  | registered _ ht | plain _ ht =>
    intro _ _ hv
    obtain ⟨c, fs, extra, rfl⟩ := ht.isRecord rfl rfl
    cases hv
  | switchOn on t =>
    intro hr _ hv
    replace hr := Ty.regular_switch hr
    obtain ⟨c, name, e, a, rfl, -⟩ := Ty.isBlank_iff.1 hr.1
    cases hv
  | switch _ _ _ ih =>
    intro hr ht hv
    replace hr := Ty.regular_switch hr
    exact ih hr.2 (Ty.described_inner ht rfl List.mem_cons_self) hv

namespace Value.Formed

theorem leaf (h : v.isLeaf = true) : v.Formed := by
  refine ⟨fun hw => ?_, fun hw => ?_⟩
  · cases hw <;> cases h
  · cases hw <;> cases h

theorem list {vs : List Value} (h : ∀ w ∈ vs, w.Formed) : (Value.list vs).Formed := by
  refine ⟨fun hw => ?_, fun hw => ?_⟩
  · cases hw with
    | item hm hw => exact (h _ hm).field hw
  · cases hw with
    | item hm hw => exact (h _ hm).extra hw

theorem pair {x y : Value} (hx : x.Formed) (hy : y.Formed) : (Value.pair x y).Formed := by
  refine ⟨fun hw => ?_, fun hw => ?_⟩
  · cases hw with
    | first hw => exact hx.field hw
    | second hw => exact hy.field hw
  · cases hw with
    | first hw => exact hx.extra hw
    | second hw => exact hy.extra hw

theorem map {keys : KeyKind} {es : List (String × Value)} (h : ∀ e ∈ es, e.2.Formed) : (Value.map keys es).Formed := by
  refine ⟨fun hw => ?_, fun hw => ?_⟩
  · cases hw with
    | entry hm hw => exact (h _ hm).field hw
  · cases hw with
    | entry hm hw => exact (h _ hm).extra hw

theorem record {c : Class} {fs : List (String × Value)} (h : ∀ m ∈ fs, m.2.HasForm ∧ m.2.Formed) :
    (Value.record c fs []).Formed := by
  refine ⟨fun hw => ?_, fun hw => ?_⟩
  · cases hw with
    | here => exact fun m hm => (h m hm).1
    | field hm hw => exact (h _ hm).2.field hw
  · cases hw with
    | here => exact fun m hm => absurd hm List.not_mem_nil
    | field hm hw => exact (h _ hm).2.extra hw

end Value.Formed

end Forms

namespace Schema

/-- The classes of the providers, and those of their fields. -/
def providerClasses : List Class := [
  .declarationOptions, .declarationRegistrationOptions, .typeDefinitionOptions, .typeDefinitionRegistrationOptions,
  .implementationOptions, .implementationRegistrationOptions, .documentColorOptions, .documentColorRegistrationOptions,
  .foldingRangeOptions, .foldingRangeRegistrationOptions, .selectionRangeOptions, .selectionRangeRegistrationOptions,
  .linkedEditingRangeOptions, .linkedEditingRangeRegistrationOptions, .callHierarchyOptions,
  .callHierarchyRegistrationOptions, .typeHierarchyOptions, .typeHierarchyRegistrationOptions, .monikerOptions,
  .monikerRegistrationOptions, .inlineValueOptions, .inlineValueRegistrationOptions, .inlayHintOptions,
  .inlayHintRegistrationOptions, .semanticTokensOptions, .semanticTokensRegistrationOptions, .semanticTokensLegend,
  .semanticTokensFullOptions, .diagnosticOptions, .diagnosticRegistrationOptions, .notebookDocumentSyncOptions,
  .notebookDocumentSyncRegistrationOptions, .notebookSelector, .notebookCellSelector, .notebookDocumentFilter,
  .documentFilter]

/-- Whether a class is one of them. -/
def ofProviders (c : Class) : Bool := providerClasses.contains c

theorem ofProviders_closed (c : Class) : (!ofProviders c || !(recordOf c).keepsExtra && (recordOf c).fields.all fun f =>
    f.ty.described && f.ty.tame && f.ty.everyClass ofProviders) = true := by
  revert c
  decide +kernel

theorem ofProviders_spec {c : Class} (h : ofProviders c = true) : (recordOf c).keepsExtra = false ∧
    ∀ f ∈ (recordOf c).fields, f.ty.described = true ∧ f.ty.tame = true ∧ f.ty.everyClass ofProviders = true := by
  have hc := ofProviders_closed c
  rw [h] at hc
  simpa [and_assoc] using hc

end Schema

section OfProviders

variable {source : Source} {t : Ty} {j : Json} {v : Value}

/-- What is read as options of a provider has JSON forms. -/
theorem Reads.formed (h : Reads source t j v) : t.regular = true → t.everyClass ofProviders = true → v.Formed := by
  induction h with
  | any j => exact fun _ _ => .leaf rfl
  | scalar h => exact fun _ _ => .leaf h.isLeaf
  | list g _ ih =>
    intro hr hc
    replace hr := Ty.regular_inner hr List.mem_cons_self
    replace hc := Ty.everyClass_inner hc List.mem_cons_self
    exact .list (List.forall_mem_map.2 fun x hx => ih x hx hr hc)
  | pair _ _ iha ihb =>
    intro hr hc
    replace hr := Ty.regular_pair hr
    exact .pair (iha hr.1 (Ty.everyClass_inner hc List.mem_cons_self))
      (ihb hr.2 (Ty.everyClass_inner hc (List.mem_cons_of_mem _ List.mem_cons_self)))
  | map g _ _ ih =>
    intro hr hc
    replace hr := Ty.regular_inner hr List.mem_cons_self
    replace hc := Ty.everyClass_inner hc List.mem_cons_self
    refine .map fun e he => ?_
    obtain ⟨m, hm, rfl⟩ := List.mem_map.1 (Members.mem_of_mem_merge he)
    exact ih m hm hr hc
  | @record c ms g hread habsent ih =>
    intro _ hc
    rw [Ty.everyClass_record] at hc
    obtain ⟨hk, hfields⟩ := ofProviders_spec hc
    rw [keptMembers_of_not_keepsExtra ms hk]
    refine .record (List.forall_mem_map.2 fun f hf => ?_)
    have hreg := field_regular hf
    obtain ⟨hdescribed, -, hclasses⟩ := hfields f hf
    cases hr : findField? f ms with
    | some p =>
      have hvoid := (hread f hf p.1 p.2 hr).null_of_void hreg.ty hdescribed
      exact ⟨fun hv => .inl (hvoid hv), ih f hf p.1 p.2 hr hreg.ty hclasses⟩
    | none =>
      rcases f.absent_cases hreg.defaultFits (habsent f hf hr) with ⟨hg, -⟩ | ⟨hg, -⟩ | ⟨s, hg, -⟩
      · rw [hg]; exact ⟨fun _ => .inl rfl, .leaf rfl⟩
      · rw [hg]; exact ⟨fun _ => .inl rfl, .leaf rfl⟩
      · rw [hg]; exact ⟨(fun hv => by cases hv), .leaf rfl⟩
  | optionalNull | allowed | switchNull | switchOff => exact fun _ _ => .leaf rfl
  | optional _ _ ih =>
    intro hr hc
    replace hr := Ty.regular_inner hr List.mem_cons_self
    exact ih hr (Ty.everyClass_inner hc List.mem_cons_self)
  | oneOf _ _ ih => exact fun hr hc => ih (Ty.regular_inner hr (by simp)) (Ty.everyClass_inner hc (by simp))
  | tagged _ hm _ ih =>
    intro hr hc
    have hmem := mem_of_lookup hm
    exact ih ((Ty.regular_tagged hr).2 _ hmem).2 (Ty.everyClass_inner hc (List.mem_map_of_mem hmem))
  | registered _ _ ih =>
    exact fun _ hc => ih rfl (Ty.everyClass_options hc).2
  | plain _ _ ih =>
    exact fun _ hc => ih rfl (Ty.everyClass_options hc).1
  | switchOn on t =>
    intro hr _
    replace hr := Ty.regular_switch hr
    obtain ⟨c, name, e, a, rfl, -⟩ := Ty.isBlank_iff.1 hr.1
    have hlist : (Value.list []).Formed := .list fun w hw => absurd hw List.not_mem_nil
    exact .record (List.forall_mem_singleton.2 ⟨(fun hv => by cases hv), hlist⟩)
  | switch _ _ _ ih =>
    intro hr hc
    replace hr := Ty.regular_switch hr
    exact ih hr.2 (Ty.everyClass_inner hc List.mem_cons_self)

/-- What is read as options of a provider holds nothing that writing loses. -/
theorem Reads.recoverable_options {c : Class} (hc : ofProviders c = true) (h : Reads source (.record c) j v) :
    Recoverable (.record c) v := by
  obtain ⟨hk, hfields⟩ := ofProviders_spec hc
  refine ⟨fun {c' fs extra} hw m hm => ?_, fun {fs extra} hw => ?_⟩
  · have hkeeps : (recordOf c').keepsExtra = false := by
      cases hw with
      | here => exact hk
      | field hf _ hw =>
        have htame := hw.tame (hfields _ hf).2.1
        rw [Ty.tame, Ty.everyClass_record, Bool.not_eq_true'] at htame
        exact (not_lossy htame).1
    cases hw.whole (h.whole rfl) with
    | leaf hv => cases hv
    | record _ _ hextra =>
      rw [hextra hkeeps] at hm
      exact absurd hm List.not_mem_nil
  · cases hw with
    | field hf _ hw => exact absurd (hw.tame (hfields _ hf).2.1) (by decide)

/-- What is read as options of a provider is read back. -/
theorem Reads.read_back_options {c : Class} (hc : ofProviders c = true) (h : Reads source (.record c) j v) (s : Source) :
    decode s (.record c) v.encode = .ok v :=
  h.read_back_of_formed rfl rfl (h.formed rfl (Ty.everyClass_record.trans hc)) (h.recoverable_options hc) s

end OfProviders

/-! ## The providers of the library -/

namespace Ty

/-- Whether the classes of a provider are told apart by their fields and by what they write, and hold what has JSON
    forms only. -/
def soundProvider : Ty → Bool
  | .provider b p r => providerTold b p r && hasRegistrationKey (recordOf r).fields &&
    !hasRegistrationKey (recordOf p).fields && ofProviders p && ofProviders r
  | _ => true

end Ty

namespace Schema

theorem fields_soundProvider (c : Class) :
    (recordOf c).fields.all (fun f => f.ty.everywhere Ty.soundProvider) = true := by
  revert c
  decide +kernel

theorem soundProvider_checked : Checked Ty.soundProvider where
  other := fun t ht => by
    cases t with
    | provider => cases ht
    | _ => rfl
  field := fun c => List.all_eq_true.1 (fields_soundProvider c)
  named := by decide +kernel
  payload := by decide +kernel

/-- What the laws need of the classes of a provider. -/
structure Told (b : Bool) (p r : Class) : Prop where
  told : providerTold b p r = true
  registered : hasRegistrationKey (recordOf r).fields = true
  plain : hasRegistrationKey (recordOf p).fields = false
  plainClass : ofProviders p = true
  registeredClass : ofProviders r = true

theorem Declared.told {b : Bool} {p r : Class} (h : Declared (.provider b p r)) : Told b p r := by
  have hu : (Ty.provider b p r).soundProvider = true := Ty.everywhere_self (soundProvider_checked.declared h)
  simp only [Ty.soundProvider, Bool.and_eq_true, Bool.not_eq_true'] at hu
  exact ⟨hu.1.1.1.1, hu.1.1.1.2, hu.1.1.2, hu.1.2, hu.2⟩

end Schema

/-! ## Reading back under the same tag -/

/-- A registration of a notebook provider without an `id`. -/
def Value.Unnamed (v : Value) : Prop := ∃ fs extra,
  v = .record .notebookDocumentSyncRegistrationOptions fs extra ∧ ("id", Value.null) ∈ fs

/-- Without an `id` the registration of a notebook provider writes no registration key. -/
theorem not_isRegistration_unnamed {g : Field → Value} {ms : List (String × Json)}
    (hid : ("id", Value.null) ∈ (recordOf .notebookDocumentSyncRegistrationOptions).fields.map fun f => (f.name, g f)) :
    isRegistration (writtenFields .notebookDocumentSyncRegistrationOptions g ++
      writtenExtra (keptMembers .notebookDocumentSyncRegistrationOptions ms)) = false := by
  have hkeys : (recordOf .notebookDocumentSyncRegistrationOptions).fields.all (fun f =>
      !registrationKeys.contains f.wire || f.wire == "id" && !f.keepsNull) = true := by decide +kernel
  have hids : (recordOf .notebookDocumentSyncRegistrationOptions).fields.all (fun f =>
      f.name != "id" || f.wire == "id") = true := by decide +kernel
  obtain ⟨f, hf, he⟩ := List.mem_map.1 hid
  obtain ⟨hname, hnull⟩ := Prod.mk.inj he
  have hwire : f.wire = "id" := by simpa [hname] using List.all_eq_true.1 hids f hf
  rw [keptMembers_of_not_keepsExtra ms rfl, writtenExtra, List.filter_nil, List.append_nil]
  refine Bool.eq_false_iff.2 fun hr => ?_
  obtain ⟨m, hm, hkey⟩ := isRegistration_iff.1 hr
  obtain ⟨f', hf', hw, rfl⟩ := mem_writtenFields.1 hm
  have hf'key := List.all_eq_true.1 hkeys f' hf'
  simp only [List.contains_iff_mem.2 hkey, Bool.not_true, Bool.false_or, Bool.and_eq_true, beq_iff_eq,
    Bool.not_eq_true'] at hf'key
  have hsame : f' = f := field_eq hf hf' (.inl (hf'key.1.trans hwire.symm))
  rw [hsame, hnull] at hw
  rw [hsame] at hf'key
  simp [Field.writes, hf'key.2, Value.isVoid] at hw

section ReadBack

variable {b : Bool} {p r : Class} {j : Json} {v : Value}

/-- What is read at a class of a provider is written by the provider as it writes itself. -/
theorem Reads.encodeAs_provider {c : Class} (h : Reads .data (.record c) j v) (hc : c = p ∨ c = r) :
    v.encodeAs (.provider b p r) = v.encode := by
  have hfits := h.fitted rfl .exact
  have hwhole := h.whole rfl
  obtain ⟨c', fs, extra, rfl⟩ := h.isRecord rfl rfl
  have harm := hc.imp (fun e => e ▸ hfits) fun e => e ▸ hfits
  rw [Value.encodeAs, Value.viewedAs, Value.fitted_provider_self hwhole harm, Option.getD_some]

/-- A value that its arm reads back is read back by the provider if it is written under the tag of the arm. -/
theorem decode_provider_of_tag {tag : ProviderTag} {a : Ty} (ha : providerArm? b p r tag = some a)
    (htag : v.encode.providerTag = tag) (h : decode .data a v.encode = .ok v) :
    decode .data (.provider b p r) v.encode = .ok v := by
  rw [decode_provider_tag, htag, ha]
  exact Outcome.within_eq_ok.2 h

theorem Reads.options_tag (hu : Told b p r) (h : Reads .data (.record p) j v) :
    v.providerTag = .options ∧ v.encode.providerTag = .options := by
  cases h with
  | scalar h => cases h
  | record g _ _ =>
    have htold := hu.told
    rw [providerTold, Bool.and_eq_true] at htold
    rw [Value.providerTag, hu.plain, encode_record, Json.providerTag, not_isRegistration_written htold.1]
    exact ⟨rfl, rfl⟩

/-- Registration options are written under their tag, unless they are those of a notebook provider without an `id`. -/
theorem Reads.registration_tag (hu : Told b p r) (h : Reads .data (.record r) j v) :
    v.providerTag = .registration ∧ (v.encode.providerTag = .registration ↔ ¬ v.Unnamed) := by
  have hformed := h.formed rfl (Ty.everyClass_record.trans hu.registeredClass)
  cases h with
  | scalar h => cases h
  | @record _ ms g hread habsent =>
    rw [Value.providerTag, hu.registered, encode_record, Json.providerTag]
    refine ⟨rfl, fun htag hun => ?_, fun hnamed => ?_⟩
    · obtain ⟨fs, extra, he, hid⟩ := hun
      cases he
      rw [not_isRegistration_unnamed hid] at htag
      cases htag
    · have hvals : ∀ f ∈ (recordOf r).fields, (g f).HasForm := fun f hf =>
        hformed.field (.here _) _ (List.mem_map_of_mem (f := fun f => (f.name, g f)) hf)
      -- every other registration keeps a `null` selector, which is a registration key
      have hid : Ty.provider b p r = notebookDocumentSyncServerCapabilities →
          ("id", Value.null) ∉ (recordOf r).fields.map fun f => (f.name, g f) := by
        intro he hmem
        cases he
        exact hnamed ⟨_, _, rfl, hmem⟩
      rw [isRegistration_registered hu.told hread habsent hvals hid]
      rfl

end ReadBack

/-- **The tag agrees on a value and on what it writes**, and the value is read back, unless it is the registration of a
    notebook provider without an `id`. -/
theorem decodeData_provider_iff {b : Bool} {p r : Class} (hu : Declared (.provider b p r)) {tag : ProviderTag} {a : Ty}
    (ha : providerArm? b p r tag = some a) {d : Json} {v : Value} (h : decodeData a d = .ok v) :
    v.providerTag = tag ∧
      ((v.encodeAs (.provider b p r)).providerTag = v.providerTag ∧
          decodeData (.provider b p r) (v.encodeAs (.provider b p r)) = .ok v ↔ ¬ v.Unnamed) := by
  have htold := hu.told
  rw [Outcome.decodeData_eq_ok] at h
  rw [Outcome.decodeData_eq_ok]
  cases tag with
  | bool =>
    cases b with
    | false => cases ha
    | true =>
      cases ha
      obtain ⟨x, rfl⟩ : ∃ x, v = .bool x := by
        cases reads_of_decode _ _ h with
        | scalar h => cases h; exact ⟨_, rfl⟩
      have hencode : (Value.bool x).encodeAs (.provider true p r) = .bool x := by
        rw [Value.encodeAs, Value.viewedAs, Value.fitted]
        rfl
      rw [hencode]
      refine ⟨rfl, iff_of_true ⟨rfl, decode_allowed p r x⟩ ?_⟩
      rintro ⟨fs, extra, he, -⟩
      cases he
  | options =>
    cases ha
    have hread := reads_of_decode _ _ h
    obtain ⟨hv, hj⟩ := hread.options_tag htold
    have hback := decode_provider_of_tag (b := b) (p := p) (r := r) rfl hj
      (hread.read_back_options htold.plainClass .data)
    rw [hread.encodeAs_provider (.inl rfl)]
    refine ⟨hv, iff_of_true ⟨hj.trans hv.symm, hback⟩ ?_⟩
    rintro ⟨fs, extra, rfl, -⟩
    cases hv
  | registration =>
    cases ha
    have hread := reads_of_decode _ _ h
    obtain ⟨hv, hj⟩ := hread.registration_tag htold
    rw [hread.encodeAs_provider (.inr rfl)]
    refine ⟨hv, fun hboth => hj.1 (hboth.1.trans hv), fun hnamed => ?_⟩
    have htag := hj.2 hnamed
    have hback := hread.read_back_options htold.registeredClass .data
    exact ⟨htag.trans hv.symm, decode_provider_of_tag rfl htag hback⟩

/-- Registration options with nothing but a `null` selector stay registration options. -/
theorem folding_range_registration_read_back : ∃ v,
    decodeData (.record .foldingRangeRegistrationOptions) (.obj [("documentSelector", .null)]) = .ok v ∧
    v.providerTag = .registration ∧ (v.encodeAs foldingRangeProviderCapability).providerTag = .registration ∧
    decodeData foldingRangeProviderCapability (v.encodeAs foldingRangeProviderCapability) = .ok v := by
  have hfields : (recordOf .foldingRangeRegistrationOptions).fields =
      [Schema.optional "id" .str, Schema.optional "workDoneProgress" .bool,
        nullable (Schema.optional "documentSelector" documentSelector)] := rfl
  have hread : decodeData (.record .foldingRangeRegistrationOptions) (.obj [("documentSelector", .null)]) =
      .ok (.record .foldingRangeRegistrationOptions
        [("id", .null), ("workDoneProgress", .null), ("documentSelector", .null)] []) := by
    have hkeeps : (recordOf .foldingRangeRegistrationOptions).keepsExtra = false := rfl
    rw [Outcome.decodeData_eq_ok]
    simp [decode, decodeRecord, decodeFields, hfields, hkeeps, Schema.optional, nullable, findField?, Members.find?,
      decodeAbsent, Outcome.both, Outcome.map, Outcome.within]
  have hnamed : ("FoldingRangeProviderCapability", foldingRangeProviderCapability) ∈ namedTypes := by simp [namedTypes]
  have hdeclared : Declared foldingRangeProviderCapability := .named (.named hnamed) (.self _)
  have harm : providerArm? true .foldingRangeOptions .foldingRangeRegistrationOptions .registration =
      some (.record .foldingRangeRegistrationOptions) := rfl
  obtain ⟨htag, hiff⟩ := decodeData_provider_iff hdeclared harm hread
  have hboth := hiff.2 (by rintro ⟨fs, extra, he, -⟩; cases he)
  exact ⟨_, hread, htag, hboth.1.trans htag, hboth.2⟩

/-- The registration of a notebook provider whose `id` is `null` is read back as plain options. -/
theorem notebook_registration_without_id :
    let d : Json := .obj [("notebookSelector", .arr []), ("id", .null)]
    let v : Value := .record .notebookDocumentSyncRegistrationOptions
      [("id", .null), ("notebookSelector", .list []), ("save", .null)] []
    let w : Value := .record .notebookDocumentSyncOptions [("notebookSelector", .list []), ("save", .null)] []
    decodeData notebookDocumentSyncServerCapabilities d = .ok v ∧
    decodeData (.record .notebookDocumentSyncRegistrationOptions) d = .ok v ∧
    v.encodeAs notebookDocumentSyncServerCapabilities = .obj [("notebookSelector", .arr [])] ∧
    v.providerTag = .registration ∧
    (v.encodeAs notebookDocumentSyncServerCapabilities).providerTag = .options ∧
    decodeData notebookDocumentSyncServerCapabilities (v.encodeAs notebookDocumentSyncServerCapabilities) = .ok w ∧
    w ≠ v := by
  intro d v w
  have hfields : (recordOf .notebookDocumentSyncRegistrationOptions).fields = [Schema.optional "id" .str,
      required "notebookSelector" (.list (.record .notebookSelector)), Schema.optional "save" .bool] := rfl
  have hf : recordOf .notebookDocumentSyncOptions = notebookDocumentSyncOptions := rfl
  have hkeeps : (recordOf .notebookDocumentSyncRegistrationOptions).keepsExtra = false := rfl
  have hread : decode .data (.record .notebookDocumentSyncRegistrationOptions) d = .ok v := by
    simp [d, v, decode, decodeRecord, decodeFields, decodeItems, hfields, hkeeps, Schema.optional, required, findField?,
      Members.find?, decodeAbsent, Outcome.both, Outcome.map, Outcome.within]
  have hprovider : decode .data notebookDocumentSyncServerCapabilities d = .ok v := by
    rw [notebookDocumentSyncServerCapabilities, decode_provider_tag]
    exact Outcome.within_eq_ok.2 hread
  have hencode : v.encodeAs notebookDocumentSyncServerCapabilities = .obj [("notebookSelector", .arr [])] := by
    rw [encodeAs_eq_encode rfl hprovider]
    rfl
  have hplain : decode .data (.record .notebookDocumentSyncOptions) (.obj [("notebookSelector", .arr [])]) = .ok w := by
    simp [w, decode, decodeRecord, decodeFields, decodeItems, hf, notebookDocumentSyncOptions, record, Schema.optional,
      required, findField?, Members.find?, decodeAbsent, Outcome.both, Outcome.map, Outcome.within]
  have hback : decode .data notebookDocumentSyncServerCapabilities (.obj [("notebookSelector", .arr [])]) = .ok w := by
    rw [notebookDocumentSyncServerCapabilities, decode_provider_tag]
    exact Outcome.within_eq_ok.2 hplain
  rw [hencode]
  exact ⟨Outcome.decodeData_eq_ok.2 hprovider, Outcome.decodeData_eq_ok.2 hread, rfl, rfl, rfl,
    Outcome.decodeData_eq_ok.2 hback, by simp [v, w]⟩

end LspWire
