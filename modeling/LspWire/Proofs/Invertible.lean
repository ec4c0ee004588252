import LspWire.Proofs.Separation

/-!
# Types that can be read back

What the types of the library need so that a value is read back as itself: the arms of an untagged union agree with the
later ones (`Ty.goesBefore`), a record under a tag writes its tag (`Ty.writesTag`), and the two classes of a provider
differ in whether they write a registration key (`providerTold`). All of it is one check on types (`Ty.invertible`) that
every field and every named type passes, but for the response of a workspace symbol request.

An arm that no type describes takes any value that the arms before it refuse. What it writes is the value with repeated
keys merged, so the arms before it have to refuse that as well; that is so for records of scalars (`Ty.flat`).
-/

namespace LspWire

open Schema

/-! ## Records of scalars -/

namespace Ty

/-- Whether the values of a type have no parts and are no binary64 numbers. -/
def discrete : Ty → Bool
  | .float => false
  | t => t.isScalar

/-- Whether a type is discrete, or optional and discrete. -/
def plain : Ty → Bool
  | .optional t => t.discrete
  | t => t.discrete

/-- Whether a type is a tagged union of records with plain fields. -/
def flat : Ty → Bool
  | .tagged _ arms => arms.all fun p =>
    match p.2 with
    | .record c => !(recordOf c).keepsExtra && (recordOf c).fields.all fun f => f.ty.plain
    | _ => false
  | _ => false

end Ty

section Flat

variable {source s : Source} {j : Json} {v : Value}

/-- A discrete type reads scalars only, which merging leaves as they are. -/
theorem decode_discrete {t : Ty} (ht : t.discrete = true) (h : decode s t j.merged = .ok v) :
    decode source t j = .ok v := by
  unfold Ty.discrete at ht
  split at ht
  · cases ht
  · next hf =>
    have h := readsScalar_of_decode ht h
    cases j with
    | arr | obj => cases h
    | _ =>
      cases h
      all_goals first | exact absurd rfl hf | exact ReadsScalar.decode_eq (by constructor <;> assumption)

theorem decode_plain_merged {t : Ty} (ht : t.plain = true) (h : decode s t j.merged = .ok v) :
    decode source t j = .ok v := by
  unfold Ty.plain at ht
  split at ht
  · by_cases hj : j = .null
    · subst hj
      rw [show Json.null.merged = .null from rfl, decode] at h
      rw [decode, h]
    · rw [decode_optional_of_ne (mt Json.merged_eq_null.1 hj)] at h
      rw [decode_optional_of_ne hj]
      exact decode_discrete ht h
  · exact decode_discrete ht h

/-- A field finds the merged form of what it finds in the object. -/
theorem findField?_merged (f : Field) (ms : List (String × Json)) :
    findField? f (Members.merge (Json.mergedMembers ms)) = (findField? f ms).map fun p => (p.1, p.2.merged) := by
  simp only [findField?, Members.find?_merge, Json.find?_mergedMembers]
  cases Members.find? f.wire ms with
  | some j => rfl
  | none => cases Members.find? f.name ms <;> rfl

/-- A record with plain fields is read from an object as from the merged one: every field finds the merged form of its
    value, and reads the same there. -/
theorem decode_flat_record {c : Class} {ms : List (String × Json)} (hk : (recordOf c).keepsExtra = false)
    (hf : ∀ f ∈ (recordOf c).fields, f.ty.plain = true)
    (h : decode s (.record c) (Json.obj ms).merged = .ok v) : decode source (.record c) (.obj ms) = .ok v := by
  rw [decode_record, Json.merged] at h
  obtain ⟨ms', ⟨⟩, hok, rfl⟩ := decodeRecord_eq_ok h
  rw [decode_record, keptMembers_of_not_keepsExtra _ hk, ← keptMembers_of_not_keepsExtra ms hk]
  refine decodeRecord_map _ fun f hfm => ?_
  have hf' := hok f hfm
  generalize (decodeField s f (Members.merge (Json.mergedMembers ms))).got = w at hf' ⊢
  rw [decodeField, findField?_merged] at hf'
  rw [decodeField]
  cases hr : findField? f ms with
  | none => rw [hr] at hf'; exact hf'
  | some p => rw [hr] at hf'; exact decode_plain_merged (hf f hfm) hf'

/-- A flat type reads what it reads of the merged value. -/
theorem decode_flat {t : Ty} (ht : t.flat = true) (h : decode s t j.merged = .ok v) : decode source t j = .ok v := by
  unfold Ty.flat at ht
  split at ht
  · next key arms =>
    obtain ⟨ms', tag, t, hms, htag, hm, hv⟩ := decode_tagged_eq_ok.1 h
    cases j with
    | obj ms =>
      cases hms
      rw [Members.find?_merge, Json.find?_mergedMembers, Option.map_eq_some_iff] at htag
      obtain ⟨j, hj, hjtag⟩ := htag
      rw [Json.merged_eq_str] at hjtag
      subst hjtag
      refine decode_tagged_eq_ok.2 ⟨ms, tag, t, rfl, hj, hm, ?_⟩
      have ht := List.all_eq_true.1 ht _ (mem_of_lookup hm)
      split at ht
      · next c hc =>
        simp only [Bool.and_eq_true, Bool.not_eq_true', List.all_eq_true] at ht
        cases hc
        exact decode_flat_record ht.1 ht.2 hv
      · cases ht
    | _ => cases hms
  · cases ht

end Flat

/-! ## Checks -/

namespace Ty

/-- Whether a type may stand before another in a union. -/
def goesBefore (a b : Ty) : Bool :=
  a.agrees b ||
    match b with
    | .any => a.flat
    | _ => false

/-- Whether one level of a type writes a tag: a record by one of its fields, a tagged union by its arms. -/
def writesTagLevel (key tag : String) : Ty → Bool
  | .record c => (recordOf c).fields.any fun f => f.wire == key &&
    match f.ty with
    | .literal text => text == tag
    | _ => false
  | .tagged .. => true
  | _ => false

/-- Whether what is read at a type writes a tag. -/
def writesTag (key tag : String) (t : Ty) : Bool :=
  (t.partsThrough fun
    | .tagged .. => true
    | _ => false).all (writesTagLevel key tag)

theorem writesTag_record {key tag : String} {c : Class} :
    (record c).writesTag key tag = writesTagLevel key tag (.record c) := Bool.and_true _

/-- The arms of a tagged union that writes a tag write it. -/
theorem writesTag_tagged {key tag key' name : String} {arms : List (String × Ty)} {t : Ty}
    (h : (tagged key' arms).writesTag key tag = true) (ht : (name, t) ∈ arms) : t.writesTag key tag = true :=
  (all_partsThrough.1 h).2 rfl t (List.mem_map_of_mem ht)

end Ty

namespace Schema

/-- Whether records of a class always write a registration key. -/
def registers (c : Class) : Bool :=
  (recordOf c).fields.any fun f => registrationKeys.contains f.wire && f.keepsNull

/-- Whether the classes of a provider are told apart by a registration key; one provider has a class that writes it only
    if there is one. -/
def providerTold (boolean : Bool) (plain registered : Class) : Bool :=
  (registrationKeys.all fun k => neverWrites k plain) &&
    (registers registered || !boolean && plain == .notebookDocumentSyncOptions &&
      registered == .notebookDocumentSyncRegistrationOptions)

end Schema

namespace Ty

/-- Whether one level of a type tells what is read at it: an arm of an untagged union may stand before the later ones,
    the arms of a tagged one write their tags, and the classes of a provider are told apart. -/
def invertibleLevel : Ty → Bool
  | .oneOf arms => decide (arms.Pairwise fun a b => a.goesBefore b = true)
  | .tagged key arms => arms.all fun a => a.2.writesTag key a.1
  | .provider b p r => providerTold b p r
  | _ => true

/-- Whether what is read at a type is read back. -/
def invertible (t : Ty) : Bool := t.everywhere invertibleLevel

/-- What an invertible type is built from is invertible. -/
theorem invertible_inner {t u : Ty} (h : t.invertible = true) (hu : u ∈ t.inner) : u.invertible = true :=
  everywhere_inner h hu

theorem goesBefore_of_invertible {arms : List Ty} (h : (oneOf arms).invertible = true) :
    arms.Pairwise fun a b => a.goesBefore b = true :=
  decide_eq_true_iff.1 (everywhere_self h)

theorem writesTag_of_invertible {key : String} {arms : List (String × Ty)} (h : (tagged key arms).invertible = true)
    {a : String × Ty} (ha : a ∈ arms) : a.2.writesTag key a.1 = true :=
  List.all_eq_true.1 (everywhere_self h) a ha

theorem told_of_invertible {b : Bool} {p r : Class} (h : (provider b p r).invertible = true) :
    providerTold b p r = true :=
  everywhere_self h

/-- The type that a list, an optional type or a map is built from. -/
def core : Ty → Ty
  | .list t | .optional t | .map .text t => core t
  | t => t

/-- Whether a type is the response of a workspace symbol request. -/
def isSymbolResponse : Ty → Bool
  | .oneOf [.list (.record a), .list (.record b)] => a == .symbolInformation && b == .workspaceSymbol
  | _ => false

/-- The check recognises the response of a workspace symbol request and nothing else. -/
theorem isSymbolResponse_iff {t : Ty} : t.isSymbolResponse = true ↔ t = workspaceSymbolResponse := by
  constructor
  · intro h
    unfold isSymbolResponse at h
    split at h
    · simp only [Bool.and_eq_true, beq_iff_eq] at h
      obtain ⟨rfl, rfl⟩ := h
      rfl
    · cases h
  · rintro rfl; rfl

end Ty

namespace Schema

/-- Every field of every class is read back. This and the two checks below run over the declarations once. -/
theorem fields_invertible (c : Class) : (recordOf c).fields.all (fun f => f.ty.invertible) = true := by
  revert c
  decide +kernel

theorem field_invertible {c : Class} {f : Field} (hf : f ∈ (recordOf c).fields) : f.ty.invertible = true :=
  List.all_eq_true.1 (fields_invertible c) f hf

theorem named_invertible :
    namedTypes.all (fun m => m.2.core.isSymbolResponse || m.2.invertible) = true := by decide +kernel

theorem payloads_invertible :
    methods.all (fun m => m.types.all fun t => t.core.isSymbolResponse || t.invertible) = true := by decide +kernel

/-- A type of the library can be read back unless it is built from the response of a workspace symbol request. -/
theorem InLibrary.invertible {t : Ty} (h : InLibrary t) : t.core ≠ workspaceSymbolResponse → t.invertible = true := by
  have base : ∀ {t : Ty}, (t.core.isSymbolResponse || t.invertible) = true → t.core ≠ workspaceSymbolResponse →
      t.invertible = true := fun h hne =>
    (Bool.or_eq_true_iff.1 h).resolve_left fun h => hne (Ty.isSymbolResponse_iff.1 h)
  induction h with
  | record | intEnum | openEnum | closedEnum => exact fun _ => rfl
  | named h => exact base (List.all_eq_true.1 named_invertible _ h)
  | payload hm ht => exact base (List.all_eq_true.1 (List.all_eq_true.1 payloads_invertible _ hm) _ ht)
  | list _ ih | optional _ ih | map _ ih =>
    exact fun hne => Ty.everywhere_iff.2 ⟨rfl, List.forall_mem_singleton.2 (ih hne)⟩

end Schema

end LspWire
