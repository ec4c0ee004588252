import LspWire.Method.Registry
import LspWire.Proofs.Parts
import LspWire.Proofs.Reading

/-!
# The types of the library

`InLibrary` are the types that the library names and the lists, optional types and maps that are built from them, and
`Declared` are the parts of these and of the types of fields. What the laws need of the declarations themselves is a
check that is run once over every class and every named type: tags of a union differ (`Ty.regular`), a default is a
value of its field (`Field.regular`), and no two fields of a record share a key (`fields_apart`). A condition on the
levels of a type that has been checked holds of all declared types (`Checked`).
-/

namespace LspWire

open Schema

/-- The types of the payloads of a method. -/
def Method.types (m : Method) : List Ty := m.params :: m.result.toList ++ m.options.toList

namespace Schema

/-- Every method of the three registries. -/
def methods : List Method := Method.requests ++ Method.draftRequests ++ Method.notifications

/-- The types that the library names, and what is built from them. -/
inductive InLibrary : Ty → Prop
  | record (c : Class) : InLibrary (.record c)
  | intEnum (e : IntEnum) : InLibrary (.intEnum e)
  | openEnum (e : OpenEnum) : InLibrary (.openEnum e)
  | closedEnum (e : ClosedEnum) : InLibrary (.closedEnum e)
  | named {name : String} {t : Ty} : (name, t) ∈ namedTypes → InLibrary t
  | payload {m : Method} {t : Ty} : m ∈ methods → t ∈ m.types → InLibrary t
  | list {t : Ty} : InLibrary t → InLibrary (.list t)
  | optional {t : Ty} : InLibrary t → InLibrary (.optional t)
  | map {t : Ty} : InLibrary t → InLibrary (.map .text t)

/-- A type that is part of one that the library names, or of the type of a field. -/
inductive Declared : Ty → Prop
  | named {t u : Ty} : InLibrary t → t.Part u → Declared u
  | field {c : Class} {f : Field} {u : Ty} : f ∈ (recordOf c).fields → f.ty.Part u → Declared u

end Schema

/-! ## Checks -/

namespace Ty

/-- Whether the value that `true` stands for is a record of the type with one field, an empty list. -/
def isBlank : Value → Ty → Bool
  | .record c [(name, .list [])] [], .record d =>
    c == d &&
    match (recordOf d).fields with
    | [⟨name', wire, .list _, _, false⟩] => name == name' && name == wire
    | _ => false
  | _, _ => false

/-- Whether a type is that of a record, or of records told apart by a tag. -/
def isObject : Ty → Bool
  | .record _ | .tagged .. => true
  | _ => false

/-- Whether a type tells between values of different types. -/
def isUnion : Ty → Bool
  | .oneOf _ | .tagged .. | .provider .. | .switch .. => true
  | _ => false

/-- Whether the arms of a tagged union are records under different tags, and what `true` stands for is a value of the
    type. -/
def regularLevel : Ty → Bool
  | .tagged _ arms => decide (arms.map (·.1)).Nodup && arms.all fun a => a.2.isObject
  | .switch on t => isBlank on t
  | _ => true

/-- Whether this is so at every level of a type. -/
def regular (t : Ty) : Bool := t.everywhere regularLevel

/-- Whether `null` is read at a type as the absence of a value. -/
def readsNull (t : Ty) : Bool := (t.partsThrough passesOn).any fun
  | .null | .optional _ | .switch .. => true
  | _ => false

/-- Whether `false` is read at a type as the absence of a value. -/
def readsFlag (t : Ty) : Bool := (t.partsThrough passesOn).any fun
  | .switch .. => true
  | _ => false

/-- Whether `null` is read at a type as a value that no type describes; an optional type reads it as an absent value
    before. -/
def readsRaw (t : Ty) : Bool :=
  (t.partsThrough fun
    | .oneOf _ => true
    | _ => false).any fun
  | .any => true
  | _ => false

/-- What a regular type is built from is regular. -/
theorem regular_inner {t u : Ty} (h : t.regular = true) (hu : u ∈ t.inner) : u.regular = true := everywhere_inner h hu

theorem regular_pair {a b : Ty} (h : (pair a b).regular = true) : a.regular = true ∧ b.regular = true :=
  ⟨regular_inner h List.mem_cons_self, regular_inner h (List.mem_cons_of_mem _ List.mem_cons_self)⟩

/-- What `true` stands for at a regular switch is a value of its type, which is regular. -/
theorem regular_switch {on : Value} {t : Ty} (h : (switch on t).regular = true) :
    isBlank on t = true ∧ t.regular = true := by
  have hlevel : regularLevel (.switch on t) = true := everywhere_self h
  exact ⟨hlevel, regular_inner h List.mem_cons_self⟩

/-- The arms of a regular tagged union are told apart, and each of them is a regular type of objects. -/
theorem regular_tagged {key : String} {arms : List (String × Ty)} (h : (tagged key arms).regular = true) :
    (arms.map (·.1)).Nodup ∧ ∀ a ∈ arms, a.2.isObject = true ∧ a.2.regular = true := by
  have hlevel : regularLevel (.tagged key arms) = true := everywhere_self h
  rw [regularLevel, Bool.and_eq_true, decide_eq_true_iff, List.all_eq_true] at hlevel
  exact ⟨hlevel.1, fun a ha => ⟨hlevel.2 a ha, regular_inner h (List.mem_map_of_mem ha)⟩⟩

theorem isBlank_iff {on : Value} {t : Ty} : isBlank on t = true ↔ ∃ c name e a,
    on = .record c [(name, .list [])] [] ∧ t = .record c ∧
      (recordOf c).fields = [⟨name, name, .list e, a, false⟩] := by
  constructor
  · intro h
    unfold isBlank at h
    split at h
    · next c name d =>
      rw [Bool.and_eq_true, beq_iff_eq] at h
      obtain ⟨rfl, h⟩ := h
      split at h
      · next name' wire e a hf =>
        simp only [Bool.and_eq_true, beq_iff_eq] at h
        obtain ⟨rfl, rfl⟩ := h
        exact ⟨_, _, e, a, rfl, rfl, hf⟩
      · cases h
    · cases h
  · rintro ⟨c, name, e, a, rfl, rfl, hf⟩
    simp [isBlank, hf]

end Ty

namespace Field

/-- Whether the value of an absent field is one of its type: `null`, or its tag. -/
def defaultFits (f : Field) : Bool :=
  match f.absent, f.ty with
  | none, _ => true
  | some .null, .optional _ => true
  | some .null, .switch .. => true
  | some (.str s), .literal text => s == text
  | _, _ => false

/-- Whether a field that is `null` is written, or else is `null` again when it is absent. -/
def keepsVoid (f : Field) : Bool :=
  f.keepsNull ||
    match f.absent with
    | some .null => !f.ty.readsRaw
    | _ => !f.ty.readsRaw && !f.ty.readsNull

/-- An absent field that is allowed is `null`, at an optional type or a switch, or it is its tag. -/
theorem absent_cases {f : Field} {v : Value} (hf : f.defaultFits = true) (h : f.absent = some v) :
    v = .null ∧ (∃ t, f.ty = .optional t) ∨ v = .null ∧ (∃ on t, f.ty = .switch on t) ∨
      ∃ s, v = .str s ∧ f.ty = .literal s := by
  unfold defaultFits at hf
  split at hf <;> simp_all

/-- Whether a field that reads `false` as the absence of a value is a switch. -/
def flagIsSwitch (f : Field) : Bool :=
  match f.ty with
  | .switch .. => true
  | t => !t.readsFlag

/-- Whether the key of a field is its name, or `from` for `from_`. -/
def spelled (f : Field) : Bool := (f.name == f.wire || f.name == "from_" && f.wire == "from") && f.wire != "from_"

/-- What the laws need of a field. -/
structure Regular (f : Field) : Prop where
  ty : f.ty.regular = true
  defaultFits : f.defaultFits = true
  keepsVoid : f.keepsVoid = true
  flagIsSwitch : f.flagIsSwitch = true
  spelled : f.spelled = true

/-- Whether a field is regular. -/
def regular (f : Field) : Bool := f.ty.regular && f.defaultFits && f.keepsVoid && f.flagIsSwitch && f.spelled

theorem regular_iff {f : Field} : f.regular = true ↔ f.Regular := by
  simp only [regular, Bool.and_eq_true]
  exact ⟨fun ⟨⟨⟨⟨h₁, h₂⟩, h₃⟩, h₄⟩, h₅⟩ => ⟨h₁, h₂, h₃, h₄, h₅⟩,
    fun h => ⟨⟨⟨⟨h.ty, h.defaultFits⟩, h.keepsVoid⟩, h.flagIsSwitch⟩, h.spelled⟩⟩

theorem flagIsSwitch_iff {f : Field} :
    f.flagIsSwitch = true ↔ (∃ on t, f.ty = .switch on t) ∨ f.ty.readsFlag = false := by
  unfold flagIsSwitch
  cases hty : f.ty with
  | switch on t => simp
  | _ => simp

theorem spelled_iff {f : Field} :
    f.spelled = true ↔ (f.name = f.wire ∨ f.name = "from_" ∧ f.wire = "from") ∧ f.wire ≠ "from_" := by
  simp [spelled]

/-- Two fields that share no key. -/
def Apart (f g : Field) : Prop := f.name ≠ g.name ∧ f.wire ≠ g.wire ∧ f.name ≠ g.wire ∧ f.wire ≠ g.name

theorem Apart.symm {f g : Field} (h : f.Apart g) : g.Apart f := ⟨h.1.symm, h.2.1.symm, h.2.2.2.symm, h.2.2.1.symm⟩

/-- Spelled fields with different wire keys share no key. -/
theorem apart_of_spelled {f g : Field} (hf : f.spelled = true) (hg : g.spelled = true) (h : f.wire ≠ g.wire) :
    f.Apart g := by
  obtain ⟨hfn, hf⟩ := spelled_iff.1 hf
  obtain ⟨hgn, hg⟩ := spelled_iff.1 hg
  rcases hfn with hfn | ⟨hfn, hfw⟩ <;> rcases hgn with hgn | ⟨hgn, hgw⟩
  · exact ⟨by rwa [hfn, hgn], h, by rwa [hfn], by rwa [hgn]⟩
  · exact ⟨by rwa [hfn, hgn], h, by rwa [hfn], by rwa [hgn]⟩
  · exact ⟨by rw [hfn, hgn]; exact hg.symm, h, by rw [hfn]; exact hg.symm, by rwa [hgn]⟩
  · rw [hfw, hgw] at h
    exact absurd rfl h

end Field

/-! ## Every class -/

/-- The classes are numbered without a gap. -/
theorem Class.mem_all (c : Class) : c ∈ Class.all := by
  have hall : (List.range 389).map Class.ofNat = Class.all := by decide +kernel
  have hlt : c.ctorIdx < 389 := by cases c <;> decide
  rw [← hall, ← Class.ofNat_ctorIdx c]
  exact List.mem_map_of_mem (List.mem_range.2 hlt)

/-- What holds of every class is checked by one run over the list of them: a check that splits the classes first
    evaluates the declarations anew for each. -/
instance Class.decidableForall {p : Class → Prop} [DecidablePred p] : Decidable (∀ c, p c) :=
  decidable_of_iff (∀ c ∈ Class.all, p c) ⟨fun h c => h c c.mem_all, fun h c _ => h c⟩

namespace Schema

theorem fields_checked (c : Class) : (recordOf c).fields.all Field.regular = true ∧
    ((recordOf c).fields.map (·.wire)).Nodup := by
  revert c
  decide +kernel

theorem field_regular {c : Class} {f : Field} (hf : f ∈ (recordOf c).fields) : f.Regular :=
  Field.regular_iff.1 (List.all_eq_true.1 (fields_checked c).1 f hf)

/-- The fields of a record share no key. -/
theorem fields_apart (c : Class) : (recordOf c).fields.Pairwise Field.Apart :=
  (List.pairwise_map.1 (fields_checked c).2).imp_of_mem fun hf hg h =>
    Field.apart_of_spelled (field_regular hf).spelled (field_regular hg).spelled h

/-- Two fields of a record that differ share no key. -/
theorem apart_of_ne {c : Class} {f f' : Field} (hf : f ∈ (recordOf c).fields) (hf' : f' ∈ (recordOf c).fields)
    (h : f ≠ f') : f.Apart f' := by
  have hp := fields_apart c
  generalize (recordOf c).fields = fields at hf hf' hp
  induction hp with
  | nil => cases hf
  | cons hg _ ih =>
    rw [List.mem_cons] at hf hf'
    rcases hf with rfl | hf <;> rcases hf' with rfl | hf'
    · exact absurd rfl h
    · exact hg f' hf'
    · exact (hg f hf).symm
    · exact ih hf hf'

/-- A field is found by its name. -/
theorem find_name {c : Class} {f : Field} (hf : f ∈ (recordOf c).fields) :
    (recordOf c).fields.find? (fun g => g.name == f.name) = some f := by
  have hp := fields_apart c
  generalize (recordOf c).fields = fields at hf hp
  induction hp with
  | nil => cases hf
  | @cons g gs hg _ ih =>
    rcases List.mem_cons.1 hf with rfl | hf
    · simp
    · rw [List.find?_cons_of_neg (by simpa using (hg f hf).1)]
      exact ih hf

/-! ## Every declared type -/

/-- A condition on unions that has been checked: it holds at every level of the types of fields, of the types that the
    library names, and of the types of payloads. -/
structure Checked (p : Ty → Bool) : Prop where
  other : ∀ t, t.isUnion = false → p t = true
  field : ∀ c, ∀ f ∈ (recordOf c).fields, f.ty.everywhere p = true
  named : namedTypes.all (fun m => m.2.everywhere p) = true
  payload : methods.all (fun m => m.types.all (Ty.everywhere p)) = true

section Checked

variable {p : Ty → Bool}

/-- What has been checked holds at every level of the types of the library. -/
theorem Checked.library (h : Checked p) {t : Ty} (ht : InLibrary t) : t.everywhere p = true := by
  induction ht with
  | record | intEnum | openEnum | closedEnum =>
    exact Ty.everywhere_iff.2 ⟨h.other _ rfl, fun u hu => absurd hu List.not_mem_nil⟩
  | named hm => exact List.all_eq_true.1 h.named _ hm
  | payload hm ht => exact List.all_eq_true.1 (List.all_eq_true.1 h.payload _ hm) _ ht
  | list _ ih | optional _ ih | map _ ih =>
    exact Ty.everywhere_iff.2 ⟨h.other _ rfl, List.forall_mem_singleton.2 ih⟩

/-- What has been checked holds of every declared type. -/
theorem Checked.declared (h : Checked p) {t : Ty} (ht : Declared t) : t.everywhere p = true := by
  cases ht with
  | named ht hp => exact hp.everywhere (h.library ht)
  | field hf hp => exact hp.everywhere (h.field _ _ hf)

end Checked

theorem regular_checked : Checked Ty.regularLevel where
  other := fun t ht => by
    cases t with
    | tagged | switch => cases ht
    | _ => rfl
  field := fun _ _ hf => (field_regular hf).ty
  named := by decide +kernel
  payload := by decide +kernel

theorem InLibrary.regular {t : Ty} (h : InLibrary t) : t.regular = true := regular_checked.library h

theorem Declared.regular {t : Ty} (h : Declared t) : t.regular = true := regular_checked.declared h

end Schema

end LspWire
