import LspWire.Proofs.RoundTrip

/-!
# Classes inside of a type

A property of classes that the classes of its fields share is inherited by everything inside a value: if all classes
that a type names have it, so do those that any type inside names (`Within.everyClass`).
-/

namespace LspWire

open Schema

namespace Ty

/-- Whether the classes that one level of a type names have a property. -/
def classLevel (p : Class → Bool) : Ty → Bool
  | .record c => p c
  | .provider _ q r => p q && p r
  | _ => true

/-- Whether every class that a type names has a property. -/
def everyClass (p : Class → Bool) (t : Ty) : Bool := t.everywhere (classLevel p)

variable {p : Class → Bool}

theorem everyClass_record {c : Class} : (record c).everyClass p = p c := Bool.and_true _

theorem everyClass_provider {b : Bool} {q r : Class} : (provider b q r).everyClass p = (p q && p r) := Bool.and_true _

/-- A property of all classes of a type is one of all classes of what it is built from. -/
theorem everyClass_inner {t u : Ty} (h : t.everyClass p = true) (hu : u ∈ t.inner) : u.everyClass p = true :=
  everywhere_inner h hu

/-- Both classes of a provider have the property, each as the class of a record. -/
theorem everyClass_options {b : Bool} {q r : Class} (h : (provider b q r).everyClass p = true) :
    (record q).everyClass p = true ∧ (record r).everyClass p = true := by
  rwa [everyClass_record, everyClass_record, ← Bool.and_eq_true, ← everyClass_provider (b := b)]

end Ty

/-- **A property of classes that goes over to the classes of the fields holds of every class inside a value.** -/
theorem Within.everyClass {p : Class → Bool}
    (hp : ∀ c, p c = true → ∀ f ∈ (recordOf c).fields, f.ty.everyClass p = true) {t t' : Ty} {v v' : Value}
    (h : Within t v t' v') : t.everyClass p = true → t'.everyClass p = true := by
  induction h with
  | here => exact id
  | item _ _ ih | entry _ _ ih | optional _ ih | switch _ ih | first _ ih =>
    exact fun ht => ih (Ty.everyClass_inner ht List.mem_cons_self)
  | second _ ih => exact fun ht => ih (Ty.everyClass_inner ht (List.mem_cons_of_mem _ List.mem_cons_self))
  | field hf _ _ ih => exact fun ht => ih (hp _ (Ty.everyClass_record.symm.trans ht) _ hf)
  | oneOf hm _ ih => exact fun ht => ih (Ty.everyClass_inner ht hm)
  | tagged hm _ ih => exact fun ht => ih (Ty.everyClass_inner ht (List.mem_map_of_mem hm))
  | plain _ ih => exact fun ht => ih (Ty.everyClass_options ht).1
  | registered _ ih => exact fun ht => ih (Ty.everyClass_options ht).2

end LspWire
