import LspWire.Schema.Ty

/-!
# The parts of a type

A type is built from other types (`Ty.inner`), and those from others in turn. A check of a type is a condition on one
level that has to hold at every level (`Ty.everywhere`), or at those that are reached through types of some forms only
(`Ty.partsThrough`). The recursion over types is written here once; what a check says of a type and of what it is built
from is `Ty.everywhere_iff`, and that it holds of every part is `Ty.Part.everywhere`.
-/

namespace LspWire.Ty

/-- The types that a type is built from. -/
@[simp] def inner : Ty → List Ty
  | .list t | .optional t | .map _ t | .switch _ t => [t]
  | .pair a b => [a, b]
  | .oneOf arms => arms
  | .tagged _ arms => arms.map (·.2)
  | _ => []

mutual

/-- A type and what it is built from, level by level; a level counts if `into` holds of the type above it. -/
def partsThrough (into : Ty → Bool) : Ty → List Ty
  | .list t => .list t :: if into (.list t) then partsThrough into t else []
  | .optional t => .optional t :: if into (.optional t) then partsThrough into t else []
  | .map keys t => .map keys t :: if into (.map keys t) then partsThrough into t else []
  | .switch on t => .switch on t :: if into (.switch on t) then partsThrough into t else []
  | .pair a b => .pair a b :: if into (.pair a b) then partsThrough into a ++ partsThrough into b else []
  | .oneOf arms => .oneOf arms :: if into (.oneOf arms) then partsOfAll into arms else []
  | .tagged key arms => .tagged key arms :: if into (.tagged key arms) then partsOfArms into arms else []
  | t => [t]

/-- The parts of the types. -/
def partsOfAll (into : Ty → Bool) : List Ty → List Ty
  | [] => []
  | t :: ts => partsThrough into t ++ partsOfAll into ts

/-- The parts of the types under tags. -/
def partsOfArms (into : Ty → Bool) : List (String × Ty) → List Ty
  | [] => []
  | (_, t) :: ts => partsThrough into t ++ partsOfArms into ts

end

section Parts

variable {into p : Ty → Bool} {t u : Ty}

theorem partsOfAll_eq (ts : List Ty) : partsOfAll into ts = ts.flatMap (partsThrough into) := by
  induction ts with
  | nil => rfl
  | cons t ts ih => rw [partsOfAll, ih, List.flatMap_cons]

theorem partsOfArms_eq (ts : List (String × Ty)) :
    partsOfArms into ts = (ts.map (·.2)).flatMap (partsThrough into) := by
  induction ts with
  | nil => rfl
  | cons a ts ih => rw [partsOfArms, ih, List.map_cons, List.flatMap_cons]

/-- The parts of a type are the type itself and, where the recursion goes on, the parts of what it is built from. -/
theorem partsThrough_eq (t : Ty) :
    t.partsThrough into = t :: if into t then t.inner.flatMap (partsThrough into) else [] := by
  cases t with
  | list | optional | map | switch | pair =>
    simp only [partsThrough, inner, List.flatMap_cons, List.flatMap_nil, List.append_nil]
  | oneOf => simp only [partsThrough, inner, partsOfAll_eq]
  | tagged => simp only [partsThrough, inner, partsOfArms_eq]
  | _ => simp only [partsThrough, inner, List.flatMap_nil, ite_self]

/-- A condition holds of all parts of a type if it holds of the type and of all parts of what it is built from. -/
theorem all_partsThrough : (t.partsThrough into).all p = true ↔
    p t = true ∧ (into t = true → ∀ u ∈ t.inner, (u.partsThrough into).all p = true) := by
  rw [partsThrough_eq, List.all_cons, Bool.and_eq_true]
  cases into t with
  | true => simp only [if_true, List.all_flatMap, List.all_eq_true, forall_const]
  | false => simp

/-- What a part of a type passes by, the type passes by. -/
theorem any_partsThrough (hinto : into t = true) (hu : u ∈ t.inner) (h : (u.partsThrough into).any p = true) :
    (t.partsThrough into).any p = true := by
  rw [partsThrough_eq, List.any_cons, if_pos hinto, List.any_flatMap, Bool.or_eq_true]
  exact .inr (List.any_eq_true.2 ⟨u, hu, h⟩)

/-! ## Conditions on every level -/

/-- Whether a condition holds of a type and of everything that it is built from. -/
def everywhere (p : Ty → Bool) (t : Ty) : Bool := (t.partsThrough fun _ => true).all p

theorem everywhere_iff : t.everywhere p = true ↔ p t = true ∧ ∀ u ∈ t.inner, u.everywhere p = true := by
  rw [everywhere, all_partsThrough]
  exact and_congr_right fun _ => ⟨fun h => h rfl, fun h _ => h⟩

theorem everywhere_self (h : t.everywhere p = true) : p t = true := (everywhere_iff.1 h).1

theorem everywhere_inner (h : t.everywhere p = true) (hu : u ∈ t.inner) : u.everywhere p = true :=
  (everywhere_iff.1 h).2 u hu

end Parts

/-- Whether a type reads a value at a type that it is built from. -/
def passesOn : Ty → Bool
  | .optional _ | .switch .. | .oneOf _ | .tagged .. => true
  | _ => false

/-- The types that a type is made of. -/
inductive Part : Ty → Ty → Prop
  | self (t : Ty) : Part t t
  | list {t u : Ty} : Part t u → Part (.list t) u
  | optional {t u : Ty} : Part t u → Part (.optional t) u
  | map {keys : KeyKind} {t u : Ty} : Part t u → Part (.map keys t) u
  | switch {on : Value} {t u : Ty} : Part t u → Part (.switch on t) u
  | first {a b u : Ty} : Part a u → Part (.pair a b) u
  | second {a b u : Ty} : Part b u → Part (.pair a b) u
  | oneOf {arms : List Ty} {t u : Ty} : t ∈ arms → Part t u → Part (.oneOf arms) u
  | tagged {key tag : String} {arms : List (String × Ty)} {t u : Ty} : (tag, t) ∈ arms → Part t u →
      Part (.tagged key arms) u

/-- What holds everywhere in a type holds everywhere in its parts. -/
theorem Part.everywhere {p : Ty → Bool} {t u : Ty} (h : Part t u) : t.everywhere p = true → u.everywhere p = true := by
  induction h with
  | self => exact id
  | list _ ih | optional _ ih | map _ ih | switch _ ih | first _ ih =>
    exact fun ht => ih (everywhere_inner ht List.mem_cons_self)
  | second _ ih => exact fun ht => ih (everywhere_inner ht (List.mem_cons_of_mem _ List.mem_cons_self))
  | oneOf hm _ ih => exact fun ht => ih (everywhere_inner ht hm)
  | tagged hm _ ih => exact fun ht => ih (everywhere_inner ht (List.mem_map_of_mem hm))

end LspWire.Ty
