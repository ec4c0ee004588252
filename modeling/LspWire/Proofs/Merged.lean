import LspWire.Proofs.Members

/-!
# Merged values and what they are made of

Merging the repeated keys of a JSON value is done once (`merged_merged`) and does nothing where no object repeats a key
(`Distinct.merged_eq`). The kind of a value is its outermost form.
-/

namespace LspWire.Json

/-! ## Kinds -/

/-- The forms of JSON values. -/
inductive Kind where
  | null
  | bool
  | int
  | float
  | str
  | arr
  | obj
deriving DecidableEq

/-- Every form. -/
def Kind.all : List Kind := [.null, .bool, .int, .float, .str, .arr, .obj]

/-- The form of a value. -/
def kind : Json → Kind
  | .null => .null
  | .bool _ => .bool
  | .int _ => .int
  | .float _ => .float
  | .str _ => .str
  | .arr _ => .arr
  | .obj _ => .obj

theorem Kind.mem_all (k : Kind) : k ∈ Kind.all := by cases k <;> decide

/-- The same value, or two arrays, or two objects. -/
inductive SameForm : Json → Json → Prop
  | eq (j : Json) : SameForm j j
  | arr (xs ys : List Json) : SameForm (.arr xs) (.arr ys)
  | obj (ms ns : List (String × Json)) : SameForm (.obj ms) (.obj ns)

namespace SameForm

variable {j k : Json}

theorem kind_eq (h : j.SameForm k) : j.kind = k.kind := by cases h <;> rfl

theorem eq_null_iff (h : j.SameForm k) : j = .null ↔ k = .null := by cases h <;> simp

theorem eq_bool_iff (h : j.SameForm k) (b : Bool) : j = .bool b ↔ k = .bool b := by cases h <;> simp

theorem eq_str_iff (h : j.SameForm k) (s : String) : j = .str s ↔ k = .str s := by cases h <;> simp

/-- A value of the form of an object is an object. -/
theorem exists_obj {ms : List (String × Json)} (h : (Json.obj ms).SameForm k) : ∃ ns, k = .obj ns := by
  cases h with
  | eq => exact ⟨ms, rfl⟩
  | obj _ ns => exact ⟨ns, rfl⟩

end SameForm

/-! ## Merging -/

theorem mergedItems_eq_map : ∀ items : List Json, mergedItems items = items.map merged
  | [] => rfl
  | j :: js => by rw [mergedItems, mergedItems_eq_map js, List.map_cons]

theorem mergedMembers_eq_map : ∀ ms : List (String × Json), mergedMembers ms = ms.map fun m => (m.1, m.2.merged)
  | [] => rfl
  | (k, j) :: ms => by rw [mergedMembers, mergedMembers_eq_map ms, List.map_cons]

/-- Merging makes no `null`. -/
theorem merged_eq_null {j : Json} : j.merged = .null ↔ j = .null := by cases j <;> simp [merged]

theorem merged_eq_str {j : Json} {s : String} : j.merged = .str s ↔ j = .str s := by cases j <;> simp [merged]

mutual

/-- Merging twice is merging once. The keys are merged after the values, and `Members.merge_map` lets the two change
    places. -/
@[simp] theorem merged_merged : ∀ j : Json, j.merged.merged = j.merged
  | .arr items => by rw [merged, merged, mergedItems_merged items]
  | .obj ms => by
    rw [merged, merged, mergedMembers_eq_map, Members.merge_map Json.merged, Members.merge_merge,
      ← Members.merge_map Json.merged, ← mergedMembers_eq_map, mergedMembers_merged ms]
  | .null | .bool _ | .int _ | .float _ | .str _ => rfl

theorem mergedItems_merged : ∀ items : List Json, mergedItems (mergedItems items) = mergedItems items
  | [] => rfl
  | j :: js => by rw [mergedItems, mergedItems, merged_merged j, mergedItems_merged js]

theorem mergedMembers_merged : ∀ ms : List (String × Json), mergedMembers (mergedMembers ms) = mergedMembers ms
  | [] => rfl
  | (k, j) :: ms => by rw [mergedMembers, mergedMembers, merged_merged j, mergedMembers_merged ms]

end

/-- A key finds the merged form of what it finds in the object. -/
theorem find?_mergedMembers (key : String) (ms : List (String × Json)) :
    Members.find? key (mergedMembers ms) = (Members.find? key ms).map merged := by
  rw [mergedMembers_eq_map, Members.find?_map Json.merged]

/-! ## Finite numbers, distinct keys -/

/-- A value whose numbers are finite. -/
inductive Finite : Json → Prop
  | null : Finite .null
  | bool (b : Bool) : Finite (.bool b)
  | int (n : Int) : Finite (.int n)
  | float {x : Double} : x.isFinite = true → Finite (.float x)
  | str (s : String) : Finite (.str s)
  | arr {items : List Json} : (∀ j ∈ items, Finite j) → Finite (.arr items)
  | obj {ms : List (String × Json)} : (∀ m ∈ ms, Finite m.2) → Finite (.obj ms)

/-- A value none of whose objects repeats a key, as parsed data always is. -/
inductive Distinct : Json → Prop
  | null : Distinct .null
  | bool (b : Bool) : Distinct (.bool b)
  | int (n : Int) : Distinct (.int n)
  | float (x : Double) : Distinct (.float x)
  | str (s : String) : Distinct (.str s)
  | arr {items : List Json} : (∀ j ∈ items, Distinct j) → Distinct (.arr items)
  | obj {ms : List (String × Json)} : (ms.map (·.1)).Nodup → (∀ m ∈ ms, Distinct m.2) → Distinct (.obj ms)

theorem Finite.item {items : List Json} (h : Finite (.arr items)) {j : Json} (hj : j ∈ items) : j.Finite := by
  cases h with | arr h => exact h j hj

theorem Finite.member {ms : List (String × Json)} (h : Finite (.obj ms)) {m : String × Json} (hm : m ∈ ms) :
    m.2.Finite := by
  cases h with | obj h => exact h m hm

/-- Items of a value without repeated keys repeat none. -/
theorem Distinct.item {items : List Json} (h : Distinct (.arr items)) {j : Json} (hj : j ∈ items) : j.Distinct := by
  cases h with | arr h => exact h j hj

theorem Distinct.member {ms : List (String × Json)} (h : Distinct (.obj ms)) {m : String × Json} (hm : m ∈ ms) :
    m.2.Distinct := by
  cases h with | obj _ h => exact h m hm

/-- An object without repeated keys has a list of distinct keys. -/
theorem Distinct.nodup {ms : List (String × Json)} (h : Distinct (.obj ms)) : (ms.map (·.1)).Nodup := by
  cases h with | obj h _ => exact h

/-- Where no key is repeated there is nothing to merge. -/
theorem Distinct.merged_eq {j : Json} (h : j.Distinct) : j.merged = j := by
  induction h with
  | arr _ ih => rw [merged, mergedItems_eq_map, List.map_congr_left ih, List.map_id']
  | @obj ms hd _ ih =>
    have hm : mergedMembers ms = ms := by
      rw [mergedMembers_eq_map]
      exact (List.map_congr_left fun m hm => by rw [ih m hm]).trans (List.map_id' ms)
    rw [merged, hm, Members.merge_of_nodup hd]
  | _ => rfl

/-- A finite value that has nothing to write is `null`. -/
theorem Finite.eq_null {j : Json} (h : j.Finite) (hv : j.merged.isVoid = true) : j = .null := by
  cases h with
  | null => rfl
  | float hx => simp [merged, isVoid, hx] at hv
  | _ => simp [merged, isVoid] at hv

end LspWire.Json
