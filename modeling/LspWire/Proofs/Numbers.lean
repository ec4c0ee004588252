import LspWire.Proofs.Writing

/-!
# The numbers in a value

What is written as text and read back depends on the numbers in a value: an integer is read back if it is not too long,
and a number that is not finite has no JSON form. `Json.numbers` and `Value.numbers` list them. A decoded value holds
numbers of the data it was read from and no others (`Reads.numbers`), and it writes no others
(`Value.mem_numbers_of_encode`).
-/

namespace LspWire

open Schema

/-! ## JSON values -/

namespace Json

mutual

/-- The numbers in a value. -/
def numbers : Json → List (Int ⊕ Double)
  | .int n => [.inl n]
  | .float x => [.inr x]
  | .arr items => itemNumbers items
  | .obj ms => memberNumbers ms
  | _ => []

/-- The numbers in the elements of an array. -/
def itemNumbers : List Json → List (Int ⊕ Double)
  | [] => []
  | j :: js => numbers j ++ itemNumbers js

/-- The numbers in the values of an object. -/
def memberNumbers : List (String × Json) → List (Int ⊕ Double)
  | [] => []
  | (_, j) :: ms => numbers j ++ memberNumbers ms

end

section Mem

variable {y : Int ⊕ Double}

theorem mem_itemNumbers {js : List Json} : y ∈ itemNumbers js ↔ ∃ j ∈ js, y ∈ j.numbers := by
  induction js with
  | nil => simp [itemNumbers]
  | cons j js ih =>
    rw [itemNumbers, List.mem_append, ih]
    simp

theorem mem_memberNumbers {ms : List (String × Json)} : y ∈ memberNumbers ms ↔ ∃ m ∈ ms, y ∈ m.2.numbers := by
  induction ms with
  | nil => simp [memberNumbers]
  | cons m ms ih =>
    rw [memberNumbers, List.mem_append, ih]
    simp

/-- The numbers of an array are those of its elements. -/
theorem mem_numbers_arr {items : List Json} : y ∈ (Json.arr items).numbers ↔ ∃ j ∈ items, y ∈ j.numbers := by
  rw [numbers, mem_itemNumbers]

/-- The numbers of an object are those of its values. -/
theorem mem_numbers_obj {ms : List (String × Json)} : y ∈ (Json.obj ms).numbers ↔ ∃ m ∈ ms, y ∈ m.2.numbers := by
  rw [numbers, mem_memberNumbers]

end Mem

mutual

/-- Merging repeated keys adds no number. -/
theorem mem_numbers_of_merged {y : Int ⊕ Double} : ∀ {j : Json}, y ∈ j.merged.numbers → y ∈ j.numbers
  | .null, h | .bool _, h | .int _, h | .float _, h | .str _, h => h
  | .arr items, h => by
    rw [merged, numbers] at h
    rw [numbers]
    exact mem_numbers_of_mergedItems h
  | .obj ms, h => by
    rw [merged, mem_numbers_obj] at h
    obtain ⟨m, hm, hy⟩ := h
    exact mem_numbers_of_mergedMembers (mem_memberNumbers.2 ⟨m, Members.mem_of_mem_merge hm, hy⟩)

theorem mem_numbers_of_mergedItems {y : Int ⊕ Double} : ∀ {js : List Json},
    y ∈ itemNumbers (mergedItems js) → y ∈ itemNumbers js
  | [], h => h
  | j :: js, h => by
    rw [mergedItems, itemNumbers, List.mem_append] at h
    rw [itemNumbers, List.mem_append]
    exact h.imp mem_numbers_of_merged mem_numbers_of_mergedItems

theorem mem_numbers_of_mergedMembers {y : Int ⊕ Double} : ∀ {ms : List (String × Json)},
    y ∈ memberNumbers (mergedMembers ms) → y ∈ memberNumbers ms
  | [], h => h
  | (k, j) :: ms, h => by
    rw [mergedMembers, memberNumbers, List.mem_append] at h
    rw [memberNumbers, List.mem_append]
    exact h.imp mem_numbers_of_merged mem_numbers_of_mergedMembers

end

/-- The numbers of a finite value are finite. -/
theorem Finite.number {j : Json} (h : j.Finite) : ∀ {x : Double}, .inr x ∈ j.numbers → x.isFinite = true := by
  induction h with
  | null | bool | int | str => exact fun hx => by simp [numbers] at hx
  | float hy =>
    intro x hx
    rw [numbers, List.mem_singleton] at hx
    cases hx
    exact hy
  | arr _ ih =>
    intro x hx
    obtain ⟨j, hj, hx⟩ := mem_numbers_arr.1 hx
    exact ih j hj hx
  | obj _ ih =>
    intro x hx
    obtain ⟨m, hm, hx⟩ := mem_numbers_obj.1 hx
    exact ih m hm hx

end Json

/-! ## Decoded values -/

namespace Value

mutual

/-- The numbers in a value, those that no type describes among them. -/
def numbers : Value → List (Int ⊕ Double)
  | .int n | .intEnum _ n => [.inl n]
  | .watchKind set => [.inl set]
  | .float x => [.inr x]
  | .untyped j => j.numbers
  | .list vs => itemNumbers vs
  | .pair v w => numbers v ++ numbers w
  | .map _ es => entryNumbers es
  | .record _ fs extra => entryNumbers fs ++ Json.memberNumbers extra
  | _ => []

/-- The numbers in the elements of a list. -/
def itemNumbers : List Value → List (Int ⊕ Double)
  | [] => []
  | v :: vs => numbers v ++ itemNumbers vs

/-- The numbers in the values of a map or of the fields of a record. -/
def entryNumbers : List (String × Value) → List (Int ⊕ Double)
  | [] => []
  | (_, v) :: es => numbers v ++ entryNumbers es

end

section Mem

variable {y : Int ⊕ Double}

theorem mem_itemNumbers {vs : List Value} : y ∈ itemNumbers vs ↔ ∃ v ∈ vs, y ∈ v.numbers := by
  induction vs with
  | nil => simp [itemNumbers]
  | cons v vs ih =>
    rw [itemNumbers, List.mem_append, ih]
    simp

theorem mem_entryNumbers {es : List (String × Value)} : y ∈ entryNumbers es ↔ ∃ e ∈ es, y ∈ e.2.numbers := by
  induction es with
  | nil => simp [entryNumbers]
  | cons e es ih =>
    rw [entryNumbers, List.mem_append, ih]
    simp

theorem mem_numbers_list {vs : List Value} : y ∈ (Value.list vs).numbers ↔ ∃ v ∈ vs, y ∈ v.numbers := by
  rw [numbers, mem_itemNumbers]

theorem mem_numbers_pair {v w : Value} : y ∈ (Value.pair v w).numbers ↔ y ∈ v.numbers ∨ y ∈ w.numbers := by
  rw [numbers, List.mem_append]

theorem mem_numbers_map {keys : KeyKind} {es : List (String × Value)} :
    y ∈ (Value.map keys es).numbers ↔ ∃ e ∈ es, y ∈ e.2.numbers := by
  rw [numbers, mem_entryNumbers]

/-- The numbers of a record are those of its fields and of the unknown members that it keeps. -/
theorem mem_numbers_record {c : Class} {fs : List (String × Value)} {extra : List (String × Json)} :
    y ∈ (Value.record c fs extra).numbers ↔ (∃ e ∈ fs, y ∈ e.2.numbers) ∨ ∃ m ∈ extra, y ∈ m.2.numbers := by
  rw [numbers, List.mem_append, mem_entryNumbers, Json.mem_memberNumbers]

end Mem

mutual

/-- A value writes no number that it does not hold. -/
theorem mem_numbers_of_encode {y : Int ⊕ Double} : ∀ {v : Value}, y ∈ v.encode.numbers → y ∈ v.numbers
  | .null, h | .bool _, h | .int _, h | .float _, h | .str _, h | .uri _, h | .intEnum .., h | .openEnum .., h
  | .closedEnum .., h | .watchKind _, h | .untyped _, h => h
  | .list vs, h => by
    rw [encode, Json.numbers] at h
    rw [numbers]
    exact mem_numbers_of_encodeItems h
  | .pair v w, h => by
    rw [encode, Json.numbers, Json.itemNumbers, Json.itemNumbers, Json.itemNumbers, List.append_nil,
      List.mem_append] at h
    rw [mem_numbers_pair]
    exact h.imp mem_numbers_of_encode mem_numbers_of_encode
  | .map keys es, h => by
    rw [encode, Json.numbers] at h
    rw [numbers]
    exact mem_numbers_of_encodeEntries h
  | .record c fs extra, h => by
    rw [encode, Json.mem_numbers_obj] at h
    obtain ⟨m, hm, hy⟩ := h
    rw [numbers, List.mem_append]
    rcases List.mem_append.1 hm with hm | hm
    · exact .inl (mem_numbers_of_encodeFields (Json.mem_memberNumbers.2 ⟨m, hm, hy⟩))
    · exact .inr (Json.mem_memberNumbers.2 ⟨m, (List.mem_filter.1 hm).1, hy⟩)

theorem mem_numbers_of_encodeItems {y : Int ⊕ Double} : ∀ {vs : List Value},
    y ∈ Json.itemNumbers (encodeItems vs) → y ∈ itemNumbers vs
  | [], h => h
  | v :: vs, h => by
    rw [encodeItems, Json.itemNumbers, List.mem_append] at h
    rw [itemNumbers, List.mem_append]
    exact h.imp mem_numbers_of_encode mem_numbers_of_encodeItems

theorem mem_numbers_of_encodeEntries {y : Int ⊕ Double} : ∀ {es : List (String × Value)},
    y ∈ Json.memberNumbers (encodeEntries es) → y ∈ entryNumbers es
  | [], h => h
  | (k, v) :: es, h => by
    rw [encodeEntries, Json.memberNumbers, List.mem_append] at h
    rw [entryNumbers, List.mem_append]
    exact h.imp mem_numbers_of_encode mem_numbers_of_encodeEntries

theorem mem_numbers_of_encodeFields {y : Int ⊕ Double} {c : Class} : ∀ {fs : List (String × Value)},
    y ∈ Json.memberNumbers (encodeFields c fs) → y ∈ entryNumbers fs
  | [], h => h
  | (name, v) :: fs, h => by
    rw [entryNumbers, List.mem_append]
    rw [encodeFields] at h
    split at h
    · split at h
      · exact .inr (mem_numbers_of_encodeFields h)
      · rw [Json.memberNumbers, List.mem_append] at h
        exact h.imp mem_numbers_of_encode mem_numbers_of_encodeFields
    · exact .inr (mem_numbers_of_encodeFields h)

end

end Value

/-! ## What was read -/

/-- Where a number of a decoded value comes from: it stands in the data, or is the binary64 value of an integer there. -/
def Source.Yields (source : Source) (j : Json) (y : Int ⊕ Double) : Prop :=
  y ∈ j.numbers ∨ ∃ n, .inl n ∈ j.numbers ∧ source.TakesInt n ∧ y = .inr (Double.ofInt n)

/-- What a part of the data yields, the whole yields. -/
theorem Source.Yields.mono {source : Source} {j j' : Json} {y : Int ⊕ Double} (h : source.Yields j y)
    (hsub : ∀ {y : Int ⊕ Double}, y ∈ j.numbers → y ∈ j'.numbers) : source.Yields j' y :=
  h.imp hsub fun ⟨n, hn, htakes, he⟩ => ⟨n, hsub hn, htakes, he⟩

/-- A scalar type makes a new number at one place only: an integer that is read as a binary64 number. -/
theorem ReadsScalar.numbers {source : Source} {t : Ty} {j : Json} {v : Value} (h : ReadsScalar source t j v)
    {y : Int ⊕ Double} (hy : y ∈ v.numbers) : source.Yields j y := by
  cases h with
  | @floatOfInt n hn =>
    rw [Value.numbers, List.mem_singleton] at hy
    exact .inr ⟨n, List.mem_singleton.2 rfl, hn, hy⟩
  | _ => exact .inl hy

/-- What stands for an absent field holds no number. -/
theorem Field.numbers_absent {f : Field} {v : Value} (hf : f.defaultFits = true) (h : f.absent = some v) :
    v.numbers = [] := by
  rcases absent_cases hf h with ⟨rfl, -⟩ | ⟨rfl, -⟩ | ⟨s, rfl, -⟩ <;> rfl

/-- **A decoded value holds the numbers of its data and no others.** -/
theorem Reads.numbers {source : Source} {t : Ty} {j : Json} {v : Value} (h : Reads source t j v) :
    t.regular = true → ∀ {y : Int ⊕ Double}, y ∈ v.numbers → source.Yields j y := by
  induction h with
  | any j => exact fun _ _ hy => .inl (Json.mem_numbers_of_merged hy)
  | scalar h => exact fun _ _ hy => h.numbers hy
  | list g _ ih =>
    intro hr y hy
    replace hr := Ty.regular_inner hr List.mem_cons_self
    obtain ⟨v, hv, hy⟩ := Value.mem_numbers_list.1 hy
    obtain ⟨j, hj, rfl⟩ := List.mem_map.1 hv
    exact (ih j hj hr hy).mono fun hy => Json.mem_numbers_arr.2 ⟨j, hj, hy⟩
  | pair _ _ iha ihb =>
    intro hr y hy
    replace hr := Ty.regular_pair hr
    rcases Value.mem_numbers_pair.1 hy with hy | hy
    · exact (iha hr.1 hy).mono fun hy => Json.mem_numbers_arr.2 ⟨_, by simp, hy⟩
    · exact (ihb hr.2 hy).mono fun hy => Json.mem_numbers_arr.2 ⟨_, by simp, hy⟩
  | map g _ _ ih =>
    intro hr y hy
    replace hr := Ty.regular_inner hr List.mem_cons_self
    obtain ⟨e, he, hy⟩ := Value.mem_numbers_map.1 hy
    obtain ⟨m, hm, rfl⟩ := List.mem_map.1 (Members.mem_of_mem_merge he)
    exact (ih m hm hr hy).mono fun hy => Json.mem_numbers_obj.2 ⟨m, hm, hy⟩
  | @record c ms g _ habsent ih =>
    intro _ y hy
    rcases Value.mem_numbers_record.1 hy with ⟨e, he, hy⟩ | ⟨m, hm, hy⟩
    · obtain ⟨f, hf, rfl⟩ := List.mem_map.1 he
      have hreg := field_regular hf
      cases hr : findField? f ms with
      | some p =>
        exact (ih f hf p.1 p.2 hr hreg.ty hy).mono fun hy => Json.mem_numbers_obj.2 ⟨_, mem_of_findField? hr, hy⟩
      | none =>
        rw [f.numbers_absent hreg.defaultFits (habsent f hf hr)] at hy
        cases hy
    · obtain ⟨n, hn, -, hnm, -⟩ := mem_extraMembers (mem_keptMembers hm).2
      rw [← hnm] at hy
      exact .inl (Json.mem_numbers_obj.2 ⟨n, hn, Json.mem_numbers_of_merged hy⟩)
  | optionalNull | switchNull | switchOff | allowed => exact fun _ _ hy => by cases hy
  | optional _ _ ih => exact fun hr _ hy => ih (Ty.regular_inner hr List.mem_cons_self) hy
  | oneOf _ _ ih => exact fun hr _ hy => ih (Ty.regular_inner hr (by simp)) hy
  | tagged _ ht _ ih => exact fun hr _ hy => ih ((Ty.regular_tagged hr).2 _ (mem_of_lookup ht)).2 hy
  | registered _ _ ih | plain _ _ ih => exact fun _ _ hy => ih rfl hy
  | switchOn on t =>
    intro hr y hy
    replace hr := Ty.regular_switch hr
    obtain ⟨c, name, e, a, rfl, -⟩ := Ty.isBlank_iff.1 hr.1
    cases hy
  | switch _ _ _ ih =>
    intro hr y hy
    replace hr := Ty.regular_switch hr
    exact ih hr.2 hy

/-! ## Values whose numbers are finite -/

/-- Whether every number in a value is finite. -/
def Value.Finite (v : Value) : Prop := ∀ x : Double, .inr x ∈ v.numbers → x.isFinite = true

/-- What data with finite numbers is read as has finite numbers. -/
theorem Reads.finite {t : Ty} {j : Json} {v : Value} (h : Reads .data t j v) (hr : t.regular = true) (hj : j.Finite) :
    v.Finite := by
  intro x hx
  rcases h.numbers hr hx with hx | ⟨n, -, htakes, he⟩
  · exact hj.number hx
  · cases he
    exact htakes rfl

namespace Value.Finite

theorem item {vs : List Value} (h : (Value.list vs).Finite) {v : Value} (hv : v ∈ vs) : v.Finite :=
  fun x hx => h x (mem_numbers_list.2 ⟨v, hv, hx⟩)

theorem first {v w : Value} (h : (Value.pair v w).Finite) : v.Finite := fun x hx => h x (mem_numbers_pair.2 (.inl hx))

theorem second {v w : Value} (h : (Value.pair v w).Finite) : w.Finite := fun x hx => h x (mem_numbers_pair.2 (.inr hx))

theorem entry {keys : KeyKind} {es : List (String × Value)} (h : (Value.map keys es).Finite) {e : String × Value}
    (he : e ∈ es) : e.2.Finite :=
  fun x hx => h x (mem_numbers_map.2 ⟨e, he, hx⟩)

theorem field {c : Class} {fs : List (String × Value)} {extra : List (String × Json)}
    (h : (Value.record c fs extra).Finite) {p : String × Value} (hp : p ∈ fs) : p.2.Finite :=
  fun x hx => h x (mem_numbers_record.2 (.inl ⟨p, hp, hx⟩))

theorem extra {c : Class} {fs : List (String × Value)} {extra : List (String × Json)}
    (h : (Value.record c fs extra).Finite) {m : String × Json} (hm : m ∈ extra) : (Value.untyped m.2).Finite :=
  fun x hx => h x (mem_numbers_record.2 (.inr ⟨m, hm, hx⟩))

/-- What has no JSON form in a finite value is `null`. -/
theorem eq_null {j : Json} (h : (Value.untyped j).Finite) (hv : j.isVoid = true) : j = .null := by
  cases j with
  | null => rfl
  | float x =>
    rw [Json.isVoid, h x (List.mem_singleton.2 rfl)] at hv
    cases hv
  | _ => cases hv

end Value.Finite

end LspWire
