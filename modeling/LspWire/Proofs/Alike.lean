import LspWire.Proofs.Merged

/-!
# Values up to the order of members

`j.Alike k`: `k` is `j` with the members of its objects in another order, at any depth. Objects that are alike have the
same keys with values that are alike (`Json.Alike.find?`), and members that are left out of both by their keys leave
them alike (`Json.Alike.filter`).
-/

namespace LspWire

namespace Members

variable {α : Type}

/-- The order of distinct keys does not matter to a lookup. -/
theorem find?_of_perm {ms ns : List (String × α)} (h : ms.Perm ns) (hd : (ms.map (·.1)).Nodup) (key : String) :
    find? key ms = find? key ns := by
  have hd' : (ns.map (·.1)).Nodup := (h.map _).nodup_iff.1 hd
  cases hn : find? key ns with
  | some a => exact find?_of_mem hd (h.mem_iff.2 (mem_of_find? hn))
  | none => exact find?_eq_none.2 fun m hm => find?_eq_none.1 hn m (h.mem_iff.1 hm)

/-- Lists with the same members under the same distinct keys, in the same order, are equal. -/
theorem eq_of_perm : ∀ {ms ns : List (String × α)}, ms.Perm ns → ms.map (·.1) = ns.map (·.1) → (ns.map (·.1)).Nodup →
    ms = ns
  | [], ns, h, _, _ => h.nil_eq
  | m :: ms, [], h, _, _ => h.eq_nil
  | m :: ms, n :: ns, h, hkeys, hd => by
    rw [List.map_cons, List.map_cons, List.cons.injEq] at hkeys
    rw [List.map_cons, List.nodup_cons] at hd
    have hmn : m = n := by
      rcases List.mem_cons.1 (h.mem_iff.1 List.mem_cons_self) with hmn | hm
      · exact hmn
      · exact absurd (hkeys.1 ▸ List.mem_map_of_mem hm) hd.1
    subst hmn
    rw [eq_of_perm ((List.perm_cons m).1 h) hkeys.2 hd.2]

end Members

/-- A list beside itself. -/
theorem zip_self {α : Type} (xs : List α) : xs.zip xs = xs.map fun x => (x, x) := by
  have h := List.zip_map' (f := id) (g := id) (l := xs)
  simpa using h

/-- `Alike j k`: the same values with the same keys, though members may stand in another order. -/
inductive Json.Alike : Json → Json → Prop
  | eq (j : Json) : Alike j j
  | arr {xs ys : List Json} : xs.length = ys.length → (∀ p ∈ xs.zip ys, Alike p.1 p.2) → Alike (.arr xs) (.arr ys)
  | obj {ms ns os : List (String × Json)} : ms.Perm ns → ns.map (·.1) = os.map (·.1) →
      (∀ p ∈ ns.zip os, Alike p.1.2 p.2.2) → Alike (.obj ms) (.obj os)

namespace Json.Alike

theorem arr_map_iff {α : Type} {a b : α → Json} {xs : List α} :
    (Json.arr (xs.map a)).Alike (.arr (xs.map b)) ↔ ∀ x ∈ xs, (a x).Alike (b x) := by
  constructor
  · intro h
    generalize hy : Json.arr (xs.map b) = y at h
    cases h with
    | eq =>
      intro x hx
      rw [List.map_inj_left.1 (Json.arr.inj hy) x hx]
      exact .eq _
    | arr _ hall =>
      cases hy
      rw [List.zip_map', List.forall_mem_map] at hall
      exact hall
  · intro h
    refine .arr (by simp) ?_
    rw [List.zip_map', List.forall_mem_map]
    exact h

theorem of_perm {ms ns : List (String × Json)} (h : ms.Perm ns) : (Json.obj ms).Alike (.obj ns) := by
  refine .obj h rfl ?_
  rw [zip_self, List.forall_mem_map]
  exact fun n _ => .eq n.2

theorem length_eq {ms ns : List (String × Json)} (h : (Json.obj ms).Alike (.obj ns)) : ms.length = ns.length := by
  cases h with
  | eq => rfl
  | obj hperm hkeys _ => simpa using hperm.length_eq.trans (by simpa using congrArg List.length hkeys)

/-! ## Parts of values that are alike -/

theorem sameForm {j k : Json} (h : j.Alike k) : j.SameForm k := by
  cases h with
  | eq => exact .eq j
  | arr => exact .arr _ _
  | obj => exact .obj _ _

/-- The elements of alike arrays, in pairs. -/
theorem items {xs ys : List Json} (h : (Json.arr xs).Alike (.arr ys)) :
    ∃ ps : List (Json × Json), xs = ps.map (·.1) ∧ ys = ps.map (·.2) ∧ ∀ p ∈ ps, p.1.Alike p.2 := by
  cases h with
  | eq =>
    refine ⟨xs.zip xs, (List.map_fst_zip (Nat.le_refl _)).symm, (List.map_snd_zip (Nat.le_refl _)).symm, ?_⟩
    rw [zip_self, List.forall_mem_map]
    exact fun x _ => .eq x
  | arr hlength hall =>
    exact ⟨xs.zip ys, (List.map_fst_zip (Nat.le_of_eq hlength)).symm,
      (List.map_snd_zip (Nat.le_of_eq hlength.symm)).symm, hall⟩

/-- Members with the same keys, in pairs. -/
theorem exists_pairs : ∀ {ns os : List (String × Json)}, ns.map (·.1) = os.map (·.1) →
    (∀ p ∈ ns.zip os, p.1.2.Alike p.2.2) → ∃ ps : List (String × Json × Json),
      ns = ps.map (fun p => (p.1, p.2.1)) ∧ os = ps.map (fun p => (p.1, p.2.2)) ∧ ∀ p ∈ ps, p.2.1.Alike p.2.2
  | [], [], _, _ => ⟨[], rfl, rfl, fun _ hp => by cases hp⟩
  | [], _ :: _, hkeys, _ => by cases hkeys
  | _ :: _, [], hkeys, _ => by cases hkeys
  | (k, x) :: ns, (k', y) :: os, hkeys, hall => by
    rw [List.map_cons, List.map_cons, List.cons.injEq] at hkeys
    rw [List.zip_cons_cons, List.forall_mem_cons] at hall
    obtain ⟨ps, rfl, rfl, hps⟩ := exists_pairs hkeys.2 hall.2
    obtain ⟨hk, -⟩ := hkeys
    subst hk
    exact ⟨(k, x, y) :: ps, rfl, rfl, List.forall_mem_cons.2 ⟨hall.1, hps⟩⟩

/-- The members of alike objects, in pairs, once those of the first stand in the order of the second. -/
theorem entries {ms os : List (String × Json)} (h : (Json.obj ms).Alike (.obj os)) :
    ∃ ps : List (String × Json × Json), ms.Perm (ps.map fun p => (p.1, p.2.1)) ∧ os = ps.map (fun p => (p.1, p.2.2)) ∧
      ∀ p ∈ ps, p.2.1.Alike p.2.2 := by
  cases h with
  | eq =>
    have hall : ∀ p ∈ ms.zip ms, p.1.2.Alike p.2.2 := by
      rw [zip_self, List.forall_mem_map]
      exact fun m _ => .eq m.2
    obtain ⟨ps, hms, hos, hps⟩ := exists_pairs rfl hall
    exact ⟨ps, hms ▸ .refl ms, hos, hps⟩
  | obj hperm hkeys hall =>
    obtain ⟨ps, rfl, hos, hps⟩ := exists_pairs hkeys hall
    exact ⟨ps, hperm, hos, hps⟩

/-- Alike objects have the same keys. -/
theorem keys_perm {ms os : List (String × Json)} (h : (Json.obj ms).Alike (.obj os)) :
    (ms.map (·.1)).Perm (os.map (·.1)) := by
  obtain ⟨ps, hperm, rfl, -⟩ := h.entries
  have hkeys := hperm.map (·.1)
  rw [List.map_map] at hkeys ⊢
  exact hkeys

/-- A key of alike objects has alike values, or none. -/
theorem find? {ms os : List (String × Json)} (h : (Json.obj ms).Alike (.obj os)) (hd : (ms.map (·.1)).Nodup)
    (key : String) : Members.find? key ms = none ∧ Members.find? key os = none ∨
      ∃ x y, Members.find? key ms = some x ∧ Members.find? key os = some y ∧ x.Alike y := by
  obtain ⟨ps, hperm, rfl, hps⟩ := h.entries
  rw [Members.find?_of_perm hperm hd, Members.find?_map Prod.fst, Members.find?_map Prod.snd]
  cases hp : Members.find? key ps with
  | none => exact .inl ⟨rfl, rfl⟩
  | some p => exact .inr ⟨p.1, p.2, rfl, rfl, hps _ (Members.mem_of_find? hp)⟩

/-- What a filter on the keys leaves of alike objects is alike. -/
theorem filter {ms os : List (String × Json)} (h : (Json.obj ms).Alike (.obj os)) (q : String → Bool) :
    (Json.obj (ms.filter fun m => q m.1)).Alike (.obj (os.filter fun m => q m.1)) := by
  obtain ⟨ps, hperm, rfl, hps⟩ := h.entries
  have hfilter : ∀ g : Json × Json → Json, (ps.map fun p => (p.1, g p.2)).filter (fun m => q m.1) =
      (ps.filter fun p => q p.1).map fun p => (p.1, g p.2) := fun g => by rw [List.filter_map]; rfl
  refine .obj (hperm.filter _) ?_ ?_
  · rw [hfilter Prod.fst, hfilter Prod.snd, List.map_map, List.map_map]
    rfl
  · rw [hfilter Prod.fst, hfilter Prod.snd, List.zip_map', List.forall_mem_map]
    exact fun p hp => hps p (List.mem_filter.1 hp).1

end Json.Alike

end LspWire
