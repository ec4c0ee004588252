import LspWire.Json.Basic

/-!
# Member lists

`Members.find?` gives the last value of a key and `Members.merge` keeps one member for each key, so the two agree
(`find?_merge`), a merged list has distinct keys (`nodup_merge`), and a list with distinct keys is its own merge
(`merge_of_nodup`). Merging commutes with a change of the values (`merge_map`).
-/

namespace LspWire.Members

variable {α β : Type}

/-! ## The last value of a key -/

/-- A later member of the same key wins. -/
theorem find?_cons (key : String) (m : String × α) (ms : List (String × α)) :
    find? key (m :: ms) = (find? key ms).or (if m.1 = key then some m.2 else none) := by
  obtain ⟨k, a⟩ := m
  simp only [find?]
  cases find? key ms <;> rfl

/-- A key is looked for in the second list first. -/
theorem find?_append (key : String) (ns : List (String × α)) : ∀ ms : List (String × α),
    find? key (ms ++ ns) = (find? key ns).or (find? key ms)
  | [] => by simp [find?]
  | m :: ms => by
    rw [List.cons_append, find?_cons, find?_cons, find?_append key ns ms]
    cases find? key ns <;> rfl

theorem find?_eq_none {key : String} : ∀ {ms : List (String × α)}, find? key ms = none ↔ ∀ m ∈ ms, m.1 ≠ key
  | [] => by simp [find?]
  | m :: ms => by
    rw [find?_cons, Option.or_eq_none_iff, find?_eq_none]
    by_cases h : m.1 = key <;> simp [h]

/-- What a key finds is a member. -/
theorem mem_of_find? {key : String} {a : α} : ∀ {ms : List (String × α)}, find? key ms = some a → (key, a) ∈ ms
  | [], h => by simp [find?] at h
  | m :: ms, h => by
    rw [find?_cons, Option.or_eq_some_iff] at h
    rcases h with h | ⟨-, h⟩
    · exact List.mem_cons_of_mem _ (mem_of_find? h)
    · split at h
      · next hk => cases h; subst hk; exact List.mem_cons_self
      · cases h

/-- Where keys are distinct, a member is what its key finds. -/
theorem find?_of_mem {key : String} {a : α} : ∀ {ms : List (String × α)}, (ms.map (·.1)).Nodup → (key, a) ∈ ms →
    find? key ms = some a
  | [], _, h => absurd h (by simp)
  | m :: ms, hd, h => by
    rw [List.map_cons, List.nodup_cons] at hd
    rw [find?_cons]
    rcases List.mem_cons.1 h with rfl | h
    · rw [find?_eq_none.2 fun n hn hk => hd.1 (List.mem_map.2 ⟨n, hn, hk⟩)]
      simp
    · rw [find?_of_mem hd.2 h]
      rfl

theorem find?_map (f : α → β) (key : String) : ∀ ms : List (String × α),
    find? key (ms.map fun m => (m.1, f m.2)) = (find? key ms).map f
  | [] => rfl
  | m :: ms => by
    rw [List.map_cons, find?_cons, find?_cons, find?_map f key ms]
    cases find? key ms with
    | some a => rfl
    | none => by_cases h : m.1 = key <;> simp [h]

theorem has_iff {key : String} {ms : List (String × α)} : has key ms = true ↔ ∃ m ∈ ms, m.1 = key := by
  simp [has]

/-! ## One member for each key -/

/-- A new key goes to the end. -/
theorem put_of_not_mem {key : String} (a : α) : ∀ {ms : List (String × α)}, key ∉ ms.map (·.1) →
    put key a ms = ms ++ [(key, a)]
  | [], _ => rfl
  | m :: ms, h => by
    simp only [List.map_cons, List.mem_cons, not_or] at h
    rw [put, if_neg fun e => h.1 e.symm, put_of_not_mem a h.2, List.cons_append]

theorem mem_keys_put {key k : String} (a : α) : ∀ {ms : List (String × α)},
    k ∈ (put key a ms).map (·.1) ↔ k = key ∨ k ∈ ms.map (·.1)
  | [] => by simp [put]
  | m :: ms => by
    rw [put]
    split
    · next h => subst h; simp
    · rw [List.map_cons, List.map_cons, List.mem_cons, List.mem_cons, mem_keys_put a, or_left_comm]

theorem nodup_put {key : String} (a : α) : ∀ {ms : List (String × α)}, (ms.map (·.1)).Nodup →
    ((put key a ms).map (·.1)).Nodup
  | [], _ => by simp [put]
  | m :: ms, h => by
    rw [put]
    split
    · next hk => subst hk; simpa using h
    · next hk =>
      rw [List.map_cons, List.nodup_cons] at h ⊢
      exact ⟨fun hm => ((mem_keys_put a).1 hm).elim hk h.1, nodup_put a h.2⟩

theorem mem_put {key : String} {a : α} {n : String × α} : ∀ {ms : List (String × α)}, n ∈ put key a ms →
    n = (key, a) ∨ n ∈ ms
  | [], h => .inl (by simpa [put] using h)
  | m :: ms, h => by
    rw [put] at h
    split at h
    · next hk =>
      subst hk
      rcases List.mem_cons.1 h with h | h
      · exact .inl h
      · exact .inr (List.mem_cons_of_mem _ h)
    · rcases List.mem_cons.1 h with rfl | h
      · exact .inr List.mem_cons_self
      · exact (mem_put h).imp_right (List.mem_cons_of_mem _)

/-- In a list with distinct keys, putting a member changes what its own key finds and no other. -/
theorem find?_put (key k : String) (a : α) : ∀ {ms : List (String × α)}, (ms.map (·.1)).Nodup →
    find? k (put key a ms) = if key = k then some a else find? k ms
  | [], _ => by simp [put, find?]
  | m :: ms, hd => by
    rw [List.map_cons, List.nodup_cons] at hd
    rw [put]
    split
    · next hm =>
      subst hm
      rw [find?_cons, find?_cons]
      by_cases hk : m.1 = k
      · subst hk
        rw [find?_eq_none.2 fun n hn hk => hd.1 (List.mem_map.2 ⟨n, hn, hk⟩)]
        simp
      · simp [hk]
    · next hm =>
      rw [find?_cons, find?_cons, find?_put key k a hd.2]
      by_cases hk : key = k
      · subst hk; simp
      · simp [hk]

theorem put_map (f : α → β) (key : String) (a : α) : ∀ ms : List (String × α),
    put key (f a) (ms.map fun m => (m.1, f m.2)) = (put key a ms).map fun m => (m.1, f m.2)
  | [] => rfl
  | m :: ms => by
    rw [List.map_cons, put, put]
    split
    · rfl
    · rw [put_map f key a ms, List.map_cons]

section Merge

variable (ms : List (String × α))

/-- What merging does from a list that is merged already. -/
def mergeOnto (acc ms : List (String × α)) : List (String × α) := ms.foldl (fun acc m => put m.1 m.2 acc) acc

theorem nodup_mergeOnto : ∀ {acc : List (String × α)} (ms : List (String × α)), (acc.map (·.1)).Nodup →
    ((mergeOnto acc ms).map (·.1)).Nodup
  | _, [], h => h
  | _, m :: ms, h => nodup_mergeOnto ms (nodup_put m.2 h)

/-- A member of a merge is one of the two lists. -/
theorem mem_mergeOnto {n : String × α} : ∀ {acc ms : List (String × α)}, n ∈ mergeOnto acc ms → n ∈ acc ∨ n ∈ ms
  | _, [], h => .inl h
  | _, m :: ms, h => by
    have h : n ∈ mergeOnto (put m.1 m.2 _) ms := h
    rcases mem_mergeOnto h with h | h
    · rcases mem_put h with rfl | h
      · exact .inr List.mem_cons_self
      · exact .inl h
    · exact .inr (List.mem_cons_of_mem _ h)

/-- A key finds in the merge what it finds in the members that are put, or else what it found before. -/
theorem find?_mergeOnto (key : String) : ∀ {acc : List (String × α)} (ms : List (String × α)),
    (acc.map (·.1)).Nodup → find? key (mergeOnto acc ms) = (find? key ms).or (find? key acc)
  | _, [], _ => by simp [mergeOnto, find?]
  | acc, m :: ms, h => by
    show find? key (mergeOnto (put m.1 m.2 acc) ms) = _
    rw [find?_mergeOnto key ms (nodup_put m.2 h), find?_put _ _ _ h, find?_cons]
    cases find? key ms with
    | some a => rfl
    | none => by_cases hk : m.1 = key <;> simp [hk]

theorem mergeOnto_of_nodup : ∀ {acc ms : List (String × α)}, ((acc ++ ms).map (·.1)).Nodup →
    mergeOnto acc ms = acc ++ ms
  | acc, [], _ => (List.append_nil acc).symm
  | acc, m :: ms, h => by
    have hm : m.1 ∉ acc.map (·.1) := fun hm => by
      rw [List.map_append, List.nodup_append] at h
      exact h.2.2 _ hm _ (by simp) rfl
    show mergeOnto (put m.1 m.2 acc) ms = _
    rw [put_of_not_mem _ hm, mergeOnto_of_nodup (by simpa using h)]
    simp

theorem mergeOnto_map (f : α → β) : ∀ acc ms : List (String × α),
    mergeOnto (acc.map fun m => (m.1, f m.2)) (ms.map fun m => (m.1, f m.2)) =
      (mergeOnto acc ms).map fun m => (m.1, f m.2)
  | _, [] => rfl
  | acc, m :: ms => by
    show mergeOnto (put m.1 (f m.2) (acc.map fun m => (m.1, f m.2))) (ms.map fun m => (m.1, f m.2)) = _
    rw [put_map]
    exact mergeOnto_map f _ ms

theorem merge_eq_mergeOnto : merge ms = mergeOnto [] ms := rfl

/-- A merged list has distinct keys. -/
theorem nodup_merge : ((merge ms).map (·.1)).Nodup := by
  rw [merge_eq_mergeOnto]
  exact nodup_mergeOnto ms (by simp)

variable {ms}

/-- A member of a merged list is one of the list. -/
theorem mem_of_mem_merge {n : String × α} (h : n ∈ merge ms) : n ∈ ms := by
  rw [merge_eq_mergeOnto] at h
  exact (mem_mergeOnto h).resolve_left (by simp)

/-- A key finds the same value after merging. -/
@[simp] theorem find?_merge (key : String) (ms : List (String × α)) : find? key (merge ms) = find? key ms := by
  rw [merge_eq_mergeOnto, find?_mergeOnto key ms (by simp)]
  simp [find?]

/-- Where keys are distinct there is nothing to merge. -/
theorem merge_of_nodup (h : (ms.map (·.1)).Nodup) : merge ms = ms := by
  rw [merge_eq_mergeOnto]
  exact mergeOnto_of_nodup h

@[simp] theorem merge_merge (ms : List (String × α)) : merge (merge ms) = merge ms := merge_of_nodup (nodup_merge ms)

/-- Merging looks at keys only. -/
theorem merge_map (f : α → β) (ms : List (String × α)) :
    merge (ms.map fun m => (m.1, f m.2)) = (merge ms).map fun m => (m.1, f m.2) := mergeOnto_map f [] ms

end Merge

end LspWire.Members
