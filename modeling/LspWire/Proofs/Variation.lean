import LspWire.Proofs.Issues
import LspWire.Proofs.Separation

/-!
# Variations of data

`Varies idle t d d'`: `d'` is `d` with members dropped and inserted at any depth, at any places. A member may be so if
it is `idle` for the class of the record that its object becomes. Which objects become records, and of which class, is
told by reading `d` at `t`: the relation goes into the arm that reads the value, and a value that no type describes
stays as it is. Members that stay keep their order, and vary at the type of the field that reads them.

A variation has the form of the value (`Varies.sameForm`), so one of a value without parts is that value.
-/

namespace LspWire

open Schema

/-! ## Aligned members -/

/-- `ks` are the members that two objects have in common, with both values; all others are idle. -/
structure Aligned (idle : String × Json → Prop) (ks : List (String × Json × Json)) (ms ms' : List (String × Json)) :
    Prop where
  left : (ks.map fun p => (p.1, p.2.1)).Sublist ms
  right : (ks.map fun p => (p.1, p.2.2)).Sublist ms'
  dropped : ∀ m ∈ ms, m.1 ∉ ks.map (·.1) → idle m
  inserted : ∀ m ∈ ms', m.1 ∉ ks.map (·.1) → idle m

/-- What a sublist leaves out is left out by a filter that its keys decide. -/
theorem filter_eq_of_sublist {α : Type} {p : String × α → Bool} {ks ms : List (String × α)} (h : ks.Sublist ms) :
    (ms.map (·.1)).Nodup → (∀ m ∈ ms, m.1 ∉ ks.map (·.1) → p m = false) → ms.filter p = ks.filter p := by
  induction h with
  | slnil => exact fun _ _ => rfl
  | @cons ks ms m hsub ih =>
    intro hd hp
    rw [List.map_cons, List.nodup_cons] at hd
    rw [List.forall_mem_cons] at hp
    have hm : p m = false := hp.1 fun hk => hd.1 ((hsub.map _).subset hk)
    rw [List.filter_cons_of_neg (by simp [hm]), ih hd.2 hp.2]
  | @cons_cons ks ms m hsub ih =>
    intro hd hp
    rw [List.map_cons, List.nodup_cons] at hd
    rw [List.forall_mem_cons] at hp
    rw [List.filter_cons, List.filter_cons, ih hd.2 fun n hn hk => hp.2 n hn fun hmem => ?_]
    rcases List.mem_cons.1 (List.map_cons ▸ hmem) with he | hmem
    · exact hd.1 (he ▸ List.mem_map_of_mem hn)
    · exact hk hmem

namespace Aligned

variable {idle : String × Json → Prop} {ks : List (String × Json × Json)} {ms ms' : List (String × Json)}

theorem mono {idle' : String × Json → Prop} (hi : ∀ m, idle m → idle' m) (h : Aligned idle ks ms ms') :
    Aligned idle' ks ms ms' :=
  ⟨h.left, h.right, fun m hm hk => hi m (h.dropped m hm hk), fun m hm hk => hi m (h.inserted m hm hk)⟩

theorem mem_left (h : Aligned idle ks ms ms') {p : String × Json × Json} (hp : p ∈ ks) : (p.1, p.2.1) ∈ ms :=
  h.left.subset (List.mem_map_of_mem (f := fun p : String × Json × Json => (p.1, p.2.1)) hp)

theorem mem_right (h : Aligned idle ks ms ms') {p : String × Json × Json} (hp : p ∈ ks) : (p.1, p.2.2) ∈ ms' :=
  h.right.subset (List.mem_map_of_mem (f := fun p : String × Json × Json => (p.1, p.2.2)) hp)

/-- A key stays, with a value on both sides, or is idle with every value that it has. -/
theorem lookup (h : Aligned idle ks ms ms') (hd : (ms.map (·.1)).Nodup) (hd' : (ms'.map (·.1)).Nodup) (k : String) :
    (∃ x x', (k, x, x') ∈ ks ∧ Members.find? k ms = some x ∧ Members.find? k ms' = some x') ∨
      ∀ x, Members.find? k ms = some x ∨ Members.find? k ms' = some x → idle (k, x) := by
  by_cases hk : k ∈ ks.map (·.1)
  · obtain ⟨⟨_, x, x'⟩, hp, rfl⟩ := List.mem_map.1 hk
    exact .inl ⟨x, x', hp, Members.find?_of_mem hd (h.mem_left hp), Members.find?_of_mem hd' (h.mem_right hp)⟩
  · refine .inr fun x hx => ?_
    rcases hx with hx | hx
    · exact h.dropped (k, x) (Members.mem_of_find? hx) hk
    · exact h.inserted (k, x) (Members.mem_of_find? hx) hk

/-- A key that is idle with no value is there on both sides or on none. -/
theorem mem_keys_iff (h : Aligned idle ks ms ms') {k : String} (hk : ∀ x, ¬ idle (k, x)) :
    (∃ m ∈ ms, m.1 = k) ↔ ∃ m ∈ ms', m.1 = k := by
  constructor
  · rintro ⟨⟨_, x⟩, hm, rfl⟩
    have hkept := Classical.byContradiction fun hn => hk x (h.dropped _ hm hn)
    obtain ⟨p, hp, he⟩ := List.mem_map.1 hkept
    exact ⟨_, h.mem_right hp, he⟩
  · rintro ⟨⟨_, x⟩, hm, rfl⟩
    have hkept := Classical.byContradiction fun hn => hk x (h.inserted _ hm hn)
    obtain ⟨p, hp, he⟩ := List.mem_map.1 hkept
    exact ⟨_, h.mem_left hp, he⟩

/-- A filter that passes nothing idle passes the same members, if it passes no member whose value varies. -/
theorem filter_eq (h : Aligned idle ks ms ms') (hd : (ms.map (·.1)).Nodup) (hd' : (ms'.map (·.1)).Nodup)
    {p : String → Bool} (hidle : ∀ m, idle m → p m.1 = false) (hsame : ∀ q ∈ ks, p q.1 = true → q.2.1 = q.2.2) :
    ms.filter (fun m => p m.1) = ms'.filter fun m => p m.1 := by
  have hkeys : ∀ f : Json × Json → Json, (ks.map fun q => (q.1, f q.2)).map (·.1) = ks.map (·.1) := fun f => by
    rw [List.map_map]
    rfl
  rw [filter_eq_of_sublist h.left hd fun m hm hk => hidle m (h.dropped m hm (hkeys Prod.fst ▸ hk)),
    filter_eq_of_sublist h.right hd' fun m hm hk => hidle m (h.inserted m hm (hkeys Prod.snd ▸ hk)),
    List.filter_map, List.filter_map]
  refine List.map_congr_left fun q hq => ?_
  obtain ⟨hq, hp⟩ := List.mem_filter.1 hq
  rw [hsame q hq hp]

end Aligned

/-! ## Variations -/

/-- `Becomes t ms held c`: at `t` the object of `ms` becomes a record of class `c`. It is `held` if registration keys
    decide its class. -/
inductive Becomes : Ty → List (String × Json) → Bool → Class → Prop
  | record (c : Class) (ms : List (String × Json)) : Becomes (.record c) ms false c
  | registered {b : Bool} {p r : Class} {ms : List (String × Json)} : isRegistration ms = true →
      Becomes (.provider b p r) ms true r
  | plain {b : Bool} {p r : Class} {ms : List (String × Json)} : isRegistration ms = false →
      Becomes (.provider b p r) ms true p

/-- `Varies idle t j j'`: where `j` is read at `t`, `j'` is `j` with idle members dropped and inserted in the objects
    that become records. -/
inductive Varies (idle : Bool → Class → String × Json → Prop) : Ty → Json → Json → Prop
  | same (t : Ty) (j : Json) : Varies idle t j j
  | list {t : Ty} {ps : List (Json × Json)} : (∀ p ∈ ps, Varies idle t p.1 p.2) →
      Varies idle (.list t) (.arr (ps.map (·.1))) (.arr (ps.map (·.2)))
  | pair {a b : Ty} {x y x' y' : Json} : Varies idle a x x' → Varies idle b y y' →
      Varies idle (.pair a b) (.arr [x, y]) (.arr [x', y'])
  | map {keys : KeyKind} {t : Ty} {ps : List (String × Json × Json)} : (∀ p ∈ ps, Varies idle t p.2.1 p.2.2) →
      Varies idle (.map keys t) (.obj (ps.map fun p => (p.1, p.2.1))) (.obj (ps.map fun p => (p.1, p.2.2)))
  | object {t : Ty} {held : Bool} {c : Class} {ks : List (String × Json × Json)} {ms ms' : List (String × Json)} :
      Becomes t ms held c → Aligned (idle held c) ks ms ms' →
      (∀ p ∈ ks, ∀ f ∈ (recordOf c).fields, findField? f ms = some (p.1, p.2.1) → Varies idle f.ty p.2.1 p.2.2) →
      (∀ p ∈ ks, (∀ f ∈ (recordOf c).fields, findField? f ms ≠ some (p.1, p.2.1)) → p.2.1 = p.2.2) →
      Varies idle t (.obj ms) (.obj ms')
  | optional {t : Ty} {j j' : Json} : j ≠ .null → Varies idle t j j' → Varies idle (.optional t) j j'
  | switch {on : Value} {t : Ty} {j j' : Json} : j ≠ .null → (∀ b, j ≠ .bool b) → Varies idle t j j' →
      Varies idle (.switch on t) j j'
  | oneOf {pre post : List Ty} {t : Ty} {j j' : Json} : (∀ a ∈ pre, Refused a j) → ¬ Refused t j →
      Varies idle t j j' → Varies idle (.oneOf (pre ++ t :: post)) j j'
  | tagged {key tag : String} {arms : List (String × Ty)} {t : Ty} {ms : List (String × Json)} {j' : Json} :
      Members.find? key ms = some (.str tag) → arms.lookup tag = some t → Varies idle t (.obj ms) j' →
      Varies idle (.tagged key arms) (.obj ms) j'

namespace Varies

variable {idle : Bool → Class → String × Json → Prop} {t : Ty} {j j' : Json}

theorem mono {idle' : Bool → Class → String × Json → Prop} (hi : ∀ held c m, idle held c m → idle' held c m)
    (h : Varies idle t j j') : Varies idle' t j j' := by
  induction h with
  | same t j => exact .same t j
  | list _ ih => exact .list ih
  | pair _ _ iha ihb => exact .pair iha ihb
  | map _ ih => exact .map ih
  | object hbecomes hks _ hunread ih => exact .object hbecomes (hks.mono (hi _ _)) ih hunread
  | optional hj _ ih => exact .optional hj ih
  | switch hj hb _ ih => exact .switch hj hb ih
  | oneOf hpre ht _ ih => exact .oneOf hpre ht ih
  | tagged htag hm _ ih => exact .tagged htag hm ih

/-- A variation is the value itself, or both are arrays, or both are objects. -/
theorem sameForm (h : Varies idle t j j') : j.SameForm j' := by
  induction h with
  | same => exact .eq _
  | list | pair => exact .arr _ _
  | map | object => exact .obj _ _
  | optional _ _ ih | switch _ _ _ ih | oneOf _ _ _ ih | tagged _ _ _ ih => exact ih

/-- What a variation of an object keeps of a key that is idle with no text: the text that it has. -/
theorem find?_str_iff (h : Varies idle t j j') {key s : String} (hidle : ∀ held c, ¬ idle held c (key, .str s)) :
    ∀ {ms ms' : List (String × Json)}, j = .obj ms → j' = .obj ms' → (ms.map (·.1)).Nodup → (ms'.map (·.1)).Nodup →
      (Members.find? key ms = some (.str s) ↔ Members.find? key ms' = some (.str s)) := by
  induction h with
  | same =>
    rintro ms ms' rfl hms' - -
    cases hms'
    rfl
  | list | pair =>
    intro _ _ hms
    cases hms
  | @map keys t ps hps _ =>
    rintro _ _ ⟨⟩ ⟨⟩ - -
    -- the keys stand at the same places, so each lookup finds both values of one entry
    rw [Members.find?_map (α := Json × Json) Prod.fst, Members.find?_map (α := Json × Json) Prod.snd]
    cases hp : Members.find? key ps with
    | none => rfl
    | some p =>
      rw [Option.map_some, Option.map_some, Option.some.injEq, Option.some.injEq]
      exact (hps _ (Members.mem_of_find? hp)).sameForm.eq_str_iff s
  | @object t held c ks ms ms' _ hks hread hunread _ =>
    rintro _ _ ⟨⟩ ⟨⟩ hd hd'
    rcases hks.lookup hd hd' key with ⟨x, x', hp, hx, hx'⟩ | hidle'
    · rw [hx, hx', Option.some.injEq, Option.some.injEq]
      by_cases hfield : ∃ f ∈ (recordOf c).fields, findField? f ms = some (key, x)
      · obtain ⟨f, hf, hfind⟩ := hfield
        exact (hread _ hp f hf hfind).sameForm.eq_str_iff s
      · have hsame : x = x' := hunread _ hp fun f hf hfind => hfield ⟨f, hf, hfind⟩
        rw [hsame]
    · exact iff_of_false (fun hx => hidle _ _ (hidle' _ (.inl hx))) fun hx => hidle _ _ (hidle' _ (.inr hx))
  | optional _ _ ih | switch _ _ _ ih | oneOf _ _ _ ih | tagged _ _ _ ih => exact ih

end Varies

end LspWire
