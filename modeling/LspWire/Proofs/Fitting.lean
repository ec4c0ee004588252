import LspWire.Codec.View
import LspWire.Proofs.Library

/-!
# Decoded values fit their types

A value is fitted to a declared type before it is written. A value that was read at a type fits it exactly and is not
changed (`Reads.fitted`), so it is written as it writes itself (`encodeAs_eq_encode`). At a union the first arm that the
value fits exactly may be another one than it was read at; that is why an exact fit has to change nothing at any type
(`fitted_exact`), which holds of values whose records are complete (`Value.Whole`).
-/

namespace LspWire

open Schema

/-! ## An exact fit changes nothing -/

namespace Json

mutual

theorem fitted_exact {t : Ty} {j k : Json} (h : j.fitted .exact t = some k) : k = j := by
  unfold fitted at h
  split at h
  -- a value with parts is rebuilt from what its parts are; any other is kept or refused
  case h_14 t items =>
    obtain ⟨ks, hks, rfl⟩ := Option.map_eq_some_iff.1 h
    rw [fittedItems_exact hks]
  case h_15 t ms =>
    obtain ⟨ks, hks, rfl⟩ := Option.map_eq_some_iff.1 h
    rw [fittedMembers_exact hks]
  case h_16 t ms =>
    split at h
    · obtain ⟨ks, hks, rfl⟩ := Option.map_eq_some_iff.1 h
      rw [fittedMembers_exact hks]
    · cases h
  case h_18 t _ | h_20 t _ => exact fitted_exact h
  case h_21 arms =>
    unfold Fit.choose at h
    split at h
    · next hk => cases h; exact fittedFirst_exact hk
    · cases h
  all_goals
    simp only [Fit.derive, Fit.missed, Fit.keepIf, reduceCtorEq, Option.ite_none_right_eq_some,
      Option.some.injEq] at h
  all_goals first | exact h.symm | exact h.2.symm
termination_by (sizeOf j, sizeOf t)

theorem fittedItems_exact {t : Ty} {items ks : List Json} (h : fittedItems .exact t items = some ks) : ks = items := by
  unfold fittedItems at h
  split at h
  · cases h; rfl
  · split at h
    · next hk hks => cases h; rw [fitted_exact hk, fittedItems_exact hks]
    · cases h
termination_by (sizeOf items, sizeOf t)

theorem fittedMembers_exact {t : Ty} {ms ks : List (String × Json)} (h : fittedMembers .exact t ms = some ks) :
    ks = ms := by
  unfold fittedMembers at h
  split at h
  · cases h; rfl
  · split at h
    · next hk hks => cases h; rw [fitted_exact hk, fittedMembers_exact hks]
    · cases h
termination_by (sizeOf ms, sizeOf t)

theorem fittedFirst_exact {arms : List Ty} {j k : Json} (h : fittedFirst .exact arms j = some k) : k = j := by
  unfold fittedFirst at h
  split at h
  · cases h
  · split at h
    · next hk => cases h; exact fitted_exact hk
    · exact fittedFirst_exact h
termination_by (sizeOf j, sizeOf arms)

end

end Json

namespace Value

/-- Whether a value has no parts. -/
def isLeaf : Value → Bool
  | .list _ | .pair .. | .map .. | .record .. => false
  | _ => true

/-- A value whose records have declared fields only, and members besides only if their class keeps such. -/
inductive Whole : Value → Prop
  | leaf {v : Value} : v.isLeaf = true → Whole v
  | list {vs : List Value} : (∀ v ∈ vs, Whole v) → Whole (.list vs)
  | pair {v w : Value} : Whole v → Whole w → Whole (.pair v w)
  | map {keys : KeyKind} {es : List (String × Value)} : (∀ e ∈ es, Whole e.2) → Whole (.map keys es)
  | record {c : Class} {fs : List (String × Value)} {extra : List (String × Json)} :
      (∀ p ∈ fs, ∃ f ∈ (recordOf c).fields, f.name = p.1) → (∀ p ∈ fs, Whole p.2) →
      ((recordOf c).keepsExtra = false → extra = []) → Whole (.record c fs extra)

theorem fittedInteger_exact {v w : Value} (h : fittedInteger .exact v = some w) : w = v := by
  unfold fittedInteger at h
  split at h <;> simp only [Fit.derive, Fit.missed, reduceCtorEq, Option.some.injEq] at h
  exact h.symm

theorem choose_exact {x y : Option Value} {v w : Value} (h : Fit.exact.choose x y v = some w) : x = some w := by
  unfold Fit.choose at h
  split at h
  · exact h
  · cases h

mutual

theorem fitted_exact {t : Ty} {v w : Value} (hv : v.Whole) (h : fitted .exact t v = some w) : w = v := by
  unfold fitted at h
  split at h
  case h_2 j _ =>
    obtain ⟨k, hk, rfl⟩ := Option.map_eq_some_iff.1 h
    rw [Json.fitted_exact hk]
  case h_5 | h_6 => exact fittedInteger_exact h
  case h_21 t vs =>
    obtain ⟨ws, hws, rfl⟩ := Option.map_eq_some_iff.1 h
    cases hv with
    | leaf hv => cases hv
    | list hv => rw [fittedItems_exact hv hws]
  case h_22 a b x y =>
    cases hv with
    | leaf hv => cases hv
    | pair hx hy =>
      split at h
      · next hx' hy' => cases h; rw [fitted_exact hx hx', fitted_exact hy hy']
      · cases h
  case h_23 keys t kind es =>
    cases hv with
    | leaf hv => cases hv
    | map hv =>
      split at h
      · obtain ⟨fs, hfs, rfl⟩ := Option.map_eq_some_iff.1 h
        rw [fittedEntries_exact hv hfs]
      · cases h
  case h_24 b c fs extra => exact fittedRecord_exact hv h
  case h_26 t _ _ | h_28 t _ _ => exact fitted_exact hv h
  case h_29 arms _ => exact fittedFirst_exact hv (choose_exact h)
  case h_30 arms _ => exact fittedArm_exact hv (choose_exact h)
  case h_32 p r c fs extra =>
    simp only at h
    split at h
    all_goals
      rcases Option.or_eq_some_iff.1 (choose_exact h) with h | ⟨-, h⟩
      · exact fittedRecord_exact hv h
      · exact fittedRecord_exact hv h
  all_goals
    simp only [Fit.derive, Fit.missed, Fit.keepIf, reduceCtorEq, Option.ite_none_right_eq_some,
      Option.some.injEq] at h
  all_goals first | exact h.symm | exact h.2.symm
termination_by (sizeOf v, sizeOf t)
decreasing_by all_goals subst_vars; decreasing_tactic

theorem fittedRecord_exact {b : Class} {v w : Value} (hv : v.Whole) (h : fittedRecord .exact b v = some w) : w = v := by
  unfold fittedRecord at h
  split at h
  · next c fs extra =>
    simp only [admits, beq_iff_eq] at h
    split at h
    · next hc =>
      subst hc
      obtain ⟨ws, hws, rfl⟩ := Option.map_eq_some_iff.1 h
      cases hv with
      | leaf hv => cases hv
      | record hdecl hv hextra =>
        rw [fittedFields_exact hdecl hv hws]
        by_cases hx : (recordOf c).keepsExtra = true
        · rw [if_pos hx]
        · rw [if_neg hx, hextra (by simpa using hx)]
    · cases h
  · cases h
termination_by (sizeOf v, 0)

theorem fittedFields_exact {fields : List Field} {fs ws : List (String × Value)}
    (hdecl : ∀ p ∈ fs, ∃ f ∈ fields, f.name = p.1) (hv : ∀ p ∈ fs, p.2.Whole)
    (h : fittedFields .exact fields fs = some ws) : ws = fs := by
  unfold fittedFields at h
  split at h
  · cases h; rfl
  · next name v fs =>
    rw [List.forall_mem_cons] at hdecl hv
    split at h
    · next hn =>
      obtain ⟨f, hf, hname⟩ := hdecl.1
      exact absurd hname (by simpa using List.find?_eq_none.1 hn f hf)
    · split at h
      · next hw hws => cases h; rw [fitted_exact hv.1 hw, fittedFields_exact hdecl.2 hv.2 hws]
      · cases h
termination_by (sizeOf fs, 0)

theorem fittedItems_exact {t : Ty} {vs ws : List Value} (hv : ∀ v ∈ vs, v.Whole)
    (h : fittedItems .exact t vs = some ws) : ws = vs := by
  unfold fittedItems at h
  split at h
  · cases h; rfl
  · rw [List.forall_mem_cons] at hv
    split at h
    · next hw hws => cases h; rw [fitted_exact hv.1 hw, fittedItems_exact hv.2 hws]
    · cases h
termination_by (sizeOf vs, sizeOf t)

theorem fittedEntries_exact {t : Ty} {es ws : List (String × Value)} (hv : ∀ e ∈ es, e.2.Whole)
    (h : fittedEntries .exact t es = some ws) : ws = es := by
  unfold fittedEntries at h
  split at h
  · cases h; rfl
  · rw [List.forall_mem_cons] at hv
    split at h
    · next hw hws => cases h; rw [fitted_exact hv.1 hw, fittedEntries_exact hv.2 hws]
    · cases h
termination_by (sizeOf es, sizeOf t)

theorem fittedFirst_exact {arms : List Ty} {v w : Value} (hv : v.Whole) (h : fittedFirst .exact arms v = some w) :
    w = v := by
  unfold fittedFirst at h
  split at h
  · cases h
  · split at h
    · next hw => cases h; exact fitted_exact hv hw
    · exact fittedFirst_exact hv h
termination_by (sizeOf v, sizeOf arms)

theorem fittedArm_exact {arms : List (String × Ty)} {v w : Value} (hv : v.Whole)
    (h : fittedArm .exact arms v = some w) : w = v := by
  unfold fittedArm at h
  split at h
  · cases h
  · split at h
    · next hw => cases h; exact fitted_exact hv hw
    · exact fittedArm_exact hv h
termination_by (sizeOf v, sizeOf arms)

end

/-! ## Fitting part by part -/

section Parts

variable {fit : Fit} {t : Ty} {v : Value}

/-- A value that no type describes is fitted as JSON at every type. -/
theorem fitted_untyped (j : Json) : fitted fit t (.untyped j) = (j.fitted fit t).map .untyped := by
  cases t <;> rw [fitted]
  · rw [Json.fitted]; rfl
  all_goals simp

theorem fittedItems_eq : ∀ {vs : List Value}, (∀ v ∈ vs, fitted fit t v = some v) → fittedItems fit t vs = some vs
  | [], _ => by rw [fittedItems]
  | v :: vs, h => by
    rw [List.forall_mem_cons] at h
    rw [fittedItems, h.1, fittedItems_eq h.2]

theorem fittedEntries_eq : ∀ {es : List (String × Value)}, (∀ e ∈ es, fitted fit t e.2 = some e.2) →
    fittedEntries fit t es = some es
  | [], _ => by rw [fittedEntries]
  | (k, v) :: es, h => by
    rw [List.forall_mem_cons] at h
    rw [fittedEntries, h.1, fittedEntries_eq h.2]

theorem fittedFields_eq {c : Class} {g : Field → Value} : ∀ {fields : List Field},
    (∀ f ∈ fields, f ∈ (recordOf c).fields ∧ fitted fit f.ty (g f) = some (g f)) →
      fittedFields fit (recordOf c).fields (fields.map fun f => (f.name, g f)) =
        some (fields.map fun f => (f.name, g f))
  | [], _ => by rw [List.map_nil, fittedFields]
  | f :: fields, h => by
    rw [List.forall_mem_cons] at h
    rw [List.map_cons, fittedFields, find_name h.1.1]
    simp only [h.1.2, fittedFields_eq h.2]

/-- A record fits its class if its fields fit. -/
theorem fittedRecord_eq {c : Class} {g : Field → Value} {extra : List (String × Json)}
    (hg : ∀ f ∈ (recordOf c).fields, fitted fit f.ty (g f) = some (g f))
    (hx : (recordOf c).keepsExtra = false → extra = []) :
    fittedRecord fit c (.record c ((recordOf c).fields.map fun f => (f.name, g f)) extra) =
      some (.record c ((recordOf c).fields.map fun f => (f.name, g f)) extra) := by
  have hadmits : admits fit c c = true := by cases fit <;> simp [admits]
  rw [fittedRecord, if_pos hadmits, fittedFields_eq fun f hf => ⟨hf, hg f hf⟩]
  by_cases hk : (recordOf c).keepsExtra = true
  · simp [hk]
  · simp [hk, hx (by simpa using hk)]

theorem choose_self {x y : Option Value} (h : x = some v) : fit.choose x y v = some v := by
  rw [h, Fit.choose]

/-- Where nothing else fits exactly, the first arm that fits gives the value. -/
theorem fittedFirst_self {arms : List Ty} (hv : v.Whole) (ht : t ∈ arms) (h : fitted .exact t v = some v) :
    fittedFirst .exact arms v = some v := by
  have hsome : ∀ {arms : List Ty}, t ∈ arms → (fittedFirst .exact arms v).isSome = true := by
    intro arms
    induction arms with
    | nil => exact fun ht => absurd ht List.not_mem_nil
    | cons a arms ih =>
      intro ht
      rw [fittedFirst]
      split
      · rfl
      · next hn =>
        rcases List.mem_cons.1 ht with rfl | ht
        · rw [hn] at h; cases h
        · exact ih ht
  obtain ⟨w, hw⟩ := Option.isSome_iff_exists.1 (hsome ht)
  rw [hw, fittedFirst_exact hv hw]

/-- Tagged arms are tried in order, as others are. -/
theorem fittedArm_eq : ∀ arms : List (String × Ty), fittedArm fit arms v = fittedFirst fit (arms.map (·.2)) v
  | [] => by rw [fittedArm, List.map_nil, fittedFirst]
  | (tag, t) :: arms => by
    rw [fittedArm, List.map_cons, fittedFirst, fittedArm_eq arms]

theorem fittedFirst_untyped (j : Json) : ∀ arms : List Ty,
    fittedFirst fit arms (.untyped j) = (Json.fittedFirst fit arms j).map .untyped
  | [] => by rw [fittedFirst, Json.fittedFirst]; rfl
  | t :: arms => by
    rw [fittedFirst, Json.fittedFirst, fitted_untyped, fittedFirst_untyped j arms]
    cases j.fitted fit t <;> rfl

theorem fitted_oneOf_self {arms : List Ty} (hv : v.Whole) (ht : t ∈ arms) (h : fitted .exact t v = some v) :
    fitted fit (.oneOf arms) v = some v := by
  have hfirst := fittedFirst_self hv ht h
  by_cases hu : ∃ j, v = .untyped j
  · obtain ⟨j, rfl⟩ := hu
    rw [fittedFirst_untyped] at hfirst
    obtain ⟨k, hk, hkj⟩ := Option.map_eq_some_iff.1 hfirst
    cases hkj
    rw [fitted_untyped, Json.fitted, hk, Fit.choose]
    rfl
  · rw [fitted, choose_self hfirst]
    exact fun j hj => hu ⟨j, hj⟩

theorem fitted_optional_self (h : fitted fit t v = some v) : fitted fit (.optional t) v = some v := by
  by_cases hu : ∃ j, v = .untyped j
  · obtain ⟨j, rfl⟩ := hu
    rw [fitted_untyped] at h ⊢
    by_cases hj : j = .null
    · subst hj; rw [Json.fitted]; rfl
    · rwa [Json.fitted]
      exact hj
  by_cases hn : v = .null
  · subst hn; rw [fitted]
  · rwa [fitted]
    · exact fun j hj => hu ⟨j, hj⟩
    · exact hn

/-- A switch is fitted as an optional type. -/
theorem fitted_switch (on : Value) : fitted fit (.switch on t) v = fitted fit (.optional t) v := by
  cases v with
  | untyped j => cases j <;> simp only [fitted, Json.fitted]
  | _ => simp only [fitted]

theorem or_self {x y : Option Value} (hx : ∀ w, x = some w → w = v) (h : x = some v ∨ y = some v) :
    x.or y = some v := by
  cases x with
  | none => simpa using h
  | some w => rw [hx w rfl]; rfl

/-- A record that fits one of the classes of a provider exactly fits the provider, in whichever order they are tried. -/
theorem fitted_provider_self {b : Bool} {p r c : Class} {fs : List (String × Value)} {extra : List (String × Json)}
    (hv : (Value.record c fs extra).Whole)
    (h : fitted .exact (.record p) (.record c fs extra) = some (.record c fs extra) ∨
      fitted .exact (.record r) (.record c fs extra) = some (.record c fs extra)) :
    fitted fit (.provider b p r) (.record c fs extra) = some (.record c fs extra) := by
  simp only [fitted] at h ⊢
  split
  · exact choose_self (or_self (fun w hw => fittedRecord_exact hv hw) h.symm)
  · exact choose_self (or_self (fun w hw => fittedRecord_exact hv hw) h)

end Parts

end Value

/-! ## What was read fits -/

/-- What stands for an absent field fits the field. -/
theorem Field.fitted_absent {f : Field} {v : Value} (hf : f.defaultFits = true) (h : f.absent = some v) (fit : Fit) :
    v.fitted fit f.ty = some v := by
  rcases absent_cases hf h with ⟨rfl, t, ht⟩ | ⟨rfl, on, t, ht⟩ | ⟨s, rfl, ht⟩
  · rw [ht, Value.fitted]
  · rw [ht, Value.fitted]
  · rw [ht, Value.fitted, Fit.keepIf, if_pos (beq_self_eq_true s)]

theorem ReadsScalar.isLeaf {source : Source} {t : Ty} {j : Json} {v : Value} (h : ReadsScalar source t j v) :
    v.isLeaf = true := by
  cases h <;> rfl

theorem ReadsScalar.fitted {source : Source} {t : Ty} {j : Json} {v : Value} (h : ReadsScalar source t j v)
    (fit : Fit) : v.fitted fit t = some v := by
  cases h <;> simp [Value.fitted, Value.fittedInteger, Fit.keepIf]

namespace Reads

variable {source : Source} {t : Ty} {j : Json} {v : Value}

/-- What a record or a tagged union reads is a record. -/
theorem isRecord (h : Reads source t j v) : t.regular = true → t.isObject = true →
    ∃ c fs extra, v = .record c fs extra := by
  induction h with
  | record => exact fun _ _ => ⟨_, _, _, rfl⟩
  | tagged _ ht _ ih =>
    intro hr _
    obtain ⟨hobj, hreg⟩ := (Ty.regular_tagged hr).2 _ (mem_of_lookup ht)
    exact ih hreg hobj
  | scalar h => cases h <;> exact fun _ h => by cases h
  | _ => exact fun _ h => by cases h

theorem mem_fieldValues {c : Class} {g : Field → Value} {p : String × Value}
    (hp : p ∈ (recordOf c).fields.map fun f => (f.name, g f)) :
    ∃ f ∈ (recordOf c).fields, f.name = p.1 ∧ g f = p.2 := by
  obtain ⟨f, hf, rfl⟩ := List.mem_map.1 hp
  exact ⟨f, hf, rfl, rfl⟩

/-- A value that was read is whole. -/
theorem whole (h : Reads source t j v) : t.regular = true → v.Whole := by
  induction h with
  | any | optionalNull | allowed | switchNull | switchOff => exact fun _ => .leaf rfl
  | scalar h => exact fun _ => .leaf h.isLeaf
  | list g _ ih =>
    intro hr
    refine .list fun v hv => ?_
    obtain ⟨j, hj, rfl⟩ := List.mem_map.1 hv
    exact ih j hj (Ty.regular_inner hr List.mem_cons_self)
  | pair _ _ iha ihb =>
    intro hr
    replace hr := Ty.regular_pair hr
    exact .pair (iha hr.1) (ihb hr.2)
  | map g _ _ ih =>
    intro hr
    refine .map fun e he => ?_
    obtain ⟨m, hm, rfl⟩ := List.mem_map.1 (Members.mem_of_mem_merge he)
    exact ih m hm (Ty.regular_inner hr List.mem_cons_self)
  | @record c ms g _ habsent ih =>
    intro _
    refine .record (fun p hp => ?_) (fun p hp => ?_) (keptMembers_of_not_keepsExtra ms)
    · obtain ⟨f, hf, hname, -⟩ := mem_fieldValues hp
      exact ⟨f, hf, hname⟩
    · obtain ⟨f, hf, -, hg⟩ := mem_fieldValues hp
      have hreg := field_regular hf
      rw [← hg]
      cases hr : findField? f ms with
      | some p => exact ih f hf p.1 p.2 hr hreg.ty
      | none =>
        rcases f.absent_cases hreg.defaultFits (habsent f hf hr) with ⟨h, -⟩ | ⟨h, -⟩ | ⟨s, h, -⟩ <;>
          exact h ▸ .leaf rfl
  | optional _ _ ih => exact fun hr => ih (Ty.regular_inner hr List.mem_cons_self)
  | oneOf _ _ ih => exact fun hr => ih (Ty.regular_inner hr (by simp))
  | tagged _ ht _ ih => exact fun hr => ih ((Ty.regular_tagged hr).2 _ (mem_of_lookup ht)).2
  | registered _ _ ih | plain _ _ ih => exact fun _ => ih rfl
  | switchOn on t =>
    intro hr
    replace hr := Ty.regular_switch hr
    obtain ⟨c, name, e, a, rfl, rfl, hf⟩ := Ty.isBlank_iff.1 hr.1
    refine .record (fun p hp => ?_) (fun p hp => ?_) fun _ => rfl
    · rw [List.mem_singleton.1 hp, hf]
      exact ⟨_, List.mem_cons_self, rfl⟩
    · rw [List.mem_singleton.1 hp]
      exact .list fun _ h => absurd h List.not_mem_nil
  | switch _ _ _ ih =>
    intro hr
    replace hr := Ty.regular_switch hr
    exact ih hr.2

/-- **What was read at a type fits it.** -/
theorem fitted (h : Reads source t j v) : t.regular = true → ∀ fit, v.fitted fit t = some v := by
  induction h with
  | any j => intro _ fit; rw [Value.fitted]
  | scalar h => exact fun _ => h.fitted
  | list g _ ih =>
    intro hr fit
    replace hr := Ty.regular_inner hr List.mem_cons_self
    rw [Value.fitted, Value.fittedItems_eq fun v hv => ?_]
    · rfl
    · obtain ⟨j, hj, rfl⟩ := List.mem_map.1 hv
      exact ih j hj hr fit
  | pair _ _ iha ihb =>
    intro hr fit
    replace hr := Ty.regular_pair hr
    rw [Value.fitted, iha hr.1 fit, ihb hr.2 fit]
  | map g _ _ ih =>
    intro hr fit
    replace hr := Ty.regular_inner hr List.mem_cons_self
    rw [Value.fitted, if_pos (by simp), Value.fittedEntries_eq fun e he => ?_]
    · rfl
    · obtain ⟨m, hm, rfl⟩ := List.mem_map.1 (Members.mem_of_mem_merge he)
      exact ih m hm hr fit
  | @record c ms g _ habsent ih =>
    intro _ fit
    rw [Value.fitted]
    refine Value.fittedRecord_eq (fun f hf => ?_) (keptMembers_of_not_keepsExtra ms)
    have hreg := field_regular hf
    cases hr : findField? f ms with
    | some p => exact ih f hf p.1 p.2 hr hreg.ty fit
    | none => exact f.fitted_absent hreg.defaultFits (habsent f hf hr) fit
  | optionalNull t => intro _ fit; rw [Value.fitted]
  | optional _ _ ih => exact fun hr fit => Value.fitted_optional_self (ih (Ty.regular_inner hr List.mem_cons_self) fit)
  | oneOf _ ht ih =>
    intro hr fit
    have hr := Ty.regular_inner hr (List.mem_append_right _ List.mem_cons_self)
    exact Value.fitted_oneOf_self (ht.whole hr) (by simp) (ih hr .exact)
  | @tagged key tag arms t ms v _ ht hv ih =>
    intro hr fit
    have hmem := mem_of_lookup ht
    obtain ⟨hobj, hreg⟩ := (Ty.regular_tagged hr).2 _ hmem
    obtain ⟨c, fs, extra, rfl⟩ := hv.isRecord hreg hobj
    rw [Value.fitted, Value.fittedArm_eq, Value.choose_self]
    · exact Value.fittedFirst_self (hv.whole hreg) (List.mem_map.2 ⟨_, hmem, rfl⟩) (ih hreg .exact)
    · simp
  | @registered b p r ms v _ hv ih =>
    intro _ fit
    obtain ⟨c, fs, extra, rfl⟩ := hv.isRecord rfl rfl
    exact Value.fitted_provider_self (hv.whole rfl) (.inr (ih rfl .exact))
  | @plain b p r ms v _ hv ih =>
    intro _ fit
    obtain ⟨c, fs, extra, rfl⟩ := hv.isRecord rfl rfl
    exact Value.fitted_provider_self (hv.whole rfl) (.inl (ih rfl .exact))
  | allowed p r b => intro _ fit; rw [Value.fitted, Fit.keepIf]; rfl
  | switchNull on t => intro _ fit; rw [Value.fitted]
  | switchOff on t => intro _ fit; rw [Value.fitted]
  | switchOn on t =>
    intro hr fit
    replace hr := Ty.regular_switch hr
    obtain ⟨c, name, e, a, rfl, rfl, hf⟩ := Ty.isBlank_iff.1 hr.1
    have hg : (recordOf c).fields.map (fun f => (f.name, Value.list [])) = [(name, .list [])] := by rw [hf]; rfl
    rw [Value.fitted_switch]
    refine Value.fitted_optional_self ?_
    rw [Value.fitted, ← hg]
    refine Value.fittedRecord_eq (fun f h => ?_) fun _ => rfl
    rw [hf, List.mem_singleton] at h
    rw [h, Value.fitted, Value.fittedItems]; rfl
  | switch _ _ _ ih =>
    intro hr fit
    replace hr := Ty.regular_switch hr
    rw [Value.fitted_switch]
    exact Value.fitted_optional_self (ih hr.2 fit)

end Reads

/-- **A value that was read is written at its type as it writes itself.** -/
theorem encodeAs_eq_encode {source : Source} {t : Ty} {j : Json} {v : Value} (ht : t.regular = true)
    (h : decode source t j = .ok v) : v.encodeAs t = v.encode := by
  rw [Value.encodeAs, Value.viewedAs, (reads_of_decode t j h).fitted ht .free, Option.getD_some]

end LspWire
