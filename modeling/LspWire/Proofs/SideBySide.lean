import LspWire.Proofs.Addressing
import LspWire.Proofs.Alike

/-!
# Two decodes side by side

Two outcomes are alike if both have a result, and the results are related, or both have issues, of the same kinds and
at the same locations up to order (`Outcome.Alike`). Where a condition holds the issues are even the same, in the same
order and with the same messages. Each combinator of outcomes takes alike outcomes to alike ones, so the decodes of two
values are alike if those of their parts are: elements in pairs, entries in pairs or in another order, fields one by
one, arms one after the other.
-/

namespace LspWire

open Schema

/-! ## Outcomes -/

/-- Where an issue is, and of which kind. -/
def Issue.site (i : Issue) : IssueKind × List Step := (i.cause.kind, i.location)

/-- Related results, or issues of the same kinds at the same locations up to order; the same issues if `exact`. -/
inductive Outcome.Alike {α β : Type} (exact : Prop) (R : α → β → Prop) : Outcome α → Outcome β → Prop
  | ok {a : α} {b : β} : R a b → Alike exact R (.ok a) (.ok b)
  | error {is is' : List Issue} : (is.map Issue.site).Perm (is'.map Issue.site) → (exact → is = is') →
      Alike exact R (.error is) (.error is')

namespace Outcome.Alike

variable {α β γ δ : Type} {exact : Prop} {R : α → β → Prop} {S : γ → δ → Prop}

theorem mono {weaker : Prop} {R' : α → β → Prop} {o : Outcome α} {p : Outcome β} (h : Alike exact R o p)
    (hexact : weaker → exact) (hR : ∀ a b, R a b → R' a b) : Alike weaker R' o p := by
  cases h with
  | ok hab => exact .ok (hR _ _ hab)
  | error hperm hsame => exact .error hperm fun hw => hsame (hexact hw)

theorem refl {R : α → α → Prop} (hR : ∀ a, R a a) (o : Outcome α) : Alike exact R o o := by
  cases o with
  | ok a => exact .ok (hR a)
  | error is => exact .error (.refl _) fun _ => rfl

theorem fail {c c' : Cause} (hkind : c.kind = c'.kind) (hsame : exact → c = c') :
    Alike exact R (Outcome.fail c) (Outcome.fail c') := by
  refine .error ?_ fun he => by rw [hsame he]
  simp [Issue.site, hkind]

theorem trans {S : β → γ → Prop} {o : Outcome α} {p : Outcome β} {q : Outcome γ} (h : Alike exact R o p)
    (h' : Alike exact S p q) : Alike exact (fun a c => ∃ b, R a b ∧ S b c) o q := by
  cases h with
  | ok hab =>
    cases h' with
    | ok hbc => exact .ok ⟨_, hab, hbc⟩
  | error hperm hsame =>
    cases h' with
    | error hperm' hsame' => exact .error (hperm.trans hperm') fun he => (hsame he).trans (hsame' he)

theorem map {o : Outcome α} {p : Outcome β} (h : Alike exact R o p) {f : α → γ} {g : β → δ}
    (hfg : ∀ a b, R a b → S (f a) (g b)) : Alike exact S (o.map f) (p.map g) := by
  cases h with
  | ok hab => exact .ok (hfg _ _ hab)
  | error hperm hsame => exact .error hperm hsame

theorem within (s : Step) {o : Outcome α} {p : Outcome β} (h : Alike exact R o p) :
    Alike exact R (o.within s) (p.within s) := by
  cases h with
  | ok hab => exact .ok hab
  | @error is is' hperm hsame =>
    have hsites : ∀ is : List Issue, (is.map (Issue.within s)).map Issue.site =
        (is.map Issue.site).map fun q => (q.1, s :: q.2) := fun is => by rw [List.map_map, List.map_map]; rfl
    refine .error ?_ fun he => by rw [hsame he]
    rw [hsites, hsites]
    exact hperm.map _

theorem both {o : Outcome α} {p : Outcome β} {o' : Outcome γ} {p' : Outcome δ} (h : Alike exact R o p)
    (h' : Alike exact S o' p') : Alike exact (fun x y => R x.1 y.1 ∧ S x.2 y.2) (o.both o') (p.both p') := by
  cases h with
  | ok hab =>
    cases h' with
    | ok hcd => exact .ok ⟨hab, hcd⟩
    | error hperm hsame => exact .error hperm hsame
  | error hperm hsame =>
    cases h' with
    | ok hcd => exact .error hperm hsame
    | error hperm' hsame' =>
      refine .error ?_ fun he => by rw [hsame he, hsame' he]
      rw [List.map_append, List.map_append]
      exact hperm.append hperm'

theorem orElse {is is' : List Issue} (h : Alike exact R (.error is) (.error is')) {o : Outcome α} {p : Outcome β}
    (h' : Alike exact R o p) : Alike exact R (Outcome.orElse (.error is) o) (Outcome.orElse (.error is') p) := by
  cases h' with
  | ok hab => exact .ok hab
  | error hperm' hsame' =>
    cases h with
    | error hperm hsame =>
      refine .error ?_ fun he => by rw [hsame he, hsame' he]
      rw [List.map_append, List.map_append]
      exact hperm.append hperm'

end Outcome.Alike

/-! ## Values -/

/-- `Alike v w`: the same classes and fields with values that are alike; the entries of maps, the members of values that
    no type describes and the members that records keep besides their fields may stand in another order. -/
inductive Value.Alike : Value → Value → Prop
  | eq (v : Value) : Alike v v
  | untyped {j k : Json} : j.Alike k → Alike (.untyped j) (.untyped k)
  | list {ps : List (Value × Value)} : (∀ p ∈ ps, Alike p.1 p.2) → Alike (.list (ps.map (·.1))) (.list (ps.map (·.2)))
  | pair {v w v' w' : Value} : Alike v v' → Alike w w' → Alike (.pair v w) (.pair v' w')
  | map {keys : KeyKind} {es : List (String × Value)} {ps : List (String × Value × Value)} :
      es.Perm (ps.map fun p => (p.1, p.2.1)) → (∀ p ∈ ps, Alike p.2.1 p.2.2) →
      Alike (.map keys es) (.map keys (ps.map fun p => (p.1, p.2.2)))
  | record {c : Class} {ps : List (String × Value × Value)} {extra extra' : List (String × Json)} :
      (∀ p ∈ ps, Alike p.2.1 p.2.2) → (Json.obj extra).Alike (.obj extra') →
      Alike (.record c (ps.map fun p => (p.1, p.2.1)) extra) (.record c (ps.map fun p => (p.1, p.2.2)) extra')

/-- Named values that are alike, name by name. -/
def Value.NamedAlike (keys : List String) (es es' : List (String × Value)) : Prop :=
  ∃ qs : List (String × Value × Value), es = qs.map (fun q => (q.1, q.2.1)) ∧ es' = qs.map (fun q => (q.1, q.2.2)) ∧
    (∀ q ∈ qs, q.2.1.Alike q.2.2) ∧ qs.map (·.1) = keys

theorem Value.NamedAlike.nil : NamedAlike [] [] [] := ⟨[], rfl, rfl, (fun _ hq => by cases hq), rfl⟩

theorem Value.NamedAlike.cons {keys : List String} {es es' : List (String × Value)} (h : NamedAlike keys es es')
    (k : String) {v w : Value} (hvw : v.Alike w) : NamedAlike (k :: keys) ((k, v) :: es) ((k, w) :: es') := by
  obtain ⟨qs, rfl, rfl, hqs, rfl⟩ := h
  exact ⟨(k, v, w) :: qs, rfl, rfl, List.forall_mem_cons.2 ⟨hvw, hqs⟩, rfl⟩

/-! ## Parts -/

section Parts

variable {source : Source} {exact : Prop}

/-- Elements that are decoded alike in pairs. -/
theorem decodeItems_alike {t : Ty} : ∀ (ps : List (Json × Json)) (i : Nat),
    (∀ p ∈ ps, Outcome.Alike exact Value.Alike (decode source t p.1) (decode source t p.2)) →
      Outcome.Alike exact (fun vs ws => ∃ qs : List (Value × Value), vs = qs.map (·.1) ∧ ws = qs.map (·.2) ∧
          ∀ q ∈ qs, q.1.Alike q.2)
        (decodeItems source t i (ps.map (·.1))) (decodeItems source t i (ps.map (·.2)))
  | [], _, _ => by
    rw [List.map_nil, List.map_nil, decodeItems]
    exact .ok ⟨[], rfl, rfl, fun _ hq => by cases hq⟩
  | p :: ps, i, h => by
    rw [List.forall_mem_cons] at h
    rw [List.map_cons, List.map_cons, decodeItems, decodeItems]
    refine ((h.1.within _).both (decodeItems_alike ps (i + 1) h.2)).map fun x y hxy => ?_
    obtain ⟨hvw, qs, hvs, hws, hqs⟩ := hxy
    exact ⟨(x.1, y.1) :: qs, by rw [hvs]; rfl, by rw [hws]; rfl, List.forall_mem_cons.2 ⟨hvw, hqs⟩⟩

/-- Entries that are decoded alike in pairs. -/
theorem decodeEntries_alike {keys : KeyKind} {t : Ty} : ∀ ps : List (String × Json × Json),
    (∀ p ∈ ps, Outcome.Alike exact Value.Alike (decode source t p.2.1) (decode source t p.2.2)) →
      Outcome.Alike exact (Value.NamedAlike (ps.map (·.1)))
        (decodeEntries source keys t (ps.map fun p => (p.1, p.2.1)))
        (decodeEntries source keys t (ps.map fun p => (p.1, p.2.2)))
  | [], _ => by
    rw [List.map_nil, List.map_nil, List.map_nil, decodeEntries]
    exact .ok .nil
  | p :: ps, h => by
    rw [List.forall_mem_cons] at h
    simp only [List.map_cons, decodeEntries]
    have hkey : Outcome.Alike exact (fun _ _ => True) (((decodeKey keys p.1).within .mapKey).within (.key p.1))
        (((decodeKey keys p.1).within .mapKey).within (.key p.1)) := .refl (fun _ => trivial) _
    refine ((hkey.both (h.1.within _)).both (decodeEntries_alike ps h.2)).map fun x y hxy => ?_
    exact hxy.2.cons p.1 hxy.1.2

theorem decodeEntries_ok_of_perm {keys : KeyKind} {t : Ty} {ms ns : List (String × Json)} (h : ms.Perm ns)
    {es : List (String × Value)} (hm : decodeEntries source keys t ms = .ok es) :
    ∃ es', decodeEntries source keys t ns = .ok es' ∧ es.Perm es' := by
  obtain ⟨hkeys, hread, rfl⟩ := decodeEntries_eq_ok hm
  have hn := decodeEntries_map id (fun x => (decode source t x).got) ns (fun n hn => hkeys n (h.mem_iff.2 hn))
    fun n hn => hread n (h.mem_iff.2 hn)
  exact ⟨_, by simpa using hn, h.map _⟩

/-- Entries that stand in another order. -/
theorem decodeEntries_perm {keys : KeyKind} {t : Ty} {ms ns : List (String × Json)} (h : ms.Perm ns)
    (hexact : exact → ms = ns) : Outcome.Alike exact List.Perm (decodeEntries source keys t ms)
      (decodeEntries source keys t ns) := by
  cases hm : decodeEntries source keys t ms with
  | ok es =>
    obtain ⟨es', hn, hes⟩ := decodeEntries_ok_of_perm h hm
    rw [hn]
    exact .ok hes
  | error is =>
    cases hn : decodeEntries source keys t ns with
    | ok es' =>
      obtain ⟨es, hok, -⟩ := decodeEntries_ok_of_perm h.symm hn
      rw [hm] at hok
      cases hok
    | error is' =>
      have hissues : (decodeEntries source keys t ms).issues.Perm (decodeEntries source keys t ns).issues := by
        rw [issues_decodeEntries, issues_decodeEntries]
        exact h.flatMap_right _
      rw [hm, hn] at hissues
      refine .error (hissues.map _) fun he => ?_
      rw [hexact he, hn] at hm
      exact (Except.error.inj hm).symm

/-- Fields that are read from the same keys, and decoded alike. -/
theorem decodeFields_alike {ms ns : List (String × Json)} : ∀ fields : List Field,
    (∀ f ∈ fields, findField? f ms = none ∧ findField? f ns = none ∨ ∃ k x y, findField? f ms = some (k, x) ∧
      findField? f ns = some (k, y) ∧ Outcome.Alike exact Value.Alike (decode source f.ty x) (decode source f.ty y)) →
      Outcome.Alike exact (Value.NamedAlike (fields.map (·.name))) (decodeFields source fields ms)
        (decodeFields source fields ns)
  | [], _ => by
    rw [decodeFields, decodeFields]
    exact .ok .nil
  | f :: fields, h => by
    rw [List.forall_mem_cons] at h
    rw [decodeFields_eq_both, decodeFields_eq_both]
    have hfield : Outcome.Alike exact Value.Alike (fieldOutcome source f ms) (fieldOutcome source f ns) := by
      unfold fieldOutcome
      rcases h.1 with ⟨hm, hn⟩ | ⟨k, x, y, hm, hn, hxy⟩
      · rw [hm, hn]
        exact .refl Value.Alike.eq _
      · rw [hm, hn]
        exact hxy.within _
    exact (hfield.both (decodeFields_alike fields h.2)).map fun x y hxy => hxy.2.cons f.name hxy.1

/-- Arms that are tried one after the other. -/
theorem decodeFirst_alike {j k : Json} : ∀ {arms : List Ty},
    (∀ pre t post, arms = pre ++ t :: post → (∀ a ∈ pre, (decode source a j).Fails ∧ (decode source a k).Fails) →
      Outcome.Alike exact Value.Alike (decode source t j) (decode source t k)) →
      Outcome.Alike exact Value.Alike (decodeFirst source arms j) (decodeFirst source arms k)
  | [], _ => by
    rw [decodeFirst, decodeFirst]
    exact .refl Value.Alike.eq _
  | t :: ts, h => by
    have hfirst := h [] t ts rfl fun _ ha => by cases ha
    rw [decodeFirst, decodeFirst]
    generalize hj : decode source t j = o at hfirst ⊢
    generalize hk : decode source t k = p at hfirst ⊢
    cases hfirst with
    | ok hvw => exact .ok hvw
    | error hperm hsame =>
      have harm := (Outcome.Alike.error hperm hsame : Outcome.Alike exact Value.Alike _ _).within (.arm t.label)
      refine harm.orElse (decodeFirst_alike fun pre u post hts hpre => ?_)
      refine h (t :: pre) u post (by rw [hts, List.cons_append]) (List.forall_mem_cons.2 ⟨?_, hpre⟩)
      exact ⟨⟨_, hj⟩, _, hk⟩

/-- The arm that a tag names. -/
theorem decodeTagged_alike {key tag : String} {known : List String} {j k : Json} {arms : List (String × Ty)}
    (h : ∀ t, arms.lookup tag = some t → Outcome.Alike exact Value.Alike (decode source t j) (decode source t k)) :
    Outcome.Alike exact Value.Alike (decodeTagged source key tag known arms j)
      (decodeTagged source key tag known arms k) := by
  induction arms with
  | nil =>
    rw [decodeTagged, decodeTagged]
    exact .refl Value.Alike.eq _
  | cons a arms ih =>
    obtain ⟨name, t⟩ := a
    rw [decodeTagged, decodeTagged]
    rw [List.lookup_cons] at h
    by_cases hn : name = tag
    · subst hn
      rw [if_pos rfl, if_pos rfl]
      exact (h t (by simp)).within _
    · rw [if_neg hn, if_neg hn]
      rw [beq_eq_false_iff_ne.2 (Ne.symm hn)] at h
      exact ih h

end Parts

end LspWire
