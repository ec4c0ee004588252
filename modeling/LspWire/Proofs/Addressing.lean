import LspWire.Proofs.Issues

/-!
# Paths address the data

A location has the labels of unions among its keys and indexes, and a path is made by following all of it in the data:
what is no key of an object is dropped as a label, unless it is the last step. So a path can lose its place only where
an object has a key that is a label as well. Without such a key (`Unambiguous`) every step of a path but the last is a
step of the data, and the last is one too, or names what is missing there, or is one label
(`decodeData_path_addresses`).

The proof has two layers. What a value is reported for is its own or that of a part, one step further in
(`issue_origin`); so a location leads through the data, labels aside (`Leads`). A path keeps what leads through the data
(`Leads.addresses`), and nothing of the location but labels is left out (`Leads.filter_kept`).
-/

namespace LspWire

open Schema

/-! ## Places in data -/

/-- What a step leads to. -/
def Json.child? : Json → Step → Option Json
  | .obj ms, .key k => Members.find? k ms
  | .arr items, .index i => elementAt? items i
  | _, _ => none

/-- What steps lead to, one after the other. -/
def Json.at? (j : Json) : List Step → Option Json
  | [] => some j
  | s :: ss =>
    match j.child? s with
    | some x => x.at? ss
    | none => none

/-- The text of a step that is no step of the data. -/
def Step.label? : Step → Option String
  | .arm label => some label
  | .mapKey => some "[key]"
  | .key _ | .index _ => none

theorem Step.name?_of_label? {s : Step} {name : String} (h : s.label? = some name) : s.name? = some name := by
  cases s with
  | key k => cases h
  | index i => cases h
  | arm label => exact h
  | mapKey => exact h

theorem Json.at?_cons {j x : Json} {s : Step} (h : j.child? s = some x) (ss : List Step) :
    j.at? (s :: ss) = x.at? ss := by
  rw [Json.at?, h]

theorem Json.child?_of_label {s : Step} {name : String} (h : s.label? = some name) (j : Json) : j.child? s = none := by
  cases s with
  | key k => cases h
  | index i => cases h
  | arm label => cases j <;> rfl
  | mapKey => cases j <;> rfl

/-- The steps to a place in data are no labels. -/
theorem Json.label?_of_at? : ∀ {steps : List Step} {j x : Json}, j.at? steps = some x → ∀ s ∈ steps, s.label? = none
  | [], _, _, _, s, hs => absurd hs List.not_mem_nil
  | s :: ss, j, x, h, s', hs => by
    rw [Json.at?] at h
    split at h
    · next y hy =>
      rcases List.mem_cons.1 hs with rfl | hs
      · cases hl : s'.label? with
        | none => rfl
        | some name => rw [Json.child?_of_label hl] at hy; cases hy
      · exact Json.label?_of_at? h s' hs
    · cases h

/-! ## What is read, and under which labels -/

/-- `Opens t j steps t' j'`: reading `j` at `t` reads `j'` at `t'`, and reports on it behind the steps. A later arm of a
    union is tried only if all arms before it are refused. -/
inductive Opens : Ty → Json → List Step → Ty → Json → Prop
  | element {t : Ty} {items : List Json} {i : Nat} {x : Json} : items[i]? = some x →
      Opens (.list t) (.arr items) [.index i] t x
  | first {a b : Ty} {x : Json} {rest : List Json} : rest.length ≤ 1 → Opens (.pair a b) (.arr (x :: rest)) [.index 0] a x
  | second {a b : Ty} {x y : Json} : Opens (.pair a b) (.arr [x, y]) [.index 1] b y
  | entry {keys : KeyKind} {t : Ty} {ms : List (String × Json)} {k : String} {x : Json} : (k, x) ∈ ms →
      Opens (.map keys t) (.obj ms) [.key k] t x
  | field {c : Class} {f : Field} {ms : List (String × Json)} {k : String} {x : Json} : f ∈ (recordOf c).fields →
      findField? f ms = some (k, x) → Opens (.record c) (.obj ms) [.key k] f.ty x
  | optional {t : Ty} {j : Json} : j ≠ .null → Opens (.optional t) j [] t j
  | switch {on : Value} {t : Ty} {j : Json} : j ≠ .null → (∀ b, j ≠ .bool b) → Opens (.switch on t) j [] t j
  | arm {pre post : List Ty} {t : Ty} {j : Json} : (∀ s ∈ pre, Refused s j) →
      Opens (.oneOf (pre ++ t :: post)) j [.arm t.label] t j
  | tagged {key tag : String} {arms : List (String × Ty)} {t : Ty} {ms : List (String × Json)} :
      Members.find? key ms = some (.str tag) → arms.lookup tag = some t →
      Opens (.tagged key arms) (.obj ms) [.arm tag] t (.obj ms)
  | registered {b : Bool} {p r : Class} {ms : List (String × Json)} : isRegistration ms = true →
      Opens (.provider b p r) (.obj ms) [.arm "registration"] (.record r) (.obj ms)
  | plain {b : Bool} {p r : Class} {ms : List (String × Json)} : isRegistration ms = false →
      Opens (.provider b p r) (.obj ms) [.arm "options"] (.record p) (.obj ms)
  | allowed {p r : Class} {j : Json} : (∀ ms, j ≠ .obj ms) → Opens (.provider true p r) j [.arm "bool"] .bool j

/-- `Tried t d t' j`: reading `d` at `t` comes to read `j` at `t'`. -/
inductive Tried (t : Ty) (d : Json) : Ty → Json → Prop
  | root : Tried t d t d
  | next {u u' : Ty} {j j' : Json} {steps : List Step} : Tried t d u j → Opens u j steps u' j' → Tried t d u' j'

/-- The labels that reports on an object can have: those of the arms of a union that refuses it, and the one of the key
    that it stands under in a map, if the key is refused. -/
inductive Inserted (t : Ty) (d : Json) (ms : List (String × Json)) : String → Prop
  | arm {u u' : Ty} {j' : Json} {label : String} : Tried t d u (.obj ms) → Refused u (.obj ms) →
      Opens u (.obj ms) [.arm label] u' j' → Inserted t d ms label
  | mapKey {keys : KeyKind} {u : Ty} {entries : List (String × Json)} {k : String} :
      Tried t d (.map keys u) (.obj entries) → (k, .obj ms) ∈ entries → (decodeKey keys k).Fails →
      Inserted t d ms "[key]"

/-- What is missing from a value that reading comes to read: a required field of a record, by its own key, or one of the
    two elements of a pair. -/
inductive Lacking (t : Ty) (d : Json) : Json → Step → Prop
  | field {c : Class} {f : Field} {ms : List (String × Json)} : Tried t d (.record c) (.obj ms) →
      f ∈ (recordOf c).fields → f.absent = none → findField? f ms = none → Lacking t d (.obj ms) (.key f.wire)
  | element {a b : Ty} {items : List Json} {i : Nat} : Tried t d (.pair a b) (.arr items) → i < 2 → items.length ≤ i →
      Lacking t d (.arr items) (.index i)

/-- No object has a key that is a label of the reports on it. -/
def Unambiguous (t : Ty) (d : Json) : Prop := ∀ ms label, Inserted t d ms label → Members.find? label ms = none

theorem Opens.distinct {t t' : Ty} {j j' : Json} {steps : List Step} (h : Opens t j steps t' j') (hd : j.Distinct) :
    j'.Distinct := by
  cases h with
  | element hi => exact hd.item (List.mem_of_getElem? hi)
  | first _ => exact hd.item List.mem_cons_self
  | second => exact hd.item (List.mem_cons_of_mem _ List.mem_cons_self)
  | entry hm => exact hd.member hm
  | field _ hr => exact hd.member (mem_of_findField? hr)
  | optional _ | switch _ _ | arm _ | tagged _ _ | registered _ | plain _ | allowed _ => exact hd

/-- Reading goes down in the value, or stays at it and goes down in the type. -/
theorem Opens.smaller {t t' : Ty} {j j' : Json} {steps : List Step} (h : Opens t j steps t' j') :
    Prod.Lex (· < ·) (· < ·) (sizeOf j', sizeOf t') (sizeOf j, sizeOf t) := by
  cases h with
  | element hi => exact .left _ _ (sizeOf_lt_arr (List.mem_of_getElem? hi))
  | first _ => exact .left _ _ (sizeOf_lt_arr List.mem_cons_self)
  | second => exact .left _ _ (sizeOf_lt_arr (List.mem_cons_of_mem _ List.mem_cons_self))
  | entry hm => exact .left _ _ (sizeOf_lt_obj hm)
  | field _ hr => exact .left _ _ (sizeOf_lt_obj (mem_of_findField? hr))
  | optional _ => exact .right _ (by simp only [Ty.optional.sizeOf_spec]; omega)
  | switch _ _ => exact .right _ (by simp only [Ty.switch.sizeOf_spec]; omega)
  | @arm pre post _ _ _ =>
    have hlt := List.sizeOf_lt_of_mem (List.mem_append_right pre (List.mem_cons_self (a := t') (l := post)))
    exact .right _ (by simp only [Ty.oneOf.sizeOf_spec]; omega)
  | tagged _ ht =>
    have hlt := sizeOf_lt_arms ht
    exact .right _ (by simp only [Ty.tagged.sizeOf_spec]; omega)
  | registered _ | plain _ =>
    exact .right _ (by simp only [Ty.provider.sizeOf_spec, Ty.record.sizeOf_spec, Bool.sizeOf_eq_one]; omega)
  | allowed _ => exact .right _ (by simp only [Ty.provider.sizeOf_spec, Ty.bool.sizeOf_spec, Bool.sizeOf_eq_one]; omega)

/-! ## Where an issue comes from -/

/-- Where an issue of a value comes from: the value itself, a required field or an element of a pair that is absent, a
    key of a map, or a part that is read. -/
inductive Origin (t : Ty) (j : Json) : Issue → Prop
  | here (c : Cause) : Origin t j ⟨c, []⟩
  | absentKey {c : Class} {f : Field} {ms : List (String × Json)} : t = .record c → j = .obj ms →
      f ∈ (recordOf c).fields → f.absent = none → findField? f ms = none → Origin t j ⟨.missing, [.key f.wire]⟩
  | absentElement {a b : Ty} {items : List Json} {i : Nat} : t = .pair a b → j = .arr items → i < 2 →
      items.length ≤ i → Origin t j ⟨.missing, [.index i]⟩
  | badKey {keys : KeyKind} {u : Ty} {ms : List (String × Json)} {k : String} {x : Json} (c : Cause) :
      t = .map keys u → j = .obj ms → (k, x) ∈ ms → (decodeKey keys k).Fails → Origin t j ⟨c, [.key k, .mapKey]⟩
  | part {u : Ty} {x : Json} {steps : List Step} {i : Issue} : Opens t j steps u x → i ∈ (decode .data u x).issues →
      Origin t j ⟨i.cause, steps ++ i.location⟩

section Origins

variable {source : Source}

/-- The issues of a value without parts are its own. -/
theorem location_of_scalar {t : Ty} (ht : t.isScalar = true) (j : Json) :
    ∀ i ∈ (decode source t j).issues, i.location = [] := by
  cases t with
  | null => cases j <;> simp [decode, decodeNull]
  | bool => cases j <;> simp [decode, decodeBool]
  | integer => cases j <;> simp [decode, decodeInteger]
  | bounded lo hi =>
    cases j <;> simp only [decode, decodeBounded, Outcome.issues_fail, List.forall_mem_singleton]
    split
    · simp
    split <;> simp
  | float =>
    rw [decode]
    unfold decodeFloat
    split
    · simp
    · split <;> simp
    · simp
  | str => cases j <;> simp [decode, decodeStr]
  | uri =>
    cases j <;> simp only [decode, decodeUri, Outcome.issues_fail, List.forall_mem_singleton]
    split <;> simp
  | intEnum e =>
    cases j <;> simp only [decode, decodeIntEnum, Outcome.issues_fail, List.forall_mem_singleton]
    split <;> simp
  | openEnum e => cases j <;> simp [decode, decodeOpenEnum]
  | closedEnum e =>
    cases j <;> simp only [decode, decodeClosedEnum, Outcome.issues_fail, List.forall_mem_singleton]
    split <;> simp
  | watchKind =>
    cases j <;> simp only [decode, decodeWatchKind, Outcome.issues_fail, List.forall_mem_singleton]
    split <;> simp
  | literal text =>
    cases j <;> simp only [decode, decodeLiteral, Outcome.issues_fail, List.forall_mem_singleton]
    split <;> simp
  | _ => simp [Ty.isScalar] at ht

theorem issues_decodeEntries (keys : KeyKind) (t : Ty) (ms : List (String × Json)) :
    (decodeEntries source keys t ms).issues = ms.flatMap fun m =>
      ((decodeKey keys m.1).issues.map (Issue.within .mapKey)).map (Issue.within (.key m.1)) ++
        (decode source t m.2).issues.map (Issue.within (.key m.1)) := by
  induction ms with
  | nil => rw [decodeEntries]; rfl
  | cons m ms ih =>
    obtain ⟨k, j⟩ := m
    rw [decodeEntries, List.flatMap_cons]
    simp only [Outcome.issues_map, Outcome.issues_both, Outcome.issues_within]
    rw [ih]

theorem Outcome.mem_issues_orElse {α : Type} {o p : Outcome α} {i : Issue} (h : i ∈ (o.orElse p).issues) :
    i ∈ o.issues ∨ i ∈ p.issues := by
  cases o with
  | ok a => exact .inl h
  | error is =>
    cases p with
    | ok a => exact absurd h List.not_mem_nil
    | error is' => exact List.mem_append.1 h

/-- An issue of the arms is one of an arm, and all arms before it are refused. -/
theorem issue_decodeFirst {j : Json} {i : Issue} {arms : List Ty} (h : i ∈ (decodeFirst source arms j).issues) :
    ∃ pre t post, arms = pre ++ t :: post ∧ (∀ s ∈ pre, (decode source s j).Fails) ∧
      ∃ i' ∈ (decode source t j).issues, i = i'.within (.arm t.label) := by
  induction arms with
  | nil => rw [decodeFirst] at h; exact absurd h List.not_mem_nil
  | cons t ts ih =>
    rw [decodeFirst] at h
    cases ht : decode source t j with
    | ok v => simp [ht] at h
    | error is =>
      rw [ht] at h
      rcases Outcome.mem_issues_orElse h with hmem | hmem
      · obtain ⟨i', hi', rfl⟩ := List.mem_map.1 hmem
        exact ⟨[], t, ts, rfl, by simp, i', by rw [ht]; exact hi', rfl⟩
      · obtain ⟨pre, u, post, rfl, hpre, hu⟩ := ih hmem
        exact ⟨t :: pre, u, post, rfl, List.forall_mem_cons.2 ⟨⟨is, ht⟩, hpre⟩, hu⟩

theorem issue_decodeTagged {key tag : String} {known : List String} {j : Json} {i : Issue}
    {arms : List (String × Ty)} (h : i ∈ (decodeTagged source key tag known arms j).issues) :
    i.location = [] ∨ ∃ t, arms.lookup tag = some t ∧ ∃ i' ∈ (decode source t j).issues, i = i'.within (.arm tag) := by
  induction arms with
  | nil =>
    rw [decodeTagged, Outcome.issues_fail] at h
    rw [List.mem_singleton.1 h]
    exact .inl rfl
  | cons a arms ih =>
    obtain ⟨name, t⟩ := a
    rw [decodeTagged] at h
    rw [List.lookup_cons]
    by_cases hn : name = tag
    · subst hn
      rw [if_pos rfl, Outcome.issues_within] at h
      obtain ⟨i', hi', rfl⟩ := List.mem_map.1 h
      exact .inr ⟨t, by simp, i', hi', rfl⟩
    · rw [if_neg hn] at h
      rw [beq_eq_false_iff_ne.2 (Ne.symm hn)]
      exact ih h

end Origins

theorem Origin.own {t : Ty} {j : Json} {i : Issue} (h : i.location = []) : Origin t j i := by
  obtain ⟨c, loc⟩ := i
  subst h
  exact .here c

theorem Origin.fail {t : Ty} {j : Json} {c : Cause} {i : Issue} (h : i ∈ (Outcome.fail c : Outcome Value).issues) :
    Origin t j i := by
  rw [Outcome.issues_fail] at h
  exact List.mem_singleton.1 h ▸ .here c

theorem location_of_decodeKey (keys : KeyKind) (k : String) : ∀ i ∈ (decodeKey keys k).issues, i.location = [] := by
  cases keys with
  | text => simp [decodeKey]
  | uri =>
    simp only [decodeKey]
    split <;> simp

theorem decode_provider_of_ne {source : Source} {b : Bool} {p r : Class} {j : Json} (hj : ∀ ms, j ≠ .obj ms) :
    decode source (.provider b p r) j =
      if b then (decode source .bool j).within (.arm "bool") else Outcome.fail .notOptions := by
  cases j with
  | obj ms => exact absurd rfl (hj ms)
  | _ => simp only [decode]

theorem origin_pair {a b : Ty} {items : List Json} {i : Issue}
    (h : i ∈ (decode .data (.pair a b) (.arr items)).issues) : Origin (.pair a b) (.arr items) i := by
  have habsent : ∀ n < 2, items.length ≤ n → ∀ i' ∈ (absentElement n).issues, Origin (.pair a b) (.arr items) i' := by
    intro n hn hlen i' hi'
    rw [List.mem_singleton.1 hi']
    exact .absentElement rfl rfl hn hlen
  match items with
  | [] =>
    rw [decode, Outcome.issues_map, Outcome.issues_both] at h
    rcases List.mem_append.1 h with h | h
    · exact habsent 0 Nat.two_pos (Nat.le_refl 0) i h
    · exact habsent 1 Nat.one_lt_two (Nat.zero_le 1) i h
  | [x] =>
    rw [decode, Outcome.issues_map, Outcome.issues_both, Outcome.issues_within] at h
    rcases List.mem_append.1 h with h | h
    · obtain ⟨i', hi', rfl⟩ := List.mem_map.1 h
      exact .part (.first (by simp)) hi'
    · exact habsent 1 Nat.one_lt_two (Nat.le_refl 1) i h
  | [x, y] =>
    rw [decode, Outcome.issues_map, Outcome.issues_both, Outcome.issues_within, Outcome.issues_within] at h
    rcases List.mem_append.1 h with h | h
    · obtain ⟨i', hi', rfl⟩ := List.mem_map.1 h
      exact .part (.first (by simp)) hi'
    · obtain ⟨i', hi', rfl⟩ := List.mem_map.1 h
      exact .part .second hi'
  | x :: y :: z :: rest =>
    simp only [decode] at h
    exact .fail h

theorem origin_map {keys : KeyKind} {t : Ty} {ms : List (String × Json)} {i : Issue}
    (h : i ∈ (decode .data (.map keys t) (.obj ms)).issues) : Origin (.map keys t) (.obj ms) i := by
  rw [decode, Outcome.issues_map, issues_decodeEntries] at h
  obtain ⟨⟨k, x⟩, hm, hi⟩ := List.mem_flatMap.1 h
  rcases List.mem_append.1 hi with hi | hi
  · simp only [List.mem_map] at hi
    obtain ⟨_, ⟨i', hi', rfl⟩, rfl⟩ := hi
    have hloc := location_of_decodeKey keys k i' hi'
    obtain ⟨c, loc⟩ := i'
    subst hloc
    exact .badKey c rfl rfl hm (Outcome.fails_of_mem hi')
  · obtain ⟨i', hi', rfl⟩ := List.mem_map.1 hi
    exact .part (.entry hm) hi'

theorem origin_field {c : Class} {f : Field} {ms : List (String × Json)} {i : Issue} (hf : f ∈ (recordOf c).fields)
    (h : i ∈ fieldIssues .data ms f) : Origin (.record c) (.obj ms) i := by
  unfold fieldIssues at h
  split at h
  · next k j hj =>
    obtain ⟨i', hi', rfl⟩ := List.mem_map.1 h
    exact .part (.field hf hj) hi'
  · next hn =>
    split at h
    · next hrequired =>
      rw [List.mem_singleton.1 h]
      exact .absentKey rfl rfl hf (Option.isNone_iff_eq_none.1 hrequired) hn
    · exact absurd h List.not_mem_nil

theorem origin_tagged {key : String} {arms : List (String × Ty)} {ms : List (String × Json)} {i : Issue}
    (h : i ∈ (decode .data (.tagged key arms) (.obj ms)).issues) : Origin (.tagged key arms) (.obj ms) i := by
  rw [decode] at h
  split at h
  · exact .fail h
  · next tag htag =>
    rcases issue_decodeTagged h with hloc | ⟨t, ht, i', hi', rfl⟩
    · exact .own hloc
    · exact .part (.tagged htag ht) hi'
  · exact .fail h

/-- The issues of an object in the place of a provider are those of one of its classes. -/
theorem origin_options {b : Bool} {p r : Class} {ms : List (String × Json)} {i : Issue}
    (h : i ∈ (decode .data (.provider b p r) (.obj ms)).issues) : Origin (.provider b p r) (.obj ms) i := by
  rw [decode] at h
  split at h
  · next hr =>
    rw [Outcome.issues_within, ← decode_record] at h
    obtain ⟨i', hi', rfl⟩ := List.mem_map.1 h
    exact .part (.registered hr) hi'
  · next hr =>
    rw [Outcome.issues_within, ← decode_record] at h
    obtain ⟨i', hi', rfl⟩ := List.mem_map.1 h
    exact .part (.plain (Bool.eq_false_iff.2 hr)) hi'

theorem origin_provider {b : Bool} {p r : Class} {j : Json} {i : Issue}
    (h : i ∈ (decode .data (.provider b p r) j).issues) : Origin (.provider b p r) j i := by
  by_cases hj : ∃ ms, j = .obj ms
  · obtain ⟨ms, rfl⟩ := hj
    exact origin_options h
  · have hj : ∀ ms, j ≠ .obj ms := fun ms e => hj ⟨ms, e⟩
    rw [decode_provider_of_ne hj] at h
    cases b with
    | true =>
      rw [if_pos rfl, Outcome.issues_within] at h
      obtain ⟨i', hi', rfl⟩ := List.mem_map.1 h
      exact .part (.allowed hj) hi'
    | false => exact .fail h

theorem origin_switch {on : Value} {t : Ty} {j : Json} {i : Issue} (h : i ∈ (decode .data (.switch on t) j).issues) :
    Origin (.switch on t) j i := by
  by_cases hj : j = .null
  · subst hj
    rw [decode] at h
    exact absurd h List.not_mem_nil
  by_cases hb : ∃ b, j = .bool b
  · obtain ⟨b, rfl⟩ := hb
    cases b <;> rw [decode] at h <;> exact absurd h List.not_mem_nil
  · have hb : ∀ b, j ≠ .bool b := fun b e => hb ⟨b, e⟩
    rw [decode_switch_of_ne hj hb] at h
    exact .part (.switch hj hb) h

/-- **Every issue of a value is its own or that of a part**, one step further in. -/
theorem issue_origin (t : Ty) (j : Json) {i : Issue} (h : i ∈ (decode .data t j).issues) : Origin t j i := by
  cases t with
  | any => rw [decode] at h; exact absurd h List.not_mem_nil
  | null | bool | integer | bounded _ _ | float | str | uri | intEnum _ | openEnum _ | closedEnum _ | watchKind
  | literal _ => exact .own (location_of_scalar rfl j i h)
  | list t =>
    cases j with
    | arr items =>
      rw [issues_list] at h
      obtain ⟨⟨x, n⟩, hx, hi⟩ := List.mem_flatMap.1 h
      obtain ⟨i', hi', rfl⟩ := List.mem_map.1 hi
      exact .part (.element (List.mk_mem_zipIdx_iff_getElem?.1 hx)) hi'
    | _ => simp only [decode] at h; exact .fail h
  | pair a b =>
    cases j with
    | arr items => exact origin_pair h
    | _ => simp only [decode] at h; exact .fail h
  | map keys t =>
    cases j with
    | obj ms => exact origin_map h
    | _ => simp only [decode] at h; exact .fail h
  | record c =>
    cases j with
    | obj ms =>
      rw [issues_record] at h
      obtain ⟨f, hf, hi⟩ := List.mem_flatMap.1 h
      exact origin_field hf hi
    | _ => simp only [decode, decodeRecord] at h; exact .fail h
  | optional t =>
    by_cases hj : j = .null
    · subst hj
      rw [decode] at h
      exact absurd h List.not_mem_nil
    · rw [decode_optional_of_ne hj] at h
      exact .part (.optional hj) h
  | oneOf arms =>
    rw [decode_oneOf] at h
    obtain ⟨pre, t, post, rfl, hpre, i', hi', rfl⟩ := issue_decodeFirst h
    exact .part (.arm fun s hs => refused_iff.2 (hpre s hs)) hi'
  | tagged key arms =>
    cases j with
    | obj ms => exact origin_tagged h
    | _ => simp only [decode] at h; exact .fail h
  | provider b p r => exact origin_provider h
  | switch on t => exact origin_switch h

/-! ## Locations lead through the data -/

section Leading

variable {inserts : List (String × Json) → String → Prop} {lacks : Json → Step → Prop}

/-- `Leads inserts lacks j c steps`: an issue with the cause may stand behind the steps from `j` on. Labels lead
    nowhere, and those that stand at an object are among the ones that are inserted there. What is missing is named
    last. -/
inductive Leads (inserts : List (String × Json) → String → Prop) (lacks : Json → Step → Prop) :
    Json → Cause → List Step → Prop
  | here (j : Json) (c : Cause) : Leads inserts lacks j c []
  | absentKey {ms : List (String × Json)} {k : String} : Members.find? k ms = none → lacks (.obj ms) (.key k) →
      Leads inserts lacks (.obj ms) .missing [.key k]
  | absentElement {items : List Json} {i : Nat} : items.length ≤ i → lacks (.arr items) (.index i) →
      Leads inserts lacks (.arr items) .missing [.index i]
  | child {j x : Json} {s : Step} {c : Cause} {ss : List Step} : j.child? s = some x → Leads inserts lacks x c ss →
      Leads inserts lacks j c (s :: ss)
  | label {j : Json} {s : Step} {name : String} {c : Cause} {ss : List Step} : s.label? = some name →
      (∀ ms, j = .obj ms → inserts ms name) → Leads inserts lacks j c ss → Leads inserts lacks j c (s :: ss)

theorem child?_element {items : List Json} {i : Nat} {x : Json} (h : items[i]? = some x) :
    (Json.arr items).child? (.index i) = some x := by
  rw [Json.child?, elementAt?, if_pos (Int.natCast_nonneg i), Int.toNat_natCast, h]

/-- What leads through a part leads through the whole. -/
theorem Opens.leads {t u : Ty} {j x : Json} {steps ss : List Step} {c : Cause} (h : Opens t j steps u x)
    (hd : j.Distinct) (hins : ∀ label ms, steps = [.arm label] → j = .obj ms → inserts ms label)
    (hl : Leads inserts lacks x c ss) : Leads inserts lacks j c (steps ++ ss) := by
  cases h with
  | element hi => exact .child (child?_element hi) hl
  | first _ => exact .child (child?_element (i := 0) rfl) hl
  | second => exact .child (child?_element (i := 1) rfl) hl
  | entry hm => exact .child (Members.find?_of_mem hd.nodup hm) hl
  | field _ hr => exact .child (find?_of_findField? hr).1 hl
  | optional _ | switch _ _ => exact hl
  | arm _ | tagged _ _ | registered _ | plain _ | allowed _ =>
    exact .label rfl (fun ms hms => hins _ ms rfl hms) hl

/-- **Every issue leads through the data**, in what reading comes to read. -/
theorem leads_of_tried {t u : Ty} {d j : Json} (hd : j.Distinct) (htried : Tried t d u j) {i : Issue}
    (hi : i ∈ (decode .data u j).issues) : Leads (Inserted t d) (Lacking t d) j i.cause i.location := by
  have hrefused : Refused u j := refused_iff.2 (Outcome.fails_of_mem hi)
  cases issue_origin u j hi with
  | here c => exact .here j c
  | absentKey hu hj hf hrequired hnone =>
    subst hu hj
    exact .absentKey (find?_of_findField?_none hnone) (.field htried hf hrequired hnone)
  | absentElement hu hj hlt hlen =>
    subst hu hj
    exact .absentElement hlen (.element htried hlt hlen)
  | badKey c hu hj hm hk =>
    subst hu hj
    refine .child (Members.find?_of_mem hd.nodup hm) (.label rfl (fun ms hx => ?_) (.here _ c))
    subst hx
    exact .mapKey htried hm hk
  | part hopens hi' =>
    -- `j` has an issue of its own here, so it is refused, and the label of the arm counts as inserted
    have hpart := leads_of_tried (hopens.distinct hd) (htried.next hopens) hi'
    refine hopens.leads hd (fun label ms hsteps hms => ?_) hpart
    subst hsteps hms
    exact .arm htried hrefused hopens
termination_by (sizeOf j, sizeOf u)
decreasing_by exact hopens.smaller

end Leading

/-! ## Paths -/

/-- `Addresses inserts lacks d kind steps`: the steps address a place in `d`. All but the last lead there; the last does
    as well, or it names what is missing from the object or array that the others lead to, or it is a label that is
    inserted at the object that they lead to. -/
inductive Addresses (inserts : List (String × Json) → String → Prop) (lacks : Json → Step → Prop) (d : Json)
    (kind : IssueKind) : List Step → Prop
  | place {steps : List Step} {x : Json} : d.at? steps = some x → Addresses inserts lacks d kind steps
  | absentKey {steps : List Step} {ms : List (String × Json)} {k : String} : kind = .missingField →
      d.at? steps = some (.obj ms) → Members.find? k ms = none → lacks (.obj ms) (.key k) →
      Addresses inserts lacks d kind (steps ++ [.key k])
  | absentElement {steps : List Step} {items : List Json} {i : Nat} : kind = .missingField →
      d.at? steps = some (.arr items) → items.length ≤ i → lacks (.arr items) (.index i) →
      Addresses inserts lacks d kind (steps ++ [.index i])
  | label {steps : List Step} {ms : List (String × Json)} {s : Step} {name : String} : d.at? steps = some (.obj ms) →
      s.label? = some name → inserts ms name → Addresses inserts lacks d kind (steps ++ [s])

section Paths

variable {inserts : List (String × Json) → String → Prop} {lacks : Json → Step → Prop}

/-- What addresses a place in a part does so in the whole, one step further in. -/
theorem Addresses.child {j x : Json} {kind : IssueKind} {s : Step} {steps : List Step} (hs : j.child? s = some x)
    (h : Addresses inserts lacks x kind steps) : Addresses inserts lacks j kind (s :: steps) := by
  cases h with
  | place hat => exact .place (by rw [Json.at?_cons hs, hat])
  | absentKey hkind hat hk hlack => exact .absentKey hkind (by rw [Json.at?_cons hs, hat]) hk hlack
  | absentElement hkind hat hn hlack => exact .absentElement hkind (by rw [Json.at?_cons hs, hat]) hn hlack
  | label hat hname hins => exact .label (by rw [Json.at?_cons hs, hat]) hname hins

/-- Only the last step can be a label. -/
theorem Addresses.label?_dropLast {d : Json} {kind : IssueKind} {steps : List Step}
    (h : Addresses inserts lacks d kind steps) : ∀ s ∈ steps.dropLast, s.label? = none := by
  cases h with
  | place hat => exact fun s hs => Json.label?_of_at? hat s (List.dropLast_subset _ hs)
  | absentKey _ hat _ _ | absentElement _ hat _ _ | label hat _ _ =>
    rw [List.dropLast_concat]
    exact Json.label?_of_at? hat

theorem keptSteps_child {j x : Json} {s : Step} (h : j.child? s = some x) (ss : List Step) :
    keptSteps (some j) (s :: ss) = s :: keptSteps (some x) ss := by
  unfold Json.child? at h
  split at h
  · exact keptSteps_member h ss
  · next items i => simp only [keptSteps, Step.name?, h]
  · cases h

theorem keptSteps_label_obj {ms : List (String × Json)} {s : Step} {name : String} (hs : s.label? = some name)
    (hms : Members.find? name ms = none) (ss : List Step) : keptSteps (some (.obj ms)) (s :: ss) =
      if ss.isEmpty then [s] else keptSteps (some (.obj ms)) ss := by
  simp only [keptSteps, Step.name?_of_label? hs, hms]

/-- A label is left out, unless it ends the location at an object. -/
theorem keptSteps_label {j : Json} {s : Step} {name : String} (hs : s.label? = some name)
    (hj : ∀ ms, j = .obj ms → Members.find? name ms = none) (ss : List Step) :
    (ss = [] ∧ ∃ ms, j = .obj ms ∧ keptSteps (some j) [s] = [s]) ∨
      keptSteps (some j) (s :: ss) = keptSteps (some j) ss := by
  by_cases hobj : ∃ ms, j = .obj ms
  · obtain ⟨ms, rfl⟩ := hobj
    have hkept := keptSteps_label_obj hs (hj ms rfl)
    cases ss with
    | nil => exact .inl ⟨rfl, ms, rfl, hkept []⟩
    | cons s' ss => exact .inr (hkept (s' :: ss))
  · cases j with
    | obj ms => exact absurd ⟨ms, rfl⟩ hobj
    | _ => exact .inr (by simp only [keptSteps, Step.name?_of_label? hs])

theorem keptSteps_absentKey {ms : List (String × Json)} {k : String} (h : Members.find? k ms = none) :
    keptSteps (some (.obj ms)) [.key k] = [.key k] := by
  simp only [keptSteps, Step.name?, h, List.isEmpty_nil, if_true]

theorem keptSteps_index (items : List Json) (i : Int) : keptSteps (some (.arr items)) [.index i] = [.index i] := by
  cases he : elementAt? items i <;> simp only [keptSteps, Step.name?, he]

/-- A path only leaves steps out. -/
theorem keptSteps_sublist (data : Option Json) (ss : List Step) : (keptSteps data ss).Sublist ss := by
  fun_induction keptSteps data ss with
  | case1 ss => exact List.Sublist.refl ss
  | case2 j => exact List.Sublist.refl []
  | case3 s ss ms k hk v hv ih => exact ih.cons_cons s
  | case4 s ss ms k hk hv hss => exact List.singleton_sublist.2 List.mem_cons_self
  | case5 s ss ms k hk hv hss ih => exact ih.cons s
  | case6 j s ss k hk hj ih => exact ih.cons s
  | case7 ss items i hi ih => exact ih.cons_cons (.index i)
  | case8 => exact List.Sublist.refl _
  | case9 => exact List.Sublist.refl _

/-- **A path keeps what leads through the data**, where no object has a key that is a label. -/
theorem Leads.addresses (hins : ∀ ms name, inserts ms name → Members.find? name ms = none) {j : Json} {c : Cause}
    {ss : List Step} (h : Leads inserts lacks j c ss) :
    Addresses inserts lacks j c.kind (keptSteps (some j) ss) := by
  induction h with
  | here j c => exact .place rfl
  | absentKey hk hlack =>
    rw [keptSteps_absentKey hk, ← List.nil_append [_]]
    exact .absentKey rfl rfl hk hlack
  | absentElement hn hlack =>
    rw [keptSteps_index, ← List.nil_append [_]]
    exact .absentElement rfl rfl hn hlack
  | child hs _ ih =>
    rw [keptSteps_child hs]
    exact ih.child hs
  | @label j s name c ss hs hname _ ih =>
    rcases keptSteps_label hs (fun ms e => hins ms name (hname ms e)) ss with ⟨rfl, ms, rfl, hkept⟩ | hkept
    · rw [hkept, ← List.nil_append [s]]
      exact .label rfl hs (hname ms rfl)
    · rwa [hkept]

/-- Nothing but labels is left out. -/
theorem Leads.filter_kept (hins : ∀ ms name, inserts ms name → Members.find? name ms = none) {j : Json} {c : Cause}
    {ss : List Step} (h : Leads inserts lacks j c ss) :
    (keptSteps (some j) ss).filter (·.label?.isNone) = ss.filter (·.label?.isNone) := by
  induction h with
  | here j c => rfl
  | absentKey hk _ => rw [keptSteps_absentKey hk]
  | absentElement _ _ => rw [keptSteps_index]
  | @child j x s c ss hs _ ih => rw [keptSteps_child hs, List.filter_cons, List.filter_cons, ih]
  | @label j s name c ss hs hname _ ih =>
    have hdropped : (s :: ss).filter (·.label?.isNone) = ss.filter (·.label?.isNone) := by
      rw [List.filter_cons_of_neg (by simp [hs])]
    rcases keptSteps_label hs (fun ms e => hins ms name (hname ms e)) ss with ⟨rfl, ms, rfl, hkept⟩ | hkept
    · rw [hkept]
    · rw [hkept, ih, hdropped]

end Paths

/-- The steps that the path of an issue keeps of its location. -/
def Issue.kept (d : Json) (i : Issue) : List Step := keptSteps (some d) i.location

/-- **The path of every issue addresses the data.** It is made of steps of the location of the issue, in their order,
    and leaves out nothing but labels; all its steps but the last are steps of the data, and the last is one too, or
    names what is missing, or is a label. -/
theorem decodeData_path_addresses {t : Ty} {d : Json} (hd : d.Distinct) (hu : Unambiguous t d) {rs : List Report}
    (h : decodeData t d = .error rs) :
    ∃ is, decode .data t d = .error is ∧ rs = is.map (Issue.report .data (some d)) ∧
      ∀ i ∈ is, (i.report .data (some d)).path = pathText (i.kept d) ∧ (i.kept d).Sublist i.location ∧
        (i.kept d).filter (·.label?.isNone) = i.location.filter (·.label?.isNone) ∧
        Addresses (Inserted t d) (Lacking t d) d i.cause.kind (i.kept d) ∧
        ∀ s ∈ (i.kept d).dropLast, s.label? = none := by
  rw [decodeData] at h
  cases his : decode .data t d with
  | ok v => rw [his] at h; cases h
  | error is =>
    rw [his] at h
    cases h
    refine ⟨is, rfl, rfl, fun i hi => ?_⟩
    have hleads : Leads (Inserted t d) (Lacking t d) d i.cause i.location :=
      leads_of_tried hd .root (by rw [his]; exact hi)
    have haddr := hleads.addresses hu
    exact ⟨rfl, keptSteps_sublist (some d) i.location, hleads.filter_kept hu, haddr, haddr.label?_dropLast⟩

/-- What is read in a value is the value or one of its parts. -/
theorem Opens.self_or_part {t u : Ty} {j x : Json} {steps : List Step} (h : Opens t j steps u x) :
    x = j ∨ (∃ items, j = .arr items ∧ x ∈ items) ∨ ∃ ms k, j = .obj ms ∧ (k, x) ∈ ms := by
  cases h with
  | element hi => exact .inr (.inl ⟨_, rfl, List.mem_of_getElem? hi⟩)
  | first _ => exact .inr (.inl ⟨_, rfl, List.mem_cons_self⟩)
  | second => exact .inr (.inl ⟨_, rfl, List.mem_cons_of_mem _ List.mem_cons_self⟩)
  | entry hm => exact .inr (.inr ⟨_, _, rfl, hm⟩)
  | field _ hr => exact .inr (.inr ⟨_, _, rfl, mem_of_findField? hr⟩)
  | optional _ | switch _ _ | arm _ | tagged _ _ | registered _ | plain _ | allowed _ => exact .inl rfl

/-- Three parameters with a label that is no label. An object in its place has a path for each arm, with the name of the
    arm behind the key; the path of a short array ends with the index that is missing, and no arm is named; a label that
    is missing is the end of its path. -/
theorem parameter_label_addressed :
    let t : Ty := .list (.record .parameterInformation)
    let d : Json := .arr [.obj [("label", .obj [])], .obj [("label", .arr [.int 1])], .obj []]
    decodeData t d = .error
      [⟨.structural, "$[0].label.str", "Input should be a valid string"⟩,
        ⟨.structural, "$[0].label.tuple[constrained-int, constrained-int]", "Input should be a valid tuple"⟩,
        ⟨.structural, "$[1].label", "Input should be a valid string"⟩,
        ⟨.missingField, "$[1].label[1]", "Field required"⟩, ⟨.missingField, "$[2].label", "Field required"⟩] ∧
    ∃ is, decode .data t d = .error is ∧
      is.map (Issue.kept d) =
        [[.index 0, .key "label", .arm "str"], [.index 0, .key "label", .arm "tuple[constrained-int, constrained-int]"],
          [.index 1, .key "label"], [.index 1, .key "label", .index 1], [.index 2, .key "label"]] ∧
      ∀ i ∈ is, Addresses (Inserted t d) (Lacking t d) d i.cause.kind (i.kept d) := by
  intro t d
  have hdistinct : d.Distinct := by
    have hlabel : (Json.obj [("label", .obj [])]).Distinct := .obj (by decide) (by simp [Json.Distinct.obj])
    have hshort : (Json.obj [("label", .arr [.int 1])]).Distinct :=
      .obj (by decide) (by simp [Json.Distinct.arr, Json.Distinct.int])
    exact .arr (by simp [hlabel, hshort, Json.Distinct.obj])
  -- what is read is the list, one of the parameters at the class, or a part that has no members
  let parameters : List Json := [.obj [("label", .obj [])], .obj [("label", .arr [.int 1])], .obj []]
  have htried : ∀ {u j}, Tried t d u j → (∃ v, u = .list v ∧ v = .record .parameterInformation ∧ j = .arr parameters) ∨
      (u = .record .parameterInformation ∧ j ∈ parameters) ∨ j ∈ [.obj [], .arr [.int 1], .int 1] := by
    intro u j h
    induction h with
    | root => exact .inl ⟨_, rfl, rfl, rfl⟩
    | next _ hopens ih =>
      rcases ih with ⟨v, rfl, hv, rfl⟩ | ⟨rfl, hj⟩ | hj
      · cases hopens with
        | element hi => exact .inr (.inl ⟨hv, List.mem_of_getElem? hi⟩)
      · cases hopens with
        | field _ hr =>
          have hm := mem_of_findField? hr
          refine .inr (.inr ?_)
          simp only [parameters, List.mem_cons, List.not_mem_nil, or_false, Json.obj.injEq] at hj
          rcases hj with rfl | rfl | rfl <;> simp_all
      · refine .inr (.inr ?_)
        rcases hopens.self_or_part with rfl | ⟨items, rfl, hx⟩ | ⟨ms, k, rfl, hx⟩ <;> simp_all
  have hu : Unambiguous t d := by
    intro ms label h
    cases h with
    | arm hat _ hopens =>
      rcases htried hat with ⟨-, -, -, hms⟩ | ⟨rfl, -⟩ | hms
      · cases hms
      · cases hopens
      · obtain rfl : ms = [] := by simpa using hms
        rfl
    | mapKey hat hm _ =>
      rcases htried hat with ⟨-, -, -, hms⟩ | ⟨hmap, -⟩ | hms
      · cases hms
      · cases hmap
      · simp_all
  have hissues : decode .data t d = .error
      [⟨.expected .string, [.index 0, .key "label", .arm Ty.str.label]⟩,
        ⟨.expected .tuple, [.index 0, .key "label", .arm (Ty.pair .uint32 .uint32).label]⟩,
        ⟨.expected .string, [.index 1, .key "label", .arm Ty.str.label]⟩,
        ⟨.missing, [.index 1, .key "label", .arm (Ty.pair .uint32 .uint32).label, .index 1]⟩,
        ⟨.missing, [.index 2, .key "label"]⟩] := by
    have hf : recordOf .parameterInformation = parameterInformation := rfl
    simp [t, d, decode, decodeItems, decodeRecord, decodeFields, hf, parameterInformation, parameterLabel, record,
      required, Schema.optional, findField?, Members.find?, decodeFirst, decodeStr, decodeAbsent, Outcome.fail,
      Outcome.orElse, Outcome.both, Outcome.map, Outcome.within, Issue.within, Ty.uint32, decodeBounded, absentElement]
  obtain ⟨is, his, -, haddr⟩ := decodeData_path_addresses hdistinct hu (by rw [decodeData, hissues]; exact rfl)
  rw [hissues] at his
  cases his
  refine ⟨?_, _, hissues, rfl, fun i hi => (haddr i hi).2.2.2.1⟩
  rw [decodeData, hissues]
  rfl

end LspWire
