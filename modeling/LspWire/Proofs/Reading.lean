import LspWire.Codec.Decode
import LspWire.Proofs.Merged

/-!
# What is read

`Reads source t j v` says by rules what `decode` computes when it succeeds: the value `v` is read from `j` at `t`. The
rules leave out where problems are and what they are. Every success follows them (`reads_of_decode`), so a law about
decoded values is an induction over `Reads` and does not open `decode` again.

Parts are given by a function from what they are read from: the elements of a list are `items.map g`, and a record has
the value `g f` for its field `f`.
-/

namespace LspWire

open Schema

/-! ## Successful outcomes -/

namespace Outcome

variable {α β : Type}

@[simp] theorem map_eq_ok {f : α → β} {o : Outcome α} {b : β} : o.map f = .ok b ↔ ∃ a, o = .ok a ∧ f a = b := by
  cases o <;> simp [map]

@[simp] theorem both_eq_ok {o : Outcome α} {p : Outcome β} {c : α × β} :
    o.both p = .ok c ↔ o = .ok c.1 ∧ p = .ok c.2 := by
  cases o <;> cases p <;> simp [both, Prod.ext_iff]

@[simp] theorem within_eq_ok {s : Step} {o : Outcome α} {a : α} : o.within s = .ok a ↔ o = .ok a := by
  cases o <;> simp [within]

@[simp] theorem orElse_error_eq_ok {is : List Issue} {o : Outcome α} {a : α} :
    Outcome.orElse (.error is) o = .ok a ↔ o = .ok a := by
  cases o <;> simp [orElse]

@[simp] theorem fail_ne_ok {c : Cause} {a : α} : (fail c : Outcome α) ≠ .ok a := by simp [fail]

/-- Typed decoding succeeds with what the decoder reads; reporting concerns failures only. -/
theorem decodeData_eq_ok {t : Ty} {j : Json} {v : Value} : decodeData t j = .ok v ↔ decode .data t j = .ok v := by
  unfold decodeData
  cases decode .data t j with
  | ok w => exact ⟨fun h => by cases h; rfl, fun h => by cases h; rfl⟩
  | error is => exact iff_of_false (fun h => by cases h) fun h => by cases h

end Outcome

/-! ## Scalars -/

/-- Whether an integer is taken for a number. -/
def Source.TakesInt (source : Source) (n : Int) : Prop := source = .data → (Double.ofInt n).isFinite = true

/-- What is read from a JSON value at a type whose values have no parts. -/
inductive ReadsScalar (source : Source) : Ty → Json → Value → Prop
  | null : ReadsScalar source .null .null .null
  | bool (b : Bool) : ReadsScalar source .bool (.bool b) (.bool b)
  | integer (n : Int) : ReadsScalar source .integer (.int n) (.int n)
  | bounded {lo hi n : Int} : lo ≤ n → n ≤ hi → ReadsScalar source (.bounded lo hi) (.int n) (.int n)
  | float (x : Double) : ReadsScalar source .float (.float x) (.float x)
  | floatOfInt {n : Int} : source.TakesInt n → ReadsScalar source .float (.int n) (.float (Double.ofInt n))
  | str (s : String) : ReadsScalar source .str (.str s) (.str s)
  | uri (u : Uri) : ReadsScalar source .uri (.str u.text) (.uri u)
  | intEnum (e : IntEnum) {n : Int} : int32Min ≤ n → n ≤ int32Max →
      ReadsScalar source (.intEnum e) (.int n) (.intEnum e n)
  | openEnum (e : OpenEnum) (s : String) : ReadsScalar source (.openEnum e) (.str s) (.openEnum e s)
  | closedEnum {e : ClosedEnum} {name s : String} : (name, s) ∈ e.constants.members →
      ReadsScalar source (.closedEnum e) (.str s) (.closedEnum e s)
  | watchKind {set : Nat} : set ≤ WatchKind.every → ReadsScalar source .watchKind (.int set) (.watchKind set)
  | literal (text : String) : ReadsScalar source (.literal text) (.str text) (.str text)

/-- Whether the values of a type have no parts. -/
def Ty.isScalar : Ty → Bool
  | .null | .bool | .integer | .bounded .. | .float | .str | .uri | .intEnum _ | .openEnum _ | .closedEnum _
  | .watchKind | .literal _ => true
  | _ => false

/-- A URI is parsed from its own text and from no other. -/
theorem Uri.parse_eq_ok {s : String} {u : Uri} : parse s = .ok u ↔ u.text = s := by
  unfold parse
  split
  · constructor
    · rintro ⟨⟩; rfl
    · rintro rfl; rfl
  · next h =>
    simp only [reduceCtorEq, false_iff]
    rintro rfl
    rw [u.valid] at h; cases h

theorem WatchKind.ofInt?_eq_some {n : Int} {set : Nat} : ofInt? n = some set ↔ n = set ∧ set ≤ every := by
  unfold ofInt?
  split
  · next h => rw [Option.some.injEq]; omega
  · next h => simp only [reduceCtorEq, false_iff]; omega

theorem mem_texts {e : ClosedEnum} {s : String} :
    (e.constants.members.map (·.2)).contains s = true ↔ ∃ name, (name, s) ∈ e.constants.members := by
  simp

section Scalars

variable {source : Source} {j : Json} {v : Value}

theorem decodeFloat_eq_ok : decodeFloat source j = .ok v ↔ ReadsScalar source .float j v := by
  constructor
  · intro h
    cases j with
    | float x => cases h; exact .float x
    | int n =>
      simp only [decodeFloat] at h
      split at h
      · cases h; exact .floatOfInt fun h => by cases h
      · next hx => cases h; rw [← hx]; exact .floatOfInt fun _ => by rw [hx]; rfl
      · simp at h
    | _ => simp [decodeFloat] at h
  · rintro (_ | _ | _ | _ | _ | hn)
    · rfl
    · cases source with
      | text => rfl
      | data =>
        have hf := hn rfl
        cases hx : Double.ofInt _ with
        | finite s m q => simp only [decodeFloat, hx]
        | _ => rw [hx] at hf; cases hf

/-- A scalar is read by the rules. -/
theorem readsScalar_of_decode {t : Ty} (ht : t.isScalar = true) (h : decode source t j = .ok v) :
    ReadsScalar source t j v := by
  cases t with
  | null => cases j <;> simp [decode, decodeNull] at h; subst h; exact .null
  | bool => cases j <;> simp [decode, decodeBool] at h; subst h; exact .bool _
  | integer => cases j <;> simp [decode, decodeInteger] at h; subst h; exact .integer _
  | bounded lo hi =>
    cases j <;> simp only [decode, decodeBounded, Outcome.fail_ne_ok] at h
    split at h
    · simp at h
    split at h
    · simp at h
    cases h; exact .bounded (by omega) (by omega)
  | float => exact decodeFloat_eq_ok.1 (by rwa [decode] at h)
  | str => cases j <;> simp [decode, decodeStr] at h; subst h; exact .str _
  | uri =>
    cases j <;> simp only [decode, decodeUri, Outcome.fail_ne_ok] at h
    split at h
    · next u hu => cases h; rw [← Uri.parse_eq_ok.1 hu]; exact .uri u
    · simp at h
  | intEnum e =>
    cases j <;> simp only [decode, decodeIntEnum, Outcome.fail_ne_ok] at h
    split at h
    · next hn =>
      simp only [isInt32, Bool.and_eq_true, decide_eq_true_eq] at hn
      cases h; exact .intEnum e hn.1 hn.2
    · simp at h
  | openEnum e => cases j <;> simp [decode, decodeOpenEnum] at h; subst h; exact .openEnum e _
  | closedEnum e =>
    cases j <;> simp only [decode, decodeClosedEnum, Outcome.fail_ne_ok] at h
    split at h
    · next hs => cases h; exact .closedEnum (mem_texts.1 hs).choose_spec
    · simp at h
  | watchKind =>
    cases j <;> simp only [decode, decodeWatchKind, Outcome.fail_ne_ok] at h
    split at h
    · next set hs =>
      obtain ⟨rfl, hle⟩ := WatchKind.ofInt?_eq_some.1 hs
      cases h; exact .watchKind hle
    · simp at h
  | literal text =>
    cases j <;> simp only [decode, decodeLiteral, Outcome.fail_ne_ok] at h
    split at h
    · next hs => cases h; subst hs; exact .literal _
    · simp at h
  | _ => simp [Ty.isScalar] at ht

/-- What the rules give for a scalar is read. -/
theorem ReadsScalar.decode_eq {t : Ty} (h : ReadsScalar source t j v) : decode source t j = .ok v := by
  cases h with
  | null => rw [decode, decodeNull]
  | bool b => rw [decode, decodeBool]
  | integer n => rw [decode, decodeInteger]
  | bounded hlo hhi => rw [decode, decodeBounded, if_neg (by omega), if_neg (by omega)]
  | float x => rw [decode, decodeFloat]
  | floatOfInt hn => rw [decode, decodeFloat_eq_ok.2 (.floatOfInt hn)]
  | str s => rw [decode, decodeStr]
  | uri u => simp only [decode, decodeUri, Uri.parse_eq_ok.2 (rfl : u.text = u.text)]
  | intEnum e hlo hhi => simp [decode, decodeIntEnum, isInt32, hlo, hhi]
  | openEnum e s => rw [decode, decodeOpenEnum]
  | closedEnum hs => simp only [decode, decodeClosedEnum]; rw [if_pos (mem_texts.2 ⟨_, hs⟩)]
  | watchKind hle => simp only [decode, decodeWatchKind, WatchKind.ofInt?_eq_some.2 ⟨rfl, hle⟩]
  | literal text => rw [decode, decodeLiteral, if_pos rfl]

end Scalars

/-- An object is a registration if it has a registration key, whatever its value. -/
theorem isRegistration_iff {ms : List (String × Json)} :
    isRegistration ms = true ↔ ∃ m ∈ ms, m.1 ∈ registrationKeys := by
  simp only [isRegistration, List.any_eq_true, Members.has_iff]
  constructor
  · rintro ⟨k, hk, m, hm, rfl⟩; exact ⟨m, hm, hk⟩
  · rintro ⟨m, hm, hk⟩; exact ⟨m.1, hk, m, hm, rfl⟩

/-- What the test that skips the keys of a field says. -/
theorem Field.hasKey_iff {f : Field} {k : String} :
    (f.wire == k || f.name == k) = true ↔ k = f.wire ∨ k = f.name := by
  rw [Bool.or_eq_true, beq_iff_eq, beq_iff_eq]
  exact or_congr eq_comm eq_comm

/-- A field is found where a lookup of its key, or of its name, finds it. -/
theorem find?_of_findField? {f : Field} {ms : List (String × Json)} {k : String} {j : Json}
    (h : findField? f ms = some (k, j)) : Members.find? k ms = some j ∧ (k = f.wire ∨ k = f.name) := by
  unfold findField? at h
  split at h
  · next hw => cases h; exact ⟨hw, .inl rfl⟩
  · split at h
    · next hn => cases h; exact ⟨hn, .inr rfl⟩
    · cases h

theorem mem_of_findField? {f : Field} {ms : List (String × Json)} {k : String} {j : Json}
    (h : findField? f ms = some (k, j)) : (k, j) ∈ ms :=
  Members.mem_of_find? (find?_of_findField? h).1

/-! ## The rules -/

/-- The members of an object that a record keeps besides its fields. -/
def Schema.keptMembers (c : Class) (ms : List (String × Json)) : List (String × Json) :=
  if (recordOf c).keepsExtra then extraMembers (recordOf c).fields ms else []

theorem keptMembers_of_not_keepsExtra {c : Class} (ms : List (String × Json)) (h : (recordOf c).keepsExtra = false) :
    keptMembers c ms = [] := by
  rw [keptMembers, h]; rfl

/-- What is read from a JSON value at a type. -/
inductive Reads (source : Source) : Ty → Json → Value → Prop
  | any (j : Json) : Reads source .any j (.untyped j.merged)
  | scalar {t : Ty} {j : Json} {v : Value} : ReadsScalar source t j v → Reads source t j v
  | list {t : Ty} {items : List Json} (g : Json → Value) :
      (∀ j ∈ items, Reads source t j (g j)) → Reads source (.list t) (.arr items) (.list (items.map g))
  | pair {a b : Ty} {x y : Json} {v w : Value} :
      Reads source a x v → Reads source b y w → Reads source (.pair a b) (.arr [x, y]) (.pair v w)
  | map {keys : KeyKind} {t : Ty} {ms : List (String × Json)} (g : Json → Value) :
      (∀ m ∈ ms, decodeKey keys m.1 = .ok ()) → (∀ m ∈ ms, Reads source t m.2 (g m.2)) →
      Reads source (.map keys t) (.obj ms) (.map keys (Members.merge (ms.map fun m => (m.1, g m.2))))
  | record {c : Class} {ms : List (String × Json)} (g : Field → Value) :
      (∀ f ∈ (recordOf c).fields, ∀ k j, findField? f ms = some (k, j) → Reads source f.ty j (g f)) →
      (∀ f ∈ (recordOf c).fields, findField? f ms = none → f.absent = some (g f)) →
      Reads source (.record c) (.obj ms)
        (.record c ((recordOf c).fields.map fun f => (f.name, g f)) (keptMembers c ms))
  | optionalNull (t : Ty) : Reads source (.optional t) .null .null
  | optional {t : Ty} {j : Json} {v : Value} : j ≠ .null → Reads source t j v → Reads source (.optional t) j v
  | oneOf {pre post : List Ty} {t : Ty} {j : Json} {v : Value} :
      (∀ a ∈ pre, ∀ w, decode source a j ≠ .ok w) → Reads source t j v →
      Reads source (.oneOf (pre ++ t :: post)) j v
  | tagged {key tag : String} {arms : List (String × Ty)} {t : Ty} {ms : List (String × Json)} {v : Value} :
      Members.find? key ms = some (.str tag) → arms.lookup tag = some t → Reads source t (.obj ms) v →
      Reads source (.tagged key arms) (.obj ms) v
  | registered {b : Bool} {p r : Class} {ms : List (String × Json)} {v : Value} :
      isRegistration ms = true → Reads source (.record r) (.obj ms) v → Reads source (.provider b p r) (.obj ms) v
  | plain {b : Bool} {p r : Class} {ms : List (String × Json)} {v : Value} :
      isRegistration ms = false → Reads source (.record p) (.obj ms) v → Reads source (.provider b p r) (.obj ms) v
  | allowed (p r : Class) (b : Bool) : Reads source (.provider true p r) (.bool b) (.bool b)
  | switchNull (on : Value) (t : Ty) : Reads source (.switch on t) .null .null
  | switchOn (on : Value) (t : Ty) : Reads source (.switch on t) (.bool true) on
  | switchOff (on : Value) (t : Ty) : Reads source (.switch on t) (.bool false) .null
  | switch {on : Value} {t : Ty} {j : Json} {v : Value} : j ≠ .null → (∀ b, j ≠ .bool b) → Reads source t j v →
      Reads source (.switch on t) j v

/-! ## Parts that are read -/

section Parts

variable {source : Source}

/-- What an outcome gives, and `null` if it gives nothing. -/
def Outcome.got : Outcome Value → Value
  | .ok v => v
  | .error _ => .null

theorem Outcome.eq_ok_got {o : Outcome Value} : (∃ v, o = .ok v) → o = .ok o.got
  | ⟨v, hv⟩ => by rw [hv, Outcome.got]

theorem decodeItems_eq_ok {t : Ty} : ∀ {items : List Json} {i : Nat} {vs : List Value},
    decodeItems source t i items = .ok vs →
      (∀ j ∈ items, decode source t j = .ok (decode source t j).got) ∧ vs = items.map fun j => (decode source t j).got
  | [], _, _, h => by rw [decodeItems] at h; cases h; simp
  | j :: js, i, _, h => by
    rw [decodeItems] at h
    simp only [Outcome.map_eq_ok, Outcome.both_eq_ok, Outcome.within_eq_ok] at h
    obtain ⟨⟨v, vs⟩, ⟨hv, hvs⟩, rfl⟩ := h
    obtain ⟨hs, rfl⟩ := decodeItems_eq_ok hvs
    simpa [hv, Outcome.got] using hs

/-- Elements that are read one by one are read as a list. -/
theorem decodeItems_map {α : Type} {t : Ty} (e : α → Json) (g : α → Value) : ∀ (xs : List α) (i : Nat),
    (∀ x ∈ xs, decode source t (e x) = .ok (g x)) → decodeItems source t i (xs.map e) = .ok (xs.map g)
  | [], _, _ => by rw [List.map_nil, decodeItems]; rfl
  | x :: xs, i, h => by
    rw [List.map_cons, decodeItems, h x List.mem_cons_self,
      decodeItems_map e g xs (i + 1) fun y hy => h y (List.mem_cons_of_mem _ hy)]
    rfl

theorem decodeEntries_eq_ok {keys : KeyKind} {t : Ty} : ∀ {ms : List (String × Json)} {es : List (String × Value)},
    decodeEntries source keys t ms = .ok es →
      (∀ m ∈ ms, decodeKey keys m.1 = .ok ()) ∧ (∀ m ∈ ms, decode source t m.2 = .ok (decode source t m.2).got) ∧
        es = ms.map fun m => (m.1, (decode source t m.2).got)
  | [], _, h => by rw [decodeEntries] at h; cases h; simp
  | (k, j) :: ms, _, h => by
    rw [decodeEntries] at h
    simp only [Outcome.map_eq_ok, Outcome.both_eq_ok, Outcome.within_eq_ok] at h
    obtain ⟨⟨⟨⟨⟩, v⟩, es⟩, ⟨⟨hk, hv⟩, hes⟩, rfl⟩ := h
    obtain ⟨hks, hvs, rfl⟩ := decodeEntries_eq_ok hes
    simp only at hk hv
    refine ⟨?_, ?_, by simp [hv, Outcome.got]⟩
    · simpa [hk] using hks
    · simpa [hv, Outcome.got] using hvs

/-- Entries whose keys and values are read one by one are read as a map. -/
theorem decodeEntries_map {α : Type} {keys : KeyKind} {t : Ty} (e : α → Json) (g : α → Value) :
    ∀ xs : List (String × α), (∀ x ∈ xs, decodeKey keys x.1 = .ok ()) →
      (∀ x ∈ xs, decode source t (e x.2) = .ok (g x.2)) →
        decodeEntries source keys t (xs.map fun x => (x.1, e x.2)) = .ok (xs.map fun x => (x.1, g x.2))
  | [], _, _ => by rw [List.map_nil, decodeEntries]; rfl
  | x :: xs, hk, h => by
    rw [List.map_cons, decodeEntries, hk x List.mem_cons_self, h x List.mem_cons_self,
      decodeEntries_map e g xs (fun y hy => hk y (List.mem_cons_of_mem _ hy))
        fun y hy => h y (List.mem_cons_of_mem _ hy)]
    rfl

/-- What the field of a record is read as. -/
def decodeField (source : Source) (f : Field) (ms : List (String × Json)) : Outcome Value :=
  match findField? f ms with
  | some (_, j) => decode source f.ty j
  | none => decodeAbsent f

/-- What a field is read as, seen from the record: its issues lie behind the key that it is read from. -/
def fieldOutcome (source : Source) (f : Field) (ms : List (String × Json)) : Outcome Value :=
  match findField? f ms with
  | some (k, j) => (decode source f.ty j).within (.key k)
  | none => decodeAbsent f

/-- Seen from the record or on its own, a field is read as the same value. -/
theorem fieldOutcome_eq_ok {f : Field} {ms : List (String × Json)} {v : Value} :
    fieldOutcome source f ms = .ok v ↔ decodeField source f ms = .ok v := by
  unfold fieldOutcome decodeField
  split
  · rw [Outcome.within_eq_ok]
  · rfl

theorem decodeFields_eq_both (f : Field) (fields : List Field) (ms : List (String × Json)) :
    decodeFields source (f :: fields) ms =
      ((fieldOutcome source f ms).both (decodeFields source fields ms)).map fun p => (f.name, p.1) :: p.2 := by
  rw [decodeFields, fieldOutcome]
  congr 2
  split <;> simp only [*]

theorem decodeFields_cons {f : Field} {fields : List Field} {ms : List (String × Json)}
    {fs : List (String × Value)} : decodeFields source (f :: fields) ms = .ok fs ↔
      ∃ v vs, decodeField source f ms = .ok v ∧ decodeFields source fields ms = .ok vs ∧ fs = (f.name, v) :: vs := by
  simp only [decodeFields_eq_both, Outcome.map_eq_ok, Outcome.both_eq_ok, fieldOutcome_eq_ok]
  constructor
  · rintro ⟨⟨v, vs⟩, ⟨hv, hvs⟩, rfl⟩
    exact ⟨v, vs, hv, hvs, rfl⟩
  · rintro ⟨v, vs, hv, hvs, rfl⟩
    exact ⟨(v, vs), ⟨hv, hvs⟩, rfl⟩

/-- Fields that are read together are read one by one. -/
theorem decodeFields_eq_ok {ms : List (String × Json)} : ∀ {fields : List Field} {fs : List (String × Value)},
    decodeFields source fields ms = .ok fs →
      (∀ f ∈ fields, decodeField source f ms = .ok (decodeField source f ms).got) ∧
        fs = fields.map fun f => (f.name, (decodeField source f ms).got)
  | [], _, h => by rw [decodeFields] at h; cases h; simp
  | f :: fields, _, h => by
    obtain ⟨v, vs, hv, hvs, rfl⟩ := decodeFields_cons.1 h
    obtain ⟨hs, rfl⟩ := decodeFields_eq_ok hvs
    simpa [hv, Outcome.got] using hs

/-- Fields that are read one by one are read together. -/
theorem decodeFields_map {ms : List (String × Json)} (g : Field → Value) : ∀ fields : List Field,
    (∀ f ∈ fields, decodeField source f ms = .ok (g f)) →
      decodeFields source fields ms = .ok (fields.map fun f => (f.name, g f))
  | [], _ => by rw [decodeFields]; rfl
  | f :: fields, h => decodeFields_cons.2 ⟨g f, _, h f List.mem_cons_self,
    decodeFields_map g fields fun f' hf => h f' (List.mem_cons_of_mem _ hf), rfl⟩

theorem decodeAbsent_eq_ok {f : Field} {v : Value} : decodeAbsent f = .ok v ↔ f.absent = some v := by
  unfold decodeAbsent
  cases f.absent <;> simp

/-- The first of the types that reads a value. -/
theorem decodeFirst_eq_ok {j : Json} {v : Value} : ∀ {arms : List Ty}, decodeFirst source arms j = .ok v →
    ∃ pre t post, arms = pre ++ t :: post ∧ (∀ a ∈ pre, ∀ w, decode source a j ≠ .ok w) ∧ decode source t j = .ok v
  | [], h => by rw [decodeFirst] at h; cases h
  | t :: ts, h => by
    rw [decodeFirst] at h
    split at h
    · next w hw => cases h; exact ⟨[], t, ts, rfl, by simp, hw⟩
    · next is his =>
      rw [Outcome.within, Outcome.orElse_error_eq_ok] at h
      obtain ⟨pre, a, post, rfl, hpre, ha⟩ := decodeFirst_eq_ok h
      refine ⟨t :: pre, a, post, rfl, fun b hb w hw => ?_, ha⟩
      rcases List.mem_cons.1 hb with rfl | hb
      · rw [his] at hw; cases hw
      · exact hpre b hb w hw

/-- If no type reads anything but `v`, and one reads that, the first that reads the value reads `v`. -/
theorem decodeFirst_of_mem {j : Json} {v : Value} {t : Ty} {post : List Ty} (h : decode source t j = .ok v) :
    ∀ {pre : List Ty}, (∀ a ∈ pre, ∀ w, decode source a j = .ok w → w = v) →
      decodeFirst source (pre ++ t :: post) j = .ok v
  | [], _ => by rw [List.nil_append, decodeFirst, h]
  | a :: pre, hpre => by
    rw [List.cons_append, decodeFirst]
    split
    · next w hw => rw [hpre a List.mem_cons_self w hw]
    · rw [Outcome.within, Outcome.orElse_error_eq_ok]
      exact decodeFirst_of_mem h fun b hb => hpre b (List.mem_cons_of_mem _ hb)

/-- The type that a tag names. -/
theorem decodeTagged_eq_ok {key tag : String} {known : List String} {j : Json} {v : Value} :
    ∀ {arms : List (String × Ty)}, decodeTagged source key tag known arms j = .ok v ↔
      ∃ t, arms.lookup tag = some t ∧ decode source t j = .ok v
  | [] => by rw [decodeTagged]; simp
  | (name, t) :: arms => by
    rw [decodeTagged, List.lookup_cons]
    by_cases h : name = tag
    · simp [h]
    · rw [if_neg h, decodeTagged_eq_ok, beq_eq_false_iff_ne.2 (Ne.symm h)]

/-- What a record is read from: an object each of whose fields is read on its own. -/
theorem decodeRecord_eq_ok {c : Class} {j : Json} {v : Value} (h : decodeRecord source c j = .ok v) :
    ∃ ms, j = .obj ms ∧ (∀ f ∈ (recordOf c).fields, decodeField source f ms = .ok (decodeField source f ms).got) ∧
      v = .record c ((recordOf c).fields.map fun f => (f.name, (decodeField source f ms).got)) (keptMembers c ms) := by
  cases j with
  | obj ms =>
    rw [decodeRecord] at h
    obtain ⟨fs, hfs, rfl⟩ := Outcome.map_eq_ok.1 h
    obtain ⟨hok, rfl⟩ := decodeFields_eq_ok hfs
    exact ⟨ms, rfl, hok, rfl⟩
  | _ => simp [decodeRecord] at h

/-- An object whose fields are read one by one is read as a record. -/
theorem decodeRecord_map {c : Class} {ms : List (String × Json)} (g : Field → Value)
    (h : ∀ f ∈ (recordOf c).fields, decodeField source f ms = .ok (g f)) :
    decodeRecord source c (.obj ms) =
      .ok (.record c ((recordOf c).fields.map fun f => (f.name, g f)) (keptMembers c ms)) := by
  rw [decodeRecord, decodeFields_map g _ h]
  rfl

end Parts

/-! ## Success by the form of the type -/

section Forms

variable {source : Source} {j : Json} {v : Value}

theorem decode_record (c : Class) (j : Json) : decode source (.record c) j = decodeRecord source c j := by rw [decode]

theorem decode_oneOf (arms : List Ty) (j : Json) : decode source (.oneOf arms) j = decodeFirst source arms j := by
  rw [decode]

theorem decode_list_eq_ok {t : Ty} (h : decode source (.list t) j = .ok v) :
    ∃ items, j = .arr items ∧ (∀ x ∈ items, decode source t x = .ok (decode source t x).got) ∧
      v = .list (items.map fun x => (decode source t x).got) := by
  cases j with
  | arr items =>
    rw [decode] at h
    obtain ⟨vs, hvs, rfl⟩ := Outcome.map_eq_ok.1 h
    obtain ⟨hok, rfl⟩ := decodeItems_eq_ok hvs
    exact ⟨items, rfl, hok, rfl⟩
  | _ => simp [decode] at h

theorem decode_list_map {α : Type} {t : Ty} (e : α → Json) (g : α → Value) {xs : List α}
    (h : ∀ x ∈ xs, decode source t (e x) = .ok (g x)) :
    decode source (.list t) (.arr (xs.map e)) = .ok (.list (xs.map g)) := by
  rw [decode, decodeItems_map e g xs 0 h]
  rfl

theorem decode_pair {a b : Ty} {x y : Json} {w : Value} (hx : decode source a x = .ok v)
    (hy : decode source b y = .ok w) : decode source (.pair a b) (.arr [x, y]) = .ok (.pair v w) := by
  rw [decode, hx, hy]
  rfl

theorem decode_map_map {α : Type} {keys : KeyKind} {t : Ty} (e : α → Json) (g : α → Value) {xs : List (String × α)}
    (hk : ∀ x ∈ xs, decodeKey keys x.1 = .ok ()) (h : ∀ x ∈ xs, decode source t (e x.2) = .ok (g x.2)) :
    decode source (.map keys t) (.obj (xs.map fun x => (x.1, e x.2))) =
      .ok (.map keys (Members.merge (xs.map fun x => (x.1, g x.2)))) := by
  rw [decode, decodeEntries_map e g xs hk h]
  rfl

theorem decode_registered {b : Bool} {p r : Class} {ms : List (String × Json)} (hr : isRegistration ms = true)
    (h : decode source (.record r) (.obj ms) = .ok v) : decode source (.provider b p r) (.obj ms) = .ok v := by
  rw [decode_record] at h
  rw [decode, if_pos hr, h]
  rfl

theorem decode_plain {b : Bool} {p r : Class} {ms : List (String × Json)} (hr : isRegistration ms = false)
    (h : decode source (.record p) (.obj ms) = .ok v) : decode source (.provider b p r) (.obj ms) = .ok v := by
  rw [decode_record] at h
  rw [decode, if_neg (by simp [hr]), h]
  rfl

theorem decode_allowed (p r : Class) (b : Bool) : decode source (.provider true p r) (.bool b) = .ok (.bool b) := by
  rw [decode, if_pos rfl, decodeBool]
  · rfl
  · simp

theorem decode_pair_eq_ok {a b : Ty} (h : decode source (.pair a b) j = .ok v) :
    ∃ x y u w, j = .arr [x, y] ∧ v = .pair u w ∧ decode source a x = .ok u ∧ decode source b y = .ok w := by
  rcases j with _ | _ | _ | _ | _ | (_ | ⟨x, _ | ⟨y, _ | ⟨z, items⟩⟩⟩) | _
  case arr.cons.cons.nil =>
    simp only [decode, Outcome.map_eq_ok, Outcome.both_eq_ok, Outcome.within_eq_ok] at h
    obtain ⟨⟨u, w⟩, ⟨hu, hw⟩, rfl⟩ := h
    exact ⟨x, y, u, w, rfl, rfl, hu, hw⟩
  all_goals simp [decode, absentElement] at h

theorem decode_map_eq_ok {keys : KeyKind} {t : Ty} (h : decode source (.map keys t) j = .ok v) :
    ∃ ms, j = .obj ms ∧ (∀ m ∈ ms, decodeKey keys m.1 = .ok ()) ∧
      (∀ m ∈ ms, decode source t m.2 = .ok (decode source t m.2).got) ∧
      v = .map keys (Members.merge (ms.map fun m => (m.1, (decode source t m.2).got))) := by
  cases j with
  | obj ms =>
    rw [decode] at h
    obtain ⟨es, hes, rfl⟩ := Outcome.map_eq_ok.1 h
    obtain ⟨hk, hok, rfl⟩ := decodeEntries_eq_ok hes
    exact ⟨ms, rfl, hk, hok, rfl⟩
  | _ => simp [decode] at h

/-- A tagged union reads an object at the arm that its tag names. -/
theorem decode_tagged_eq_ok {key : String} {arms : List (String × Ty)} :
    decode source (.tagged key arms) j = .ok v ↔
      ∃ ms tag t, j = .obj ms ∧ Members.find? key ms = some (.str tag) ∧ arms.lookup tag = some t ∧
        decode source t (.obj ms) = .ok v := by
  cases j with
  | obj ms =>
    rw [decode]
    split
    · next hk => simp [hk]
    · next tag hk => simp [hk, decodeTagged_eq_ok]
    · next x hx hk =>
      simp only [Outcome.fail_ne_ok, false_iff]
      rintro ⟨_, tag, _, ⟨⟩, htag, -⟩
      rw [hk] at htag
      exact hx tag (Option.some.inj htag)
  | _ => simp [decode]

/-- A provider reads a registration if there is a registration key, plain options if there is none, and a flag where it
    takes one. -/
theorem decode_provider_eq_ok {b : Bool} {p r : Class} (h : decode source (.provider b p r) j = .ok v) :
    (∃ ms, j = .obj ms ∧ isRegistration ms = true ∧ decode source (.record r) (.obj ms) = .ok v) ∨
    (∃ ms, j = .obj ms ∧ isRegistration ms = false ∧ decode source (.record p) (.obj ms) = .ok v) ∨
    (b = true ∧ ∃ c, j = .bool c ∧ v = .bool c) := by
  simp only [decode_record]
  cases j with
  | obj ms =>
    rw [decode] at h
    split at h
    · next hr => exact .inl ⟨ms, rfl, hr, Outcome.within_eq_ok.1 h⟩
    · next hr => exact .inr (.inl ⟨ms, rfl, by simpa using hr, Outcome.within_eq_ok.1 h⟩)
  | bool c =>
    cases b with
    | false => simp [decode] at h
    | true =>
      simp only [decode, decodeBool, if_true, Outcome.within_eq_ok, Except.ok.injEq] at h
      exact .inr (.inr ⟨rfl, c, rfl, h.symm⟩)
  | _ => cases b <;> simp [decode, decodeBool] at h

theorem decode_optional_of_ne {t : Ty} (hj : j ≠ .null) : decode source (.optional t) j = decode source t j := by
  cases j <;> first | exact absurd rfl hj | rw [decode]; simp

theorem decode_switch_of_ne {on : Value} {t : Ty} (hj : j ≠ .null) (hb : ∀ b, j ≠ .bool b) :
    decode source (.switch on t) j = decode source t j := by
  cases j <;> first | exact absurd rfl hj | exact absurd rfl (hb _) | rw [decode] <;> simp

end Forms

/-! ## Every success follows the rules -/

theorem sizeOf_lt_arr {items : List Json} {j : Json} (h : j ∈ items) : sizeOf j < sizeOf (Json.arr items) := by
  have := List.sizeOf_lt_of_mem h
  simp only [Json.arr.sizeOf_spec]
  omega

theorem sizeOf_lt_obj {ms : List (String × Json)} {m : String × Json} (h : m ∈ ms) :
    sizeOf m.2 < sizeOf (Json.obj ms) := by
  have := List.sizeOf_lt_of_mem h
  obtain ⟨k, j⟩ := m
  simp only [Json.obj.sizeOf_spec, Prod.mk.sizeOf_spec] at *
  omega

theorem mem_of_lookup {tag : String} {t : Ty} : ∀ {arms : List (String × Ty)}, arms.lookup tag = some t →
    (tag, t) ∈ arms
  | [], h => by simp at h
  | (name, a) :: arms, h => by
    rw [List.lookup_cons] at h
    split at h
    · next he => cases h; rw [beq_iff_eq.1 he]; exact List.mem_cons_self
    · exact List.mem_cons_of_mem _ (mem_of_lookup h)

theorem lookup_of_mem {tag : String} {t : Ty} : ∀ {arms : List (String × Ty)}, (arms.map (·.1)).Nodup →
    (tag, t) ∈ arms → arms.lookup tag = some t
  | (name, a) :: arms, hd, h => by
    rw [List.map_cons, List.nodup_cons] at hd
    rw [List.lookup_cons]
    rcases List.mem_cons.1 h with h | h
    · cases h; simp
    · have hne : tag ≠ name := fun e => hd.1 (e ▸ List.mem_map.2 ⟨_, h, rfl⟩)
      rw [beq_eq_false_iff_ne.2 hne]
      exact lookup_of_mem hd.2 h

theorem sizeOf_lt_arms {tag : String} {t : Ty} {arms : List (String × Ty)} (h : arms.lookup tag = some t) :
    sizeOf t < sizeOf arms := by
  have := List.sizeOf_lt_of_mem (mem_of_lookup h)
  simp only [Prod.mk.sizeOf_spec] at this
  omega

/-- What the rules read is read. -/
theorem Reads.decode_eq {source : Source} {t : Ty} {j : Json} {v : Value} (h : Reads source t j v) :
    decode source t j = .ok v := by
  induction h with
  | any j => rw [decode]
  | scalar h => exact h.decode_eq
  | @list t items g _ ih => simpa using decode_list_map id g ih
  | pair _ _ iha ihb => exact decode_pair iha ihb
  | @map keys t ms g hk _ ih => simpa using decode_map_map id g hk ih
  | record g _ habsent ih =>
    rw [decode_record]
    refine decodeRecord_map g fun f hf => ?_
    unfold decodeField
    split
    · next k j hj => exact ih f hf k j hj
    · next hn => exact decodeAbsent_eq_ok.2 (habsent f hf hn)
  | optionalNull t => rw [decode]
  | optional hj _ ih => rwa [decode_optional_of_ne hj]
  | oneOf hpre _ ih =>
    rw [decode_oneOf]
    exact decodeFirst_of_mem ih fun a ha w hw => absurd hw (hpre a ha w)
  | tagged htag ht _ ih => exact decode_tagged_eq_ok.2 ⟨_, _, _, rfl, htag, ht, ih⟩
  | registered hr _ ih => exact decode_registered hr ih
  | plain hr _ ih => exact decode_plain hr ih
  | allowed p r b => exact decode_allowed p r b
  | switchNull on t => rw [decode]
  | switchOn on t => rw [decode]
  | switchOff on t => rw [decode]
  | switch hj hb _ ih => rwa [decode_switch_of_ne hj hb]

/-- **What is read is read by the rules.** -/
theorem reads_of_decode {source : Source} : ∀ (t : Ty) (j : Json) {v : Value}, decode source t j = .ok v →
    Reads source t j v
  | .any, j, _, h => by rw [decode] at h; cases h; exact .any j
  | .null, _, _, h | .bool, _, _, h | .integer, _, _, h | .bounded .., _, _, h | .float, _, _, h | .str, _, _, h
  | .uri, _, _, h | .intEnum _, _, _, h | .openEnum _, _, _, h | .closedEnum _, _, _, h | .watchKind, _, _, h
  | .literal _, _, _, h => .scalar (readsScalar_of_decode rfl h)
  | .list t, j, _, h => by
    obtain ⟨items, rfl, hok, rfl⟩ := decode_list_eq_ok h
    exact .list _ fun x hx => reads_of_decode t x (hok x hx)
  | .pair a b, j, _, h => by
    obtain ⟨x, y, u, w, rfl, rfl, hu, hw⟩ := decode_pair_eq_ok h
    exact .pair (reads_of_decode a x hu) (reads_of_decode b y hw)
  | .map keys t, j, _, h => by
    obtain ⟨ms, rfl, hk, hok, rfl⟩ := decode_map_eq_ok h
    exact .map (fun j => (decode source t j).got) hk fun m hm => reads_of_decode t m.2 (hok m hm)
  | .record c, j, _, h => by
    rw [decode_record] at h
    obtain ⟨ms, rfl, hok, rfl⟩ := decodeRecord_eq_ok h
    refine .record (fun f => (decodeField source f ms).got) (fun f hf k j hj => ?_) fun f hf hn => ?_
    · have hd := hok f hf
      unfold decodeField at hd ⊢
      rw [hj] at hd ⊢
      have := sizeOf_findField? hj
      exact reads_of_decode f.ty j hd
    · have hd := hok f hf
      unfold decodeField at hd ⊢
      rw [hn] at hd ⊢
      exact decodeAbsent_eq_ok.1 hd
  | .optional t, j, _, h => by
    by_cases hj : j = .null
    · subst hj; rw [decode] at h; cases h; exact .optionalNull t
    · exact .optional hj (reads_of_decode t j (by rwa [decode_optional_of_ne hj] at h))
  | .oneOf arms, j, _, h => by
    obtain ⟨pre, t, post, rfl, hpre, ht⟩ := decodeFirst_eq_ok ((decode_oneOf arms j).symm.trans h)
    exact .oneOf hpre (reads_of_decode t j ht)
  | .tagged key arms, j, _, h => by
    obtain ⟨ms, tag, t, rfl, htag, ht, hv⟩ := decode_tagged_eq_ok.1 h
    exact .tagged htag ht (reads_of_decode t _ hv)
  | .provider b p r, j, _, h => by
    rcases decode_provider_eq_ok h with ⟨ms, rfl, hr, hv⟩ | ⟨ms, rfl, hr, hv⟩ | ⟨rfl, c, rfl, rfl⟩
    · exact .registered hr (reads_of_decode (.record r) _ hv)
    · exact .plain hr (reads_of_decode (.record p) _ hv)
    · exact .allowed p r c
  | .switch on t, j, _, h => by
    by_cases hj : j = .null
    · subst hj; rw [decode] at h; cases h; exact .switchNull on t
    by_cases hb : ∃ b, j = .bool b
    · obtain ⟨b, rfl⟩ := hb
      cases b <;> rw [decode] at h <;> cases h
      · exact .switchOff on t
      · exact .switchOn on t
    · have hb : ∀ b, j ≠ .bool b := fun b e => hb ⟨b, e⟩
      exact .switch hj hb (reads_of_decode t j (by rwa [decode_switch_of_ne hj hb] at h))
termination_by t j => (sizeOf j, sizeOf t)
decreasing_by
  all_goals subst_vars
  · exact .left _ _ (sizeOf_lt_arr hx)
  · exact .left _ _ (sizeOf_lt_arr List.mem_cons_self)
  · exact .left _ _ (sizeOf_lt_arr (List.mem_cons_of_mem _ List.mem_cons_self))
  · exact .left _ _ (sizeOf_lt_obj hm)
  · exact .left _ _ (by simp only [Json.obj.sizeOf_spec]; omega)
  · exact .right _ (by simp only [Ty.optional.sizeOf_spec]; omega)
  · have hlt : sizeOf t < sizeOf (pre ++ t :: post) := List.sizeOf_lt_of_mem (by simp)
    exact .right _ (by simp only [Ty.oneOf.sizeOf_spec]; omega)
  · have hlt := sizeOf_lt_arms ht
    exact .right _ (by simp only [Ty.tagged.sizeOf_spec]; omega)
  · exact .right _ (by simp only [Ty.provider.sizeOf_spec, Ty.record.sizeOf_spec, Bool.sizeOf_eq_one]; omega)
  · exact .right _ (by simp only [Ty.provider.sizeOf_spec, Ty.record.sizeOf_spec, Bool.sizeOf_eq_one]; omega)
  · exact .right _ (by simp only [Ty.switch.sizeOf_spec]; omega)

end LspWire
