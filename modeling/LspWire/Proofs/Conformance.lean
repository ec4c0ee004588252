import LspWire.Proofs.Library

/-!
# Conformance

`Conforms source t j` says when a JSON value has the shape that a type describes. It names no order, no first match and
no error: a record is an object with all its required fields, an untagged union is the union of its arms, a tagged one
is the arm of the tag. The decoder accepts exactly the values that conform (`decode_ok_iff`).

The source matters in one place. A text may write an integer of any size for a number, while data must hold one whose
nearest binary64 value is finite.
-/

namespace LspWire

open Schema

/-! ## What conforms -/

/-- Whether a text is a URI reference. -/
def Uri.Accepts (s : String) : Prop := (split s.toList).problem? = none

/-- Whether a text is a key of a map. -/
def KeyKind.Accepts : KeyKind → String → Prop
  | .text, _ => True
  | .uri, k => Uri.Accepts k

/-- A value under the wire key of a field, or under its name where the wire key is absent. -/
inductive Field.ReadsFrom (f : Field) (ms : List (String × Json)) (j : Json) : Prop
  | wire : Members.find? f.wire ms = some j → ReadsFrom f ms j
  | name : (∀ m ∈ ms, m.1 ≠ f.wire) → Members.find? f.name ms = some j → ReadsFrom f ms j

theorem Field.ReadsFrom.eq {f : Field} {ms : List (String × Json)} {j k : Json} (h : f.ReadsFrom ms j)
    (hk : Members.find? f.wire ms = some k) : j = k := by
  rcases h with h | ⟨h, -⟩
  · exact Option.some.inj (h.symm.trans hk)
  · rw [Members.find?_eq_none.2 h] at hk; cases hk

/-- Whether one of the keys of an object is a registration key. -/
def Schema.Registers (ms : List (String × Json)) : Prop := ∃ m ∈ ms, m.1 ∈ registrationKeys

/-- A JSON value has the shape that a type describes. -/
inductive Conforms (source : Source) : Ty → Json → Prop
  | any (j : Json) : Conforms source .any j
  | null : Conforms source .null .null
  | bool (b : Bool) : Conforms source .bool (.bool b)
  | integer (n : Int) : Conforms source .integer (.int n)
  | bounded {lo hi n : Int} : lo ≤ n → n ≤ hi → Conforms source (.bounded lo hi) (.int n)
  | float (x : Double) : Conforms source .float (.float x)
  | floatOfInt {n : Int} : source.TakesInt n → Conforms source .float (.int n)
  | str (s : String) : Conforms source .str (.str s)
  | uri {s : String} : Uri.Accepts s → Conforms source .uri (.str s)
  | intEnum (e : IntEnum) {n : Int} : int32Min ≤ n → n ≤ int32Max → Conforms source (.intEnum e) (.int n)
  | openEnum (e : OpenEnum) (s : String) : Conforms source (.openEnum e) (.str s)
  | closedEnum {e : ClosedEnum} {name s : String} : (name, s) ∈ e.constants.members →
      Conforms source (.closedEnum e) (.str s)
  | watchKind {n : Int} : 0 ≤ n → n ≤ 7 → Conforms source .watchKind (.int n)
  | literal (text : String) : Conforms source (.literal text) (.str text)
  | list {t : Ty} {items : List Json} : (∀ j ∈ items, Conforms source t j) → Conforms source (.list t) (.arr items)
  | pair {a b : Ty} {x y : Json} : Conforms source a x → Conforms source b y →
      Conforms source (.pair a b) (.arr [x, y])
  | map {keys : KeyKind} {t : Ty} {ms : List (String × Json)} : (∀ m ∈ ms, keys.Accepts m.1) →
      (∀ m ∈ ms, Conforms source t m.2) → Conforms source (.map keys t) (.obj ms)
  | record {c : Class} {ms : List (String × Json)} :
      (∀ f ∈ (recordOf c).fields, f.absent = none → ∃ j, f.ReadsFrom ms j) →
      (∀ f ∈ (recordOf c).fields, ∀ j, f.ReadsFrom ms j → Conforms source f.ty j) →
      Conforms source (.record c) (.obj ms)
  | optionalNull (t : Ty) : Conforms source (.optional t) .null
  | optional {t : Ty} {j : Json} : Conforms source t j → Conforms source (.optional t) j
  | oneOf {arms : List Ty} {t : Ty} {j : Json} : t ∈ arms → Conforms source t j → Conforms source (.oneOf arms) j
  | tagged {key tag : String} {arms : List (String × Ty)} {t : Ty} {ms : List (String × Json)} :
      Members.find? key ms = some (.str tag) → (tag, t) ∈ arms → Conforms source t (.obj ms) →
      Conforms source (.tagged key arms) (.obj ms)
  | registered (b : Bool) (p : Class) {r : Class} {ms : List (String × Json)} : Registers ms →
      Conforms source (.record r) (.obj ms) → Conforms source (.provider b p r) (.obj ms)
  | plain (b : Bool) {p : Class} (r : Class) {ms : List (String × Json)} : ¬ Registers ms →
      Conforms source (.record p) (.obj ms) → Conforms source (.provider b p r) (.obj ms)
  | allowed (p r : Class) (b : Bool) : Conforms source (.provider true p r) (.bool b)
  | switchNull (on : Value) (t : Ty) : Conforms source (.switch on t) .null
  | switchBool (on : Value) (t : Ty) (b : Bool) : Conforms source (.switch on t) (.bool b)
  | switch (on : Value) {t : Ty} {j : Json} : Conforms source t j → Conforms source (.switch on t) j

/-! ## Scalars and keys -/

theorem Uri.parse_ok_iff {s : String} : (∃ u, parse s = .ok u) ↔ Accepts s := by
  unfold parse Accepts
  split
  · next h => simp [h]
  · next h => simp [h]

theorem decodeKey_ok_iff {keys : KeyKind} {k : String} : decodeKey keys k = .ok () ↔ keys.Accepts k := by
  cases keys with
  | text => simp [decodeKey, KeyKind.Accepts]
  | uri =>
    rw [KeyKind.Accepts, ← Uri.parse_ok_iff, decodeKey]
    cases Uri.parse k <;> simp

theorem findField?_iff {f : Field} {ms : List (String × Json)} {j : Json} :
    (∃ k, findField? f ms = some (k, j)) ↔ f.ReadsFrom ms j := by
  unfold findField?
  split
  · next w hw =>
    constructor
    · rintro ⟨k, hk⟩; cases hk; exact .wire hw
    · exact fun h => ⟨f.wire, by rw [h.eq hw]⟩
  · next hw =>
    constructor
    · rintro ⟨k, hk⟩
      split at hk
      · next hn => cases hk; exact .name (Members.find?_eq_none.1 hw) hn
      · cases hk
    · rintro (h | ⟨-, h⟩)
      · rw [hw] at h; cases h
      · exact ⟨f.name, by rw [h]⟩

/-- What is read as a scalar conforms. -/
theorem ReadsScalar.conforms {source : Source} {t : Ty} {j : Json} {v : Value} (h : ReadsScalar source t j v) :
    Conforms source t j := by
  cases h with
  | null => exact .null
  | bool b => exact .bool b
  | integer n => exact .integer n
  | bounded hlo hhi => exact .bounded hlo hhi
  | float x => exact .float x
  | floatOfInt hn => exact .floatOfInt hn
  | str s => exact .str s
  | uri u => exact .uri u.valid
  | intEnum e hlo hhi => exact .intEnum e hlo hhi
  | openEnum e s => exact .openEnum e s
  | closedEnum hs => exact .closedEnum hs
  | @watchKind set hle => exact .watchKind (Int.natCast_nonneg set) (by simp only [WatchKind.every] at hle; omega)
  | literal text => exact .literal text

/-! ## Acceptance -/

section Acceptance

variable {source : Source}

/-- What is read conforms. -/
theorem Reads.conforms {t : Ty} {j : Json} {v : Value} (h : Reads source t j v) : Conforms source t j := by
  induction h with
  | any j => exact .any j
  | scalar h => exact h.conforms
  | list _ _ ih => exact .list ih
  | pair _ _ iha ihb => exact .pair iha ihb
  | map _ hk _ ih => exact .map (fun m hm => decodeKey_ok_iff.1 (hk m hm)) ih
  | record _ _ habsent ih =>
    refine .record (fun f hf hn => ?_) fun f hf j hj => ?_
    · cases hr : findField? f _ with
      | some p => exact ⟨p.2, findField?_iff.1 ⟨p.1, hr⟩⟩
      | none => rw [habsent f hf hr] at hn; cases hn
    · obtain ⟨k, hk⟩ := findField?_iff.2 hj
      exact ih f hf k j hk
  | optionalNull t => exact .optionalNull t
  | optional _ _ ih => exact .optional ih
  | oneOf _ _ ih => exact .oneOf (by simp) ih
  | tagged htag ht _ ih => exact .tagged htag (mem_of_lookup ht) ih
  | registered hr _ ih => exact .registered _ _ (isRegistration_iff.1 hr) ih
  | plain hr _ ih => exact .plain _ _ (fun h => by rw [isRegistration_iff.2 h] at hr; cases hr) ih
  | allowed p r b => exact .allowed p r b
  | switchNull on t => exact .switchNull on t
  | switchOn on t => exact .switchBool on t true
  | switchOff on t => exact .switchBool on t false
  | switch _ _ _ ih => exact .switch _ ih

/-- If a type reads a value, one of the types it is among is the first to. -/
theorem decodeFirst_ok {j : Json} {t : Ty} : ∀ {arms : List Ty}, t ∈ arms → (∃ v, decode source t j = .ok v) →
    ∃ v, decodeFirst source arms j = .ok v
  | a :: arms, h, hv => by
    rw [decodeFirst]
    split
    · next w _ => exact ⟨w, rfl⟩
    · next is his =>
      simp only [Outcome.within, Outcome.orElse_error_eq_ok]
      rcases List.mem_cons.1 h with rfl | h
      · obtain ⟨v, hv⟩ := hv
        rw [his] at hv; cases hv
      · exact decodeFirst_ok h hv

/-- What conforms is read. -/
theorem Conforms.decodes {t : Ty} {j : Json} (h : Conforms source t j) (ht : t.regular = true) :
    ∃ v, decode source t j = .ok v := by
  induction h with
  | any j => exact ⟨.untyped j.merged, by rw [decode]⟩
  | null => exact ⟨_, ReadsScalar.null.decode_eq⟩
  | bool b => exact ⟨_, (ReadsScalar.bool b).decode_eq⟩
  | integer n => exact ⟨_, (ReadsScalar.integer n).decode_eq⟩
  | bounded hlo hhi => exact ⟨_, (ReadsScalar.bounded hlo hhi).decode_eq⟩
  | float x => exact ⟨_, (ReadsScalar.float x).decode_eq⟩
  | floatOfInt hn => exact ⟨_, (ReadsScalar.floatOfInt hn).decode_eq⟩
  | str s => exact ⟨_, (ReadsScalar.str s).decode_eq⟩
  | uri hs => exact ⟨_, (ReadsScalar.uri ⟨_, hs⟩).decode_eq⟩
  | intEnum e hlo hhi => exact ⟨_, (ReadsScalar.intEnum e hlo hhi).decode_eq⟩
  | openEnum e s => exact ⟨_, (ReadsScalar.openEnum e s).decode_eq⟩
  | closedEnum hs => exact ⟨_, (ReadsScalar.closedEnum hs).decode_eq⟩
  | @watchKind n hlo hhi =>
    obtain ⟨set, rfl⟩ := Int.eq_ofNat_of_zero_le hlo
    have hle : set ≤ WatchKind.every := by rw [WatchKind.every]; omega
    exact ⟨_, (ReadsScalar.watchKind hle).decode_eq⟩
  | literal text => exact ⟨_, (ReadsScalar.literal text).decode_eq⟩
  | @list t items _ ih =>
    replace ht := Ty.regular_inner ht List.mem_cons_self
    have hok := decode_list_map id (fun j => (decode source t j).got) fun j hj => Outcome.eq_ok_got (ih j hj ht)
    exact ⟨_, by simpa using hok⟩
  | pair _ _ iha ihb =>
    replace ht := Ty.regular_pair ht
    obtain ⟨v, hv⟩ := iha ht.1
    obtain ⟨w, hw⟩ := ihb ht.2
    exact ⟨.pair v w, decode_pair hv hw⟩
  | @map keys t ms hk _ ih =>
    replace ht := Ty.regular_inner ht List.mem_cons_self
    have hok := decode_map_map id (fun j => (decode source t j).got) (fun m hm => decodeKey_ok_iff.2 (hk m hm))
      fun m hm => Outcome.eq_ok_got (ih m hm ht)
    exact ⟨_, by simpa using hok⟩
  | @record c ms hreq _ ih =>
    rw [decode_record]
    refine ⟨_, decodeRecord_map (fun f => (decodeField source f ms).got) fun f hf => ?_⟩
    have hok : ∃ v, decodeField source f ms = .ok v := by
      unfold decodeField
      split
      · next k j hj => exact ih f hf j (findField?_iff.1 ⟨k, hj⟩) (field_regular hf).ty
      · next hn =>
        cases ha : f.absent with
        | some v => exact ⟨v, decodeAbsent_eq_ok.2 ha⟩
        | none =>
          obtain ⟨j, hj⟩ := hreq f hf ha
          obtain ⟨k, hk⟩ := findField?_iff.2 hj
          rw [hn] at hk; cases hk
    exact Outcome.eq_ok_got hok
  | optionalNull t => exact ⟨.null, by rw [decode]⟩
  | @optional t j _ ih =>
    replace ht := Ty.regular_inner ht List.mem_cons_self
    by_cases hj : j = .null
    · subst hj; exact ⟨.null, by rw [decode]⟩
    · rw [decode_optional_of_ne hj]; exact ih ht
  | oneOf hm _ ih =>
    rw [decode_oneOf]
    exact decodeFirst_ok hm (ih (Ty.regular_inner ht hm))
  | tagged htag hm _ ih =>
    obtain ⟨hd, harms⟩ := Ty.regular_tagged ht
    obtain ⟨v, hv⟩ := ih (harms _ hm).2
    exact ⟨v, decode_tagged_eq_ok.2 ⟨_, _, _, rfl, htag, lookup_of_mem hd hm, hv⟩⟩
  | registered b p hr _ ih =>
    obtain ⟨v, hv⟩ := ih rfl
    exact ⟨v, decode_registered (isRegistration_iff.2 hr) hv⟩
  | plain b r hr _ ih =>
    obtain ⟨v, hv⟩ := ih rfl
    exact ⟨v, decode_plain (Bool.eq_false_iff.2 (mt isRegistration_iff.1 hr)) hv⟩
  | allowed p r b => exact ⟨.bool b, decode_allowed p r b⟩
  | switchNull on t => exact ⟨.null, by rw [decode]⟩
  | switchBool on t b => cases b <;> exact ⟨_, by rw [decode]⟩
  | @switch on t j _ ih =>
    replace ht := Ty.regular_switch ht
    by_cases hj : j = .null
    · subst hj; exact ⟨.null, by rw [decode]⟩
    by_cases hb : ∃ b, j = .bool b
    · obtain ⟨b, rfl⟩ := hb
      cases b <;> exact ⟨_, by rw [decode]⟩
    · rw [decode_switch_of_ne hj fun b e => hb ⟨b, e⟩]; exact ih ht.2

/-- **The decoder accepts what conforms.** -/
theorem decode_ok_iff {t : Ty} (ht : t.regular = true) (j : Json) :
    (∃ v, decode source t j = .ok v) ↔ Conforms source t j :=
  ⟨fun ⟨_, h⟩ => (reads_of_decode t j h).conforms, fun h => h.decodes ht⟩

end Acceptance

/-! ## Numbers as integers -/

/-- A color whose components are integers. -/
def colorOfInts (r g b a : Int) : Json :=
  .obj [("red", .int r), ("green", .int g), ("blue", .int b), ("alpha", .int a)]

theorem Conforms.takesInt {source : Source} {n : Int} (h : Conforms source .float (.int n)) : source.TakesInt n := by
  cases h with | floatOfInt h => exact h

theorem conforms_color {source : Source} {r g b a : Int} : Conforms source (.record .color) (colorOfInts r g b a) ↔
    source.TakesInt r ∧ source.TakesInt g ∧ source.TakesInt b ∧ source.TakesInt a := by
  have hfields : (recordOf .color).fields =
      [required "red" .float, required "green" .float, required "blue" .float, required "alpha" .float] := rfl
  constructor
  · rintro (_ | _)
    next h =>
    rw [hfields] at h
    simp only [List.forall_mem_cons] at h
    exact ⟨(h.1 _ (.wire rfl)).takesInt, (h.2.1 _ (.wire rfl)).takesInt, (h.2.2.1 _ (.wire rfl)).takesInt,
      (h.2.2.2.1 _ (.wire rfl)).takesInt⟩
  · rintro ⟨hr, hg, hb, ha⟩
    refine .record ?_ ?_
    · rw [hfields]
      simp only [List.forall_mem_cons]
      exact ⟨fun _ => ⟨_, .wire rfl⟩, fun _ => ⟨_, .wire rfl⟩, fun _ => ⟨_, .wire rfl⟩, fun _ => ⟨_, .wire rfl⟩,
        by simp⟩
    · rw [hfields]
      simp only [List.forall_mem_cons]
      exact ⟨fun j hj => hj.eq rfl ▸ .floatOfInt hr, fun j hj => hj.eq rfl ▸ .floatOfInt hg,
        fun j hj => hj.eq rfl ▸ .floatOfInt hb, fun j hj => hj.eq rfl ▸ .floatOfInt ha, by simp⟩

/-! ## Types of the library -/

/-- **The decoder accepts exactly what conforms.** -/
theorem decodeData_ok_iff {t : Ty} (ht : InLibrary t) (d : Json) :
    (∃ v, decodeData t d = .ok v) ↔ Conforms .data t d := by
  simp only [Outcome.decodeData_eq_ok]
  exact decode_ok_iff ht.regular d

/-- White is read from integers. -/
theorem white_is_read :
    InLibrary (.record .color) ∧ ∃ v, decodeData (.record .color) (colorOfInts 1 1 1 1) = .ok v := by
  have hone : Source.data.TakesInt 1 := fun _ => by decide +kernel
  exact ⟨.record _, (decodeData_ok_iff (.record _) _).2 (conforms_color.2 ⟨hone, hone, hone, hone⟩)⟩

/-- A component that rounds to no finite number has the shape that a color asks for, but is not read from data. -/
theorem color_beyond_range : Conforms .text (.record .color) (colorOfInts (Nat.pow 10 309) 0 0 0) ∧
    ¬ ∃ v, decodeData (.record .color) (colorOfInts (Nat.pow 10 309) 0 0 0) = .ok v := by
  have text : ∀ n, Source.text.TakesInt n := fun _ h => by cases h
  refine ⟨conforms_color.2 ⟨text _, text _, text _, text _⟩, ?_⟩
  simp only [Outcome.decodeData_eq_ok]
  rw [decode_ok_iff rfl, conforms_color]
  rintro ⟨h, -⟩
  exact absurd (h rfl) (by decide +kernel)

end LspWire
