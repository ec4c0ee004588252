import LspWire.Proofs.Conformance
import LspWire.Proofs.JsonText

/-!
# Texts and data are read alike

`decodeText_agrees`: a text and the data that it writes are read as the same value, or have the same problems at the
same places, in messages that differ in the words for a shape only (`SameMessage`). So the source of a value never
decides which arm of a union it takes.

There is one exception, and the decoder makes it on purpose. An integer in the place of a number is rounded to a binary64
value, and where that is infinite data is refused and a text is not. What reading comes to read is followed by `Meets`,
and the theorem asks for integers in range where it comes to a number (`InRange`).
-/

namespace LspWire

open Schema Outcome

/-! ## What reading comes to -/

/-- `Meets t j t' j'`: reading `j` at `t` comes to read `j'` at `t'`. -/
inductive Meets : Ty → Json → Ty → Json → Prop
  | here (t : Ty) (j : Json) : Meets t j t j
  | item {t t' : Ty} {j j' : Json} {items : List Json} : j ∈ items → Meets t j t' j' → Meets (.list t) (.arr items) t' j'
  | first {a b t' : Ty} {j j' : Json} {rest : List Json} : Meets a j t' j' → Meets (.pair a b) (.arr (j :: rest)) t' j'
  | second {a b t' : Ty} {i j j' : Json} {rest : List Json} : Meets b j t' j' →
      Meets (.pair a b) (.arr (i :: j :: rest)) t' j'
  | entry {keys : KeyKind} {t t' : Ty} {m : String × Json} {j' : Json} {ms : List (String × Json)} : m ∈ ms →
      Meets t m.2 t' j' → Meets (.map keys t) (.obj ms) t' j'
  | field {c : Class} {f : Field} {t' : Ty} {k : String} {j j' : Json} {ms : List (String × Json)} :
      f ∈ (recordOf c).fields → findField? f ms = some (k, j) → Meets f.ty j t' j' → Meets (.record c) (.obj ms) t' j'
  | optional {t t' : Ty} {j j' : Json} : Meets t j t' j' → Meets (.optional t) j t' j'
  | oneOf {arms : List Ty} {t t' : Ty} {j j' : Json} : t ∈ arms → Meets t j t' j' → Meets (.oneOf arms) j t' j'
  | tagged {key tag : String} {arms : List (String × Ty)} {t t' : Ty} {j' : Json} {ms : List (String × Json)} :
      Members.find? key ms = some (.str tag) → (tag, t) ∈ arms → Meets t (.obj ms) t' j' →
      Meets (.tagged key arms) (.obj ms) t' j'
  | registered {b : Bool} {p r : Class} {t' : Ty} {j' : Json} {ms : List (String × Json)} : isRegistration ms = true →
      Meets (.record r) (.obj ms) t' j' → Meets (.provider b p r) (.obj ms) t' j'
  | plain {b : Bool} {p r : Class} {t' : Ty} {j' : Json} {ms : List (String × Json)} : isRegistration ms = false →
      Meets (.record p) (.obj ms) t' j' → Meets (.provider b p r) (.obj ms) t' j'
  | switch {on : Value} {t t' : Ty} {j j' : Json} : Meets t j t' j' → Meets (.switch on t) j t' j'

/-- Every integer that is read in the place of a number rounds to a finite one. -/
def InRange (t : Ty) (j : Json) : Prop := ∀ n, Meets t j .float (.int n) → (Double.ofInt n).isFinite = true

theorem InRange.part {t t' : Ty} {j j' : Json} (h : InRange t j)
    (hm : ∀ {t'' : Ty} {k : Json}, Meets t' j' t'' k → Meets t j t'' k) : InRange t' j' :=
  fun n hn => h n (hm hn)

theorem mem_numbers_of_meets {t t' : Ty} {j j' : Json} {y : Int ⊕ Double} (h : Meets t j t' j') (hy : y ∈ j'.numbers) :
    y ∈ j.numbers := by
  induction h with
  | here => exact hy
  | item hj _ ih => exact Json.mem_numbers_arr.2 ⟨_, hj, ih hy⟩
  | first _ ih => exact Json.mem_numbers_arr.2 ⟨_, List.mem_cons_self, ih hy⟩
  | second _ ih => exact Json.mem_numbers_arr.2 ⟨_, List.mem_cons_of_mem _ List.mem_cons_self, ih hy⟩
  | entry hm _ ih => exact Json.mem_numbers_obj.2 ⟨_, hm, ih hy⟩
  | field _ hr _ ih => exact Json.mem_numbers_obj.2 ⟨_, mem_of_findField? hr, ih hy⟩
  | optional _ ih | oneOf _ _ ih | tagged _ _ _ ih | registered _ _ ih | plain _ _ ih | switch _ ih => exact ih hy

/-- Data whose integers all round to finite numbers is in range at every type. -/
theorem inRange_of_numbers {t : Ty} {j : Json} (h : ∀ n, .inl n ∈ j.numbers → (Double.ofInt n).isFinite = true) :
    InRange t j :=
  fun n hn => h n (mem_numbers_of_meets hn List.mem_cons_self)

/-! ## Part by part -/

section Parts

variable {source other : Source}

theorem decodeItems_congr {t : Ty} : ∀ {items : List Json} {i : Nat},
    (∀ j ∈ items, decode source t j = decode other t j) →
      decodeItems source t i items = decodeItems other t i items
  | [], i, _ => by rw [decodeItems, decodeItems]
  | j :: js, i, h => by
    rw [List.forall_mem_cons] at h
    rw [decodeItems, decodeItems, h.1, decodeItems_congr h.2]

theorem decode_pair_congr {a b : Ty} {j : Json}
    (ha : ∀ x rest, j = .arr (x :: rest) → decode source a x = decode other a x)
    (hb : ∀ x y rest, j = .arr (x :: y :: rest) → decode source b y = decode other b y) :
    decode source (.pair a b) j = decode other (.pair a b) j := by
  rcases j with _ | _ | _ | _ | _ | (_ | ⟨x, _ | ⟨y, _ | ⟨z, items⟩⟩⟩) | _
  case arr.cons.nil => simp only [decode, ha x [] rfl]
  case arr.cons.cons.nil => simp only [decode, ha x [y] rfl, hb x y [] rfl]
  all_goals simp only [decode]

theorem decodeEntries_congr {keys : KeyKind} {t : Ty} : ∀ {ms : List (String × Json)},
    (∀ m ∈ ms, decode source t m.2 = decode other t m.2) →
      decodeEntries source keys t ms = decodeEntries other keys t ms
  | [], _ => by rw [decodeEntries, decodeEntries]
  | (k, j) :: ms, h => by
    rw [List.forall_mem_cons] at h
    rw [decodeEntries, decodeEntries, h.1, decodeEntries_congr h.2]

theorem decodeFields_congr {ms : List (String × Json)} : ∀ {fields : List Field},
    (∀ f ∈ fields, ∀ k j, findField? f ms = some (k, j) → decode source f.ty j = decode other f.ty j) →
      decodeFields source fields ms = decodeFields other fields ms
  | [], _ => by rw [decodeFields, decodeFields]
  | f :: fields, h => by
    rw [List.forall_mem_cons] at h
    have hfield : fieldOutcome source f ms = fieldOutcome other f ms := by
      unfold fieldOutcome
      split
      · next k j hj => rw [h.1 k j hj]
      · rfl
    rw [decodeFields_eq_both, decodeFields_eq_both, decodeFields_congr h.2, hfield]

theorem decodeRecord_congr {c : Class} {j : Json}
    (h : ∀ ms, j = .obj ms → ∀ f ∈ (recordOf c).fields, ∀ k i, findField? f ms = some (k, i) →
      decode source f.ty i = decode other f.ty i) : decodeRecord source c j = decodeRecord other c j := by
  cases j with
  | obj ms => rw [decodeRecord, decodeRecord, decodeFields_congr (h ms rfl)]
  | _ => simp only [decodeRecord]

theorem decodeFirst_congr {j : Json} : ∀ {arms : List Ty}, (∀ t ∈ arms, decode source t j = decode other t j) →
    decodeFirst source arms j = decodeFirst other arms j
  | [], _ => by rw [decodeFirst, decodeFirst]
  | t :: ts, h => by
    rw [List.forall_mem_cons] at h
    rw [decodeFirst, decodeFirst, h.1, decodeFirst_congr h.2]

theorem decodeTagged_congr {key tag : String} {known : List String} {j : Json} : ∀ {arms : List (String × Ty)},
    (∀ t, (tag, t) ∈ arms → decode source t j = decode other t j) →
      decodeTagged source key tag known arms j = decodeTagged other key tag known arms j
  | [], _ => by rw [decodeTagged, decodeTagged]
  | (name, t) :: arms, h => by
    rw [decodeTagged, decodeTagged]
    split
    · next hn => rw [h t (hn ▸ List.mem_cons_self)]
    · exact decodeTagged_congr fun t ht => h t (List.mem_cons_of_mem _ ht)

/-- A number is read alike if it is in range. -/
theorem decodeFloat_congr {j : Json} (h : ∀ n, j = .int n → (Double.ofInt n).isFinite = true) :
    decodeFloat .text j = decodeFloat .data j := by
  cases j with
  | int n =>
    have hn := h n rfl
    simp only [decodeFloat]
    cases hx : Double.ofInt n with
    | finite s m q => rfl
    | _ =>
      rw [hx] at hn
      cases hn
  | _ => rfl

end Parts

/-! ## The whole -/

/-- **A text and data are read alike**, to the same value or the same issues. -/
theorem decode_agrees : ∀ (t : Ty) (j : Json), InRange t j → decode .text t j = decode .data t j
  | .any, j, _ | .null, j, _ | .bool, j, _ | .integer, j, _ | .bounded .., j, _ | .str, j, _ | .uri, j, _
  | .intEnum _, j, _ | .openEnum _, j, _ | .closedEnum _, j, _ | .watchKind, j, _ | .literal _, j, _ => by
    rw [decode, decode]
  | .float, j, h => by
    rw [decode, decode]
    exact decodeFloat_congr fun n hn => h n (hn ▸ .here _ _)
  | .list t, j, h => by
    cases j with
    | arr items =>
      rw [decode, decode, decodeItems_congr fun x hx => decode_agrees t x (h.part (.item hx))]
    | _ => simp only [decode]
  | .pair a b, j, h => by
    refine decode_pair_congr (fun x rest hx => ?_) fun x y rest hy => ?_
    · exact decode_agrees a x (h.part fun hm => hx ▸ .first hm)
    · exact decode_agrees b y (h.part fun hm => hy ▸ .second hm)
  | .map keys t, j, h => by
    cases j with
    | obj ms =>
      rw [decode, decode, decodeEntries_congr fun m hm => decode_agrees t m.2 (h.part (.entry hm))]
    | _ => simp only [decode]
  | .record c, j, h => by
    rw [decode_record, decode_record]
    refine decodeRecord_congr fun ms hms f hf k i hi => ?_
    subst hms
    have := sizeOf_findField? hi
    exact decode_agrees f.ty i (h.part (.field hf hi))
  | .optional t, j, h => by
    by_cases hj : j = .null
    · subst hj
      rw [decode, decode]
    · rw [decode_optional_of_ne hj, decode_optional_of_ne hj, decode_agrees t j (h.part .optional)]
  | .oneOf arms, j, h => by
    rw [decode_oneOf, decode_oneOf]
    exact decodeFirst_congr fun t ht => decode_agrees t j (h.part (.oneOf ht))
  | .tagged key arms, j, h => by
    cases j with
    | obj ms =>
      rw [decode, decode]
      split
      · rfl
      · next tag htag =>
        exact decodeTagged_congr fun t ht => decode_agrees t (.obj ms) (h.part (.tagged htag ht))
      · rfl
    | _ => simp only [decode]
  | .provider b p r, j, h => by
    cases j with
    | obj ms =>
      rw [decode, decode]
      split
      · next hr =>
        rw [← decode_record, ← decode_record, decode_agrees (.record r) (.obj ms) (h.part (.registered hr))]
      · next hr =>
        rw [← decode_record, ← decode_record,
          decode_agrees (.record p) (.obj ms) (h.part (.plain (Bool.eq_false_iff.2 hr)))]
    | _ => simp only [decode]
  | .switch on t, j, h => by
    by_cases hj : j = .null
    · subst hj
      rw [decode, decode]
    by_cases hb : ∃ b, j = .bool b
    · obtain ⟨b, rfl⟩ := hb
      cases b <;> rw [decode, decode]
    · have hb : ∀ b, j ≠ .bool b := fun b e => hb ⟨b, e⟩
      rw [decode_switch_of_ne hj hb, decode_switch_of_ne hj hb, decode_agrees t j (h.part .switch)]
termination_by t j => (sizeOf j, sizeOf t)
decreasing_by
  all_goals subst_vars
  · exact .left _ _ (sizeOf_lt_arr hx)
  · exact .left _ _ (sizeOf_lt_arr List.mem_cons_self)
  · exact .left _ _ (sizeOf_lt_arr (List.mem_cons_of_mem _ List.mem_cons_self))
  · exact .left _ _ (sizeOf_lt_obj hm)
  · exact .left _ _ (by simp only [Json.obj.sizeOf_spec]; omega)
  · exact .right _ (by simp only [Ty.optional.sizeOf_spec]; omega)
  · have hlt := List.sizeOf_lt_of_mem ht
    exact .right _ (by simp only [Ty.oneOf.sizeOf_spec]; omega)
  · have hlt := List.sizeOf_lt_of_mem ht
    simp only [Prod.mk.sizeOf_spec] at hlt
    exact .right _ (by simp only [Ty.tagged.sizeOf_spec]; omega)
  · exact .right _ (by simp only [Ty.provider.sizeOf_spec, Ty.record.sizeOf_spec, Bool.sizeOf_eq_one]; omega)
  · exact .right _ (by simp only [Ty.provider.sizeOf_spec, Ty.record.sizeOf_spec, Bool.sizeOf_eq_one]; omega)
  · exact .right _ (by simp only [Ty.switch.sizeOf_spec]; omega)

/-! ## Messages -/

/-- The words for a shape in a text and in data: an object is a dictionary there, an array a list or a tuple, and `null`
    is `None`. -/
inductive SameWords : String → String → Prop
  | same (words : String) : SameWords words words
  | record (c : Class) : SameWords "an object" ("a valid dictionary or instance of " ++ c.name)
  | map : SameWords "an object" "a valid dictionary"
  | tagged : SameWords "an object" "a valid dictionary or object to extract fields from"
  | list : SameWords "a valid array" "a valid list"
  | tuple : SameWords "a valid array" "a valid tuple"
  | null : SameWords "null" "None"

/-- A message on a text and the message on data that says the same. -/
inductive SameMessage : String → String → Prop
  | same (m : String) : SameMessage m m
  | shape {w w' : String} : SameWords w w' → SameMessage ("Input should be " ++ w) ("Input should be " ++ w')

theorem Shape.sameWords (shape : Shape) : SameWords (shape.words .text) (shape.words .data) := by
  cases shape with
  | record c => exact .record c
  | map => exact .map
  | taggedObject => exact .tagged
  | list => exact .list
  | tuple => exact .tuple
  | null => exact .null
  | _ => exact .same _

/-- A cause is put in the words of its source. -/
theorem Cause.sameMessage (cause : Cause) : SameMessage (cause.message .text) (cause.message .data) := by
  cases cause with
  | expected shape => exact .shape shape.sameWords
  | _ => exact .same _

/-- Two reports of the same problem, on a text and on data. -/
structure SameReport (r q : Report) : Prop where
  kind : r.kind = q.kind
  path : r.path = q.path
  message : SameMessage r.message q.message

/-- What a text is read as and what its data is: the same value, or reports of the same problems in the same order. -/
inductive Agree : Except (List Report) Value → Except (List Report) Value → Prop
  | ok (v : Value) : Agree (.ok v) (.ok v)
  | error {rs qs : List Report} : rs.length = qs.length → (∀ p ∈ rs.zip qs, SameReport p.1 p.2) →
      Agree (.error rs) (.error qs)

theorem Issue.sameReport (i : Issue) (d : Json) : SameReport (i.report .text (some d)) (i.report .data (some d)) :=
  ⟨rfl, rfl, i.cause.sameMessage⟩

/-- A parsed text and data are read alike. -/
theorem decodeParsed_agrees {t : Ty} {d : Json} (hd : d.Distinct) (hr : InRange t d) :
    Agree (decodeParsed t (some d)) (decodeData t d) := by
  simp only [decodeParsed, decodeData, hd.merged_eq, decode_agrees t d hr]
  cases decode .data t d with
  | ok v => exact .ok v
  | error is =>
    refine .error (by simp) fun p hp => ?_
    rw [List.zip_map'] at hp
    obtain ⟨i, -, rfl⟩ := List.mem_map.1 hp
    exact i.sameReport d

/-- **A text is read as the data that it writes is.** -/
theorem decodeText_agrees {t : Ty} {d : Json} (hd : d.Distinct) (hr : InRange t d) :
    (∀ s, Json.ofText? s = some d → Agree (decodeText t s) (decodeData t d)) ∧
      ∀ bytes, Json.ofBytes? bytes = some d → Agree (decodeBytes t bytes) (decodeData t d) := by
  have hparsed := decodeParsed_agrees hd hr
  refine ⟨fun s hs => ?_, fun bytes hbytes => ?_⟩
  · rwa [decodeText, hs]
  · rwa [decodeBytes, hbytes]

/-- A text is read if its value conforms. -/
theorem decodeText_of_conforms {t : Ty} (ht : t.regular = true) {s : String} {d : Json} (hs : Json.ofText? s = some d)
    (h : Conforms .text t d) : ∃ v, decodeText t s = .ok v := by
  obtain ⟨v, hv⟩ := (decode_ok_iff ht d).2 h
  refine ⟨v, ?_⟩
  simp only [decodeText, hs, decodeParsed, hv]
  rfl

/-- A text and data have the same problems: one component is `null`, one an array, and one is absent. -/
theorem color_agrees :
    let d : Json := .obj [("red", .int 1), ("green", .null), ("blue", .arr [])]
    Json.ofText? d.toText = some d ∧ Agree (decodeText (.record .color) d.toText) (decodeData (.record .color) d) := by
  intro d
  have hnumbers : d.numbers = [.inl 1] := rfl
  have htext : Json.ofText? d.toText = some d := by
    refine Json.ofText?_toText ?_
    rw [hnumbers]
    have hshort : Json.Short 1 := by decide +kernel
    exact List.forall_mem_singleton.2 hshort
  have hrange : InRange (.record .color) d := by
    refine inRange_of_numbers fun n hn => ?_
    rw [hnumbers] at hn
    cases List.mem_singleton.1 hn
    decide +kernel
  have hdistinct : d.Distinct :=
    .obj (by decide) (by simp [Json.Distinct.int, Json.Distinct.null, Json.Distinct.arr])
  exact ⟨htext, (decodeText_agrees hdistinct hrange).1 _ htext⟩

/-- Data has the words of a tuple where a text has those of an array. A component that rounds to no finite number is
    taken from a text and refused in data. -/
theorem tuple_words_and_range :
    let d := colorOfInts (Nat.pow 10 309) 0 0 0
    (decodeText parameterLabel "null" = .error [⟨.structural, "$", "Input should be a valid string"⟩,
        ⟨.structural, "$", "Input should be a valid array"⟩] ∧
      decodeData parameterLabel .null = .error [⟨.structural, "$", "Input should be a valid string"⟩,
        ⟨.structural, "$", "Input should be a valid tuple"⟩]) ∧
    Json.ofText? d.toText = some d ∧ (∃ v, decodeText (.record .color) d.toText = .ok v) ∧
      ¬ ∃ v, decodeData (.record .color) d = .ok v := by
  intro d
  have hnull : Json.ofText? "null" = some .null := by
    rw [show "null" = Json.null.toText from rfl]
    exact Json.ofText?_toText fun y hy => absurd hy List.not_mem_nil
  have hlabel : ∀ source, decode source parameterLabel .null = .error
      [⟨.expected .string, [.arm Ty.str.label]⟩, ⟨.expected .tuple, [.arm (Ty.pair .uint32 .uint32).label]⟩] := by
    intro source
    simp only [parameterLabel, decode, decodeFirst, decodeStr]
    rfl
  have htext : Json.ofText? d.toText = some d := by
    have hshort : Json.Short (Nat.pow 10 309) ∧ Json.Short 0 := by decide +kernel
    refine Json.ofText?_toText ?_
    rw [show d.numbers = [.inl (Nat.pow 10 309), .inl 0, .inl 0, .inl 0] from rfl]
    simp only [List.forall_mem_cons]
    exact ⟨hshort.1, hshort.2, hshort.2, hshort.2, fun _ h => absurd h List.not_mem_nil⟩
  have htakes : ∀ n, Source.text.TakesInt n := fun _ h => by cases h
  have hconforms : Conforms .text (.record .color) d :=
    conforms_color.2 ⟨htakes _, htakes _, htakes _, htakes _⟩
  refine ⟨⟨?_, ?_⟩, htext, ?_, ?_⟩
  · rw [decodeText, hnull, decodeParsed, hlabel]
    rfl
  · rw [decodeData, hlabel]
    rfl
  · exact decodeText_of_conforms rfl htext hconforms
  · simp only [decodeData_eq_ok]
    rw [decode_ok_iff rfl, conforms_color]
    rintro ⟨h, -⟩
    exact absurd (h rfl) (by decide +kernel)

end LspWire
