import LspWire.Proofs.Conformance
import LspWire.Proofs.Lossless

/-!
# Inheritance is inlining

A record of a class is also one of every class that it inherits from: data that reads as the class reads as the base,
and the value is written at the base as what the base itself reads. A base may declare a field at a wider type than the
class: the type of a field is then narrowed (`Ty.Narrows`), by a class that inherits itself or by a kind of integer
where the base takes anything. `decode_narrowed` says this of types, by recursion on the data.

The draft handshake is a case: what a host writes that knows the stable classes only holds no draft key at any level
(`Reads.draftFree`). `base_reads_and_writes` puts the two together.
-/

namespace LspWire

open Schema

/-! ## Narrower types -/

namespace Ty

mutual

/-- Whether two types are the same; a switch is told from every other. -/
def same : Ty → Ty → Bool
  | .any, .any | .null, .null | .bool, .bool | .integer, .integer | .float, .float | .str, .str | .uri, .uri
  | .watchKind, .watchKind => true
  | .bounded lo hi, .bounded lo' hi' => lo == lo' && hi == hi'
  | .intEnum e, .intEnum e' => e == e'
  | .openEnum e, .openEnum e' => e == e'
  | .closedEnum e, .closedEnum e' => e == e'
  | .literal s, .literal s' => s == s'
  | .list t, .list t' | .optional t, .optional t' => same t t'
  | .pair a b, .pair a' b' => same a a' && same b b'
  | .map k t, .map k' t' => k == k' && same t t'
  | .record c, .record c' => c == c'
  | .oneOf ts, .oneOf ts' => sameAll ts ts'
  | .tagged k ts, .tagged k' ts' => k == k' && sameArms ts ts'
  | .provider b p r, .provider b' p' r' => b == b' && p == p' && r == r'
  | _, _ => false

/-- Whether the types are the same, one by one. -/
def sameAll : List Ty → List Ty → Bool
  | [], [] => true
  | t :: ts, t' :: ts' => same t t' && sameAll ts ts'
  | _, _ => false

/-- Whether the types under tags are the same, one by one. -/
def sameArms : List (String × Ty) → List (String × Ty) → Bool
  | [], [] => true
  | (s, t) :: ts, (s', t') :: ts' => s == s' && same t t' && sameArms ts ts'
  | _, _ => false

end

/-- Whether a type is another, or narrows it. -/
def narrows : Ty → Ty → Bool
  | .intEnum _, .any => true
  | .list t, .list u => narrows t u
  | .record c, .record b | .optional (.record c), .optional (.record b) =>
    c == b || (recordOf c).ancestors.contains b
  | t, u => same t u

/-- `t.Narrows u`: a field of type `u` may be declared again at type `t`. -/
inductive Narrows : Ty → Ty → Prop
  | same (t : Ty) : Narrows t t
  | constant (e : IntEnum) : Narrows (.intEnum e) .any
  | list {t u : Ty} : Narrows t u → Narrows (.list t) (.list u)
  | record {c b : Class} : b ∈ (recordOf c).ancestors → Narrows (.record c) (.record b)
  | optional {c b : Class} : b ∈ (recordOf c).ancestors → Narrows (.optional (.record c)) (.optional (.record b))

mutual

theorem eq_of_same {t u : Ty} (h : same t u = true) : t = u := by
  unfold same at h
  split at h
  case h_9 | h_21 =>
    simp only [Bool.and_eq_true, beq_iff_eq] at h
    simp only [h]
  case h_10 | h_11 | h_12 | h_13 | h_18 => rw [beq_iff_eq.1 h]
  case h_14 | h_15 => rw [eq_of_same h]
  case h_16 =>
    rw [Bool.and_eq_true] at h
    rw [eq_of_same h.1, eq_of_same h.2]
  case h_17 =>
    rw [Bool.and_eq_true, beq_iff_eq] at h
    rw [h.1, eq_of_same h.2]
  case h_19 => rw [eq_of_sameAll h]
  case h_20 =>
    rw [Bool.and_eq_true, beq_iff_eq] at h
    rw [h.1, eq_of_sameArms h.2]
  case h_22 => cases h
  all_goals rfl

theorem eq_of_sameAll {ts us : List Ty} (h : sameAll ts us = true) : ts = us := by
  unfold sameAll at h
  split at h
  · rfl
  · rw [Bool.and_eq_true] at h
    rw [eq_of_same h.1, eq_of_sameAll h.2]
  · cases h

theorem eq_of_sameArms {ts us : List (String × Ty)} (h : sameArms ts us = true) : ts = us := by
  unfold sameArms at h
  split at h
  · rfl
  · rw [Bool.and_eq_true, Bool.and_eq_true, beq_iff_eq] at h
    rw [h.1.1, eq_of_same h.1.2, eq_of_sameArms h.2]
  · cases h

end

/-- Types that pass the check narrow. -/
theorem narrows_sound : ∀ {t u : Ty}, narrows t u = true → Narrows t u := by
  intro t u
  fun_induction narrows t u with
  | case1 e => exact fun _ => .constant e
  | case2 t u ih => exact fun h => .list (ih h)
  | case3 c b =>
    intro h
    rw [Bool.or_eq_true, beq_iff_eq, List.contains_iff_mem] at h
    exact h.elim (fun he => he ▸ .same _) .record
  | case4 c b =>
    intro h
    rw [Bool.or_eq_true, beq_iff_eq, List.contains_iff_mem] at h
    exact h.elim (fun he => he ▸ .same _) .optional
  | case5 t u => exact fun h => eq_of_same h ▸ .same t

end Ty

namespace Field

/-- Whether two absent values are the same; only `null` and a text are told. -/
def sameAbsent : Option Value → Option Value → Bool
  | none, none | some .null, some .null => true
  | some (.str s), some (.str s') => s == s'
  | _, _ => false

/-- Whether a field is another, or declares it again at a type that narrows its type. -/
def narrows (f g : Field) : Bool :=
  f.name == g.name && f.wire == g.wire && f.keepsNull == g.keepsNull && sameAbsent f.absent g.absent &&
    f.ty.narrows g.ty

/-- Whether fields narrow others, one by one. -/
def narrowsAll : List Field → List Field → Bool
  | [], [] => true
  | f :: fs, g :: gs => f.narrows g && narrowsAll fs gs
  | _, _ => false

/-- A field that declares another again. -/
structure Narrows (f g : Field) : Prop where
  name : f.name = g.name
  wire : f.wire = g.wire
  keepsNull : f.keepsNull = g.keepsNull
  absent : f.absent = g.absent
  ty : f.ty.Narrows g.ty

theorem eq_of_sameAbsent {a b : Option Value} (h : sameAbsent a b = true) : a = b := by
  unfold sameAbsent at h
  split at h
  · rfl
  · rfl
  · rw [beq_iff_eq.1 h]
  · cases h

theorem narrows_sound {f g : Field} (h : f.narrows g = true) : f.Narrows g := by
  simp only [narrows, Bool.and_eq_true, beq_iff_eq] at h
  obtain ⟨⟨⟨⟨hname, hwire⟩, hkeeps⟩, habsent⟩, hty⟩ := h
  exact ⟨hname, hwire, hkeeps, eq_of_sameAbsent habsent, Ty.narrows_sound hty⟩

theorem Narrows.findField? {f g : Field} (h : f.Narrows g) (ms : List (String × Json)) :
    Schema.findField? f ms = Schema.findField? g ms := by
  rw [Schema.findField?, Schema.findField?, h.name, h.wire]

end Field

namespace Schema

/-- Whether a class has a field of the name of a field. -/
def declares (b : Class) (f : Field) : Bool := (recordOf b).fields.any fun g => g.name == f.name

/-- Whether a class has the fields of another in their order, each as it is or narrowed. -/
def inlines (c b : Class) : Bool :=
  !(recordOf b).keepsExtra && Field.narrowsAll ((recordOf c).fields.filter (declares b)) (recordOf b).fields

/-- Every class has the fields of each of its ancestors, run once over all classes. -/
theorem ancestors_inlined (c : Class) : (recordOf c).ancestors.all (inlines c) = true := by
  revert c
  decide +kernel

/-- A class inlines every class that it inherits from. -/
theorem inlines_of_mem {c b : Class} (h : b ∈ (recordOf c).ancestors) : (recordOf b).keepsExtra = false ∧
    Field.narrowsAll ((recordOf c).fields.filter (declares b)) (recordOf b).fields = true := by
  have hinlines := List.all_eq_true.1 (ancestors_inlined c) b h
  rwa [inlines, Bool.and_eq_true, Bool.not_eq_true'] at hinlines

end Schema

/-! ## What stands for a base -/

/-- A value that is written at a type as another is: what it becomes at the type has the same JSON value, and is left
    out of a record exactly where the other is. -/
def Value.StandsFor (v : Value) (t : Ty) (w : Value) : Prop :=
  ∃ v', v.fitted .free t = some v' ∧ v'.encode = w.encode ∧ v'.isVoid = w.isVoid

namespace Value.StandsFor

variable {t : Ty} {v w : Value}

/-- A value that the type takes as it is stands for itself. -/
theorem of_fitted (h : v.fitted .free t = some v) : v.StandsFor t v := ⟨v, h, rfl, rfl⟩

theorem encodeAs_eq (h : v.StandsFor t w) : v.encodeAs t = w.encode := by
  obtain ⟨v', hfit, hencode, -⟩ := h
  rw [encodeAs, viewedAs, hfit, Option.getD_some, hencode]

theorem items {g h : Json → Value} : ∀ {items : List Json}, (∀ x ∈ items, (g x).StandsFor t (h x)) →
    ∃ vs, fittedItems .free t (items.map g) = some vs ∧ encodeItems vs = encodeItems (items.map h)
  | [], _ => ⟨[], by rw [List.map_nil, fittedItems], rfl⟩
  | x :: items, hx => by
    rw [List.forall_mem_cons] at hx
    obtain ⟨v', hfit, hencode, -⟩ := hx.1
    obtain ⟨vs, hfits, hencodes⟩ := StandsFor.items hx.2
    refine ⟨v' :: vs, ?_, ?_⟩
    · rw [List.map_cons, fittedItems, hfit, hfits]
    · rw [List.map_cons, encodeItems, encodeItems, hencode, hencodes]

theorem list {g h : Json → Value} {items : List Json} (hx : ∀ x ∈ items, (g x).StandsFor t (h x)) :
    (Value.list (items.map g)).StandsFor (.list t) (.list (items.map h)) := by
  obtain ⟨vs, hfits, hencodes⟩ := StandsFor.items hx
  refine ⟨.list vs, ?_, ?_, rfl⟩
  · rw [fitted, hfits]
    rfl
  · rw [encode, encode, hencodes]

theorem optional {c : Class} {fs : List (String × Value)} {extra : List (String × Json)}
    (h : (Value.record c fs extra).StandsFor t w) : (Value.record c fs extra).StandsFor (.optional t) w := by
  obtain ⟨v', hfit, hw⟩ := h
  refine ⟨v', ?_, hw⟩
  rw [fitted, hfit]
  · exact fun j hj => by cases hj
  · exact fun hn => by cases hn

end Value.StandsFor

/-! ## Fields -/

section Fields

variable {source : Source} {c b : Class} {ms : List (String × Json)} {val : Field → Value}

/-- The first field is written unless it is void and is left out then. -/
theorem encodeFields_cons {f : Field} (hf : f ∈ (recordOf c).fields) (v : Value) (fs : List (String × Value)) :
    Value.encodeFields c ((f.name, v) :: fs) =
      if v.isVoid && !f.keepsNull then Value.encodeFields c fs else (f.wire, v.encode) :: Value.encodeFields c fs := by
  rw [Value.encodeFields, Value.fieldNamed?, find_name hf]

/-- The fields of a class are written at a base as what the base reads. -/
theorem fields_narrowed
    (hval : ∀ f ∈ (recordOf c).fields, ∀ g ∈ (recordOf b).fields, f.Narrows g →
      ∃ w, decodeField source g ms = .ok w ∧ (val f).StandsFor g.ty w) :
    ∀ {fields gs : List Field}, (∀ f ∈ fields, f ∈ (recordOf c).fields) → (∀ g ∈ gs, g ∈ (recordOf b).fields) →
      Field.narrowsAll (fields.filter (declares b)) gs = true →
        ∃ ws vs, decodeFields source gs ms = .ok ws ∧
          Value.fittedFields .free (recordOf b).fields (fields.map fun f => (f.name, val f)) = some vs ∧
          Value.encodeFields c vs = Value.encodeFields b ws
  | [], [], _, _, _ => ⟨[], [], by rw [decodeFields], by rw [List.map_nil, Value.fittedFields], rfl⟩
  | [], _ :: _, _, _, hn => by cases hn
  | f :: fields, gs, hc, hb, hn => by
    rw [List.forall_mem_cons] at hc
    cases hf : declares b f with
    | false =>
      rw [List.filter_cons_of_neg (by simp [hf])] at hn
      obtain ⟨ws, vs, hws, hvs, he⟩ := fields_narrowed hval hc.2 hb hn
      have hnone : (recordOf b).fields.find? (fun g => g.name == f.name) = none := by
        rw [declares, List.any_eq_false] at hf
        exact List.find?_eq_none.2 hf
      refine ⟨ws, vs, hws, ?_, he⟩
      rw [List.map_cons, Value.fittedFields, hnone]
      exact hvs
    | true =>
      rw [List.filter_cons_of_pos hf] at hn
      cases gs with
      | nil => cases hn
      | cons g gs =>
        rw [List.forall_mem_cons] at hb
        rw [Field.narrowsAll, Bool.and_eq_true] at hn
        have hfg := Field.narrows_sound hn.1
        obtain ⟨w, hw, v', hfit, hencode, hvoid⟩ := hval f hc.1 g hb.1 hfg
        obtain ⟨ws, vs, hws, hvs, he⟩ := fields_narrowed hval hc.2 hb.2 hn.2
        refine ⟨(g.name, w) :: ws, (f.name, v') :: vs, decodeFields_cons.2 ⟨w, ws, hw, hws, rfl⟩, ?_, ?_⟩
        · rw [List.map_cons, Value.fittedFields, hfg.name, find_name hb.1]
          simp only [hfit, hvs]
        · rw [encodeFields_cons hc.1, encodeFields_cons hb.1, hvoid, hencode, he, hfg.wire, hfg.keepsNull]

end Fields

/-! ## Records -/

/-- **What reads at a type reads at every type that it narrows, and is written there as what reads there.** -/
theorem decode_narrowed {source : Source} : ∀ {t u : Ty} (j : Json), t.Narrows u → t.regular = true → ∀ {v : Value},
    decode source t j = .ok v → ∃ w, decode source u j = .ok w ∧ v.StandsFor u w
  | t, _, j, .same _, hr, v, h => ⟨v, h, .of_fitted ((reads_of_decode t j h).fitted hr .free)⟩
  | _, _, j, .constant e, _, v, h => by
    cases readsScalar_of_decode rfl h with
    | @intEnum _ n _ _ =>
      refine ⟨.untyped (.int n), by rw [decode]; rfl, ?_⟩
      exact ⟨.intEnum e n, by rw [Value.fitted], rfl, rfl⟩
  | .list t, .list u, j, .list hn, hr, v, h => by
    obtain ⟨items, rfl, hok, rfl⟩ := decode_list_eq_ok h
    replace hr := Ty.regular_inner hr List.mem_cons_self
    have hitems : ∀ x ∈ items, decode source u x = .ok (decode source u x).got ∧
        ((decode source t x).got).StandsFor u (decode source u x).got := by
      intro x hx
      obtain ⟨w, hw, hstands⟩ := decode_narrowed x hn hr (hok x hx)
      rw [hw]
      exact ⟨rfl, hstands⟩
    refine ⟨_, ?_, Value.StandsFor.list fun x hx => (hitems x hx).2⟩
    simpa using decode_list_map id (fun x => (decode source u x).got) fun x hx => (hitems x hx).1
  | .record c, .record b, j, .record hb, _, v, h => by
    rw [decode_record] at h
    obtain ⟨ms, rfl, hok, rfl⟩ := decodeRecord_eq_ok h
    obtain ⟨hkeeps, hinlines⟩ := inlines_of_mem hb
    have hval : ∀ f ∈ (recordOf c).fields, ∀ g ∈ (recordOf b).fields, f.Narrows g →
        ∃ w, decodeField source g ms = .ok w ∧ ((decodeField source f ms).got).StandsFor g.ty w := by
      intro f hf g hg hfg
      have hread := hok f hf
      have hfind := hfg.findField? ms
      unfold decodeField at hread ⊢
      rw [hfind] at hread ⊢
      cases hi : findField? g ms with
      | some p =>
        rw [hi] at hread
        have := sizeOf_findField? hi
        exact decode_narrowed p.2 hfg.ty (field_regular hf).ty hread
      | none =>
        rw [hi] at hread
        have habsent := hfg.absent.symm.trans (decodeAbsent_eq_ok.1 hread)
        exact ⟨_, decodeAbsent_eq_ok.2 habsent, .of_fitted (g.fitted_absent (field_regular hg).defaultFits habsent .free)⟩
    obtain ⟨ws, vs, hws, hvs, he⟩ := fields_narrowed hval (fun _ h => h) (fun _ h => h) hinlines
    refine ⟨.record b ws [], ?_, .record c vs [], ?_, ?_, rfl⟩
    · rw [decode_record, decodeRecord, hws, if_neg (by simp [hkeeps])]
      rfl
    · have hadmits : Value.admits .free b c = true := rfl
      rw [Value.fitted, Value.fittedRecord, if_pos hadmits, hvs, Option.map_some, if_neg (by simp [hkeeps])]
    · rw [Value.encode, Value.encode, he]
  | .optional (.record c), .optional (.record b), j, .optional hb, hr, v, h => by
    replace hr := Ty.regular_inner hr List.mem_cons_self
    by_cases hj : j = .null
    · subst hj
      rw [decode] at h
      cases h
      exact ⟨.null, by rw [decode], .of_fitted (by rw [Value.fitted])⟩
    · rw [decode_optional_of_ne hj] at h
      obtain ⟨w, hw, hstands⟩ := decode_narrowed j (.record hb) hr h
      obtain ⟨c', fs, extra, rfl⟩ := (reads_of_decode _ _ h).isRecord hr rfl
      exact ⟨w, by rwa [decode_optional_of_ne hj], hstands.optional⟩
termination_by t _ j => (sizeOf j, sizeOf t)
decreasing_by
  all_goals subst_vars
  · exact .left _ _ (sizeOf_lt_arr hx)
  · exact .left _ _ (by simp only [Json.obj.sizeOf_spec]; omega)
  · exact .right _ (by simp only [Ty.optional.sizeOf_spec]; omega)

/-! ## The draft handshake -/

namespace Schema

/-- The keys of the draft fields of the handshake. -/
def draftKeys : List String := ["offsetEncoding", "inlineCompletion", "inlineCompletionProvider"]

/-- The classes of the draft handshake, those whose records keep unknown members, and those that contain one. -/
def unstable (c : Class) : Bool :=
  c.isDraft || [Class.formattingOptions, .messageActionItem, .showMessageRequestParams, .documentFormattingParams,
    .documentRangeFormattingParams, .documentOnTypeFormattingParams].contains c

theorem unstable_closed (c : Class) : (unstable c || !(recordOf c).keepsExtra && (recordOf c).fields.all fun f =>
    f.ty.everyClass (fun b => !unstable b) && !draftKeys.contains f.wire) = true := by
  revert c
  decide +kernel

/-- A class outside the list keeps no unknown member, has no draft key, and its fields lead to such classes only. -/
theorem not_unstable {c : Class} (h : (!unstable c) = true) : (recordOf c).keepsExtra = false ∧
    ∀ f ∈ (recordOf c).fields, f.ty.everyClass (fun b => !unstable b) = true ∧ f.wire ∉ draftKeys := by
  have hclosed := unstable_closed c
  rw [Bool.not_eq_true'] at h
  simpa [h] using hclosed

end Schema

/-- What a record writes for its fields stands under their keys. -/
theorem mem_encodeFields {c : Class} {m : String × Json} : ∀ {fs : List (String × Value)},
    m ∈ Value.encodeFields c fs → ∃ f ∈ (recordOf c).fields, f.wire = m.1
  | [], h => by cases h
  | (name, v) :: fs, h => by
    rw [Value.encodeFields] at h
    split at h
    · next f hf =>
      split at h
      · exact mem_encodeFields h
      · rcases List.mem_cons.1 h with rfl | h
        · exact ⟨f, List.mem_of_find?_eq_some hf, rfl⟩
        · exact mem_encodeFields h
    · exact mem_encodeFields h

/-- No record inside a value writes a draft key. -/
def DraftFree (t : Ty) (v : Value) : Prop :=
  ∀ {c : Class} {fs : List (String × Value)} {extra ms : List (String × Json)},
    Within t v (.record c) (.record c fs extra) → (Value.record c fs extra).encode = .obj ms →
      ∀ m ∈ ms, m.1 ∉ draftKeys

/-- What a type without draft classes reads is free of draft keys. -/
theorem Reads.draftFree {source : Source} {t : Ty} {j : Json} {v : Value} (h : Reads source t j v)
    (hr : t.regular = true) (ht : t.everyClass (fun c => !unstable c) = true) : DraftFree t v := by
  intro c fs extra ms hw he m hm
  have hclass := hw.everyClass (fun c hc f hf => ((not_unstable hc).2 f hf).1) ht
  rw [Ty.everyClass_record] at hclass
  obtain ⟨hkeeps, hfields⟩ := not_unstable hclass
  cases hw.whole (h.whole hr) with
  | leaf hv => cases hv
  | record _ _ hextra =>
    rw [hextra hkeeps, Value.encode, List.filter_nil, List.append_nil] at he
    cases he
    obtain ⟨f, hf, hwire⟩ := mem_encodeFields hm
    exact hwire ▸ (hfields f hf).2

/-! ## A draft result -/

/-- Draft capabilities of a server: a provider that only the draft has. -/
def draftCapabilities : Json := .obj [("inlineCompletionProvider", .bool true)]

/-- A draft result: draft capabilities, and the encoding of offsets. -/
def draftResult : Json := .obj [("capabilities", draftCapabilities), ("offsetEncoding", .str "utf-8")]

theorem conforms_draftCapabilities {source : Source} :
    Conforms source (.record .draftServerCapabilities) draftCapabilities := by
  have habsent : (recordOf .draftServerCapabilities).fields.all (fun f => f.absent.isSome) = true := by decide +kernel
  have hprovider : (recordOf .draftServerCapabilities).fields.all (fun f =>
      !(f.wire == "inlineCompletionProvider" || f.name == "inlineCompletionProvider") ||
        f.ty.same (.optional (.oneOf [.bool, .record .inlineCompletionOptions]))) = true := by decide +kernel
  rw [List.all_eq_true] at habsent hprovider
  refine .record (fun f hf ha => ?_) fun f hf j hj => ?_
  · have hsome := habsent f hf
    rw [ha] at hsome
    cases hsome
  · have hmember : (f.wire, j) = ("inlineCompletionProvider", .bool true) ∨
        (f.name, j) = ("inlineCompletionProvider", .bool true) := by
      rcases hj with h | ⟨-, h⟩
      · exact .inl (List.mem_singleton.1 (Members.mem_of_find? h))
      · exact .inr (List.mem_singleton.1 (Members.mem_of_find? h))
    have hkey : (f.wire == "inlineCompletionProvider" || f.name == "inlineCompletionProvider") = true ∧
        j = .bool true := by
      rcases hmember with h | h <;> simp [Prod.mk.inj h]
    have hty := hprovider f hf
    rw [hkey.1] at hty
    rw [hkey.2, Ty.eq_of_same hty]
    exact .optional (.oneOf List.mem_cons_self (.bool true))

theorem conforms_draftResult {source : Source} : Conforms source (.record .draftInitializeResult) draftResult := by
  have hfields : (recordOf .draftInitializeResult).fields = [required "capabilities" (.record .draftServerCapabilities),
      optional "serverInfo" (.record .serverInfo), optional "offsetEncoding" .str] := rfl
  refine .record ?_ ?_
  · simp only [hfields, List.forall_mem_cons]
    exact ⟨fun _ => ⟨_, .wire rfl⟩, (fun h => by cases h), (fun h => by cases h), fun _ h => by cases h⟩
  · simp only [hfields, List.forall_mem_cons]
    refine ⟨fun j hj => hj.eq rfl ▸ conforms_draftCapabilities, fun j hj => ?_,
      fun j hj => hj.eq rfl ▸ .optional (.str _), fun _ h => by cases h⟩
    rcases hj with h | ⟨-, h⟩ <;> cases h

/-! ## Records of the library -/

/-- **Inheritance is inlining, and the draft handshake extends the stable one.** -/
theorem base_reads_and_writes :
    (∀ c, ∀ b ∈ (recordOf c).ancestors, ∀ d v, decodeData (.record c) d = .ok v →
      ∃ w, decodeData (.record b) d = .ok w ∧ v.encodeAs (.record b) = w.encodeAs (.record b)) ∧
    ∀ p ∈ [(Class.draftInitializeParams, Class.initializeParams), (.draftInitializeResult, .initializeResult)],
      ∀ d v, decodeData (.record p.1) d = .ok v →
        ∃ w, decodeData (.record p.2) d = .ok w ∧ v.encodeAs (.record p.2) = w.encodeAs (.record p.2) ∧
          v.toTextAs (.record p.2) = w.toTextAs (.record p.2) ∧ w.encodeAs (.record p.2) = w.encode ∧
          DraftFree (.record p.2) w := by
  have hbase : ∀ c, ∀ b ∈ (recordOf c).ancestors, ∀ d v, decodeData (.record c) d = .ok v →
      ∃ w, decodeData (.record b) d = .ok w ∧ v.encodeAs (.record b) = w.encodeAs (.record b) := by
    intro c b hb d v h
    rw [Outcome.decodeData_eq_ok] at h
    obtain ⟨w, hw, hstands⟩ := decode_narrowed d (.record hb) rfl h
    exact ⟨w, Outcome.decodeData_eq_ok.2 hw, by rw [hstands.encodeAs_eq, encodeAs_eq_encode rfl hw]⟩
  refine ⟨hbase, fun p hp d v h => ?_⟩
  have hpair : p.2 ∈ (recordOf p.1).ancestors ∧ (!unstable p.2) = true := by
    simp only [List.mem_cons, List.not_mem_nil, or_false] at hp
    rcases hp with rfl | rfl <;> decide +kernel
  obtain ⟨w, hw, he⟩ := hbase p.1 p.2 hpair.1 d v h
  have hreads := reads_of_decode _ _ (Outcome.decodeData_eq_ok.1 hw)
  have hencode : w.encodeAs (.record p.2) = w.encode := encodeAs_eq_encode rfl (Outcome.decodeData_eq_ok.1 hw)
  refine ⟨w, hw, he, by rw [Value.toTextAs, Value.toTextAs, he], hencode, hreads.draftFree rfl ?_⟩
  rw [Ty.everyClass_record]
  exact hpair.2

/-- A host that knows the stable records alone reads draft capabilities and a draft result. -/
theorem draft_result_read_by_base :
    (∃ v w, decodeData (.record .draftServerCapabilities) draftCapabilities = .ok v ∧
      decodeData (.record .serverCapabilities) draftCapabilities = .ok w ∧
      v.encodeAs (.record .serverCapabilities) = w.encodeAs (.record .serverCapabilities)) ∧
    ∃ v w, decodeData (.record .draftInitializeResult) draftResult = .ok v ∧
      decodeData (.record .initializeResult) draftResult = .ok w ∧
      v.toTextAs (.record .initializeResult) = w.toTextAs (.record .initializeResult) ∧
      DraftFree (.record .initializeResult) w := by
  obtain ⟨v, hv⟩ := (decodeData_ok_iff (.record _) _).2 conforms_draftCapabilities
  obtain ⟨v', hv'⟩ := (decodeData_ok_iff (.record _) _).2 conforms_draftResult
  obtain ⟨w, hw, he⟩ := base_reads_and_writes.1 .draftServerCapabilities .serverCapabilities (by decide +kernel) _ v hv
  obtain ⟨w', hw', -, htext, -, hfree⟩ := base_reads_and_writes.2 (.draftInitializeResult, .initializeResult)
    (List.mem_cons_of_mem _ List.mem_cons_self) _ v' hv'
  exact ⟨⟨v, w, hv, hw, he⟩, v', w', hv', hw', htext, hfree⟩

end LspWire
