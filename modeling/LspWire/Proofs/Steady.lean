import LspWire.Proofs.Inheritance
import LspWire.Proofs.Variation

/-!
# Earlier arms stay refused

A member may be dropped or inserted if its key is no key of any record (`Unknown`), or if it is a `null` for a field
that may be `null` (`NullOption`). In the arm of a union that reads the value such a member is idle. An earlier arm need
not take it so: the field may be one that the earlier class requires, or does not have. That the arm is refused as
before is checked on the types (`Ty.steady`), and `Varies.steady` says what the check means.

Two classes whose records stand for one another in some union are `rivals`. A field of one class that shares its key
with a field of the other is compared by type, and where these are records by the table of rivals again, so that the
check ends though the classes contain one another.
-/

namespace LspWire

open Schema

/-! ## Idle members -/

/-- Whether `null` is a value of a type as the absence of one. -/
def Ty.isOptional : Ty → Bool
  | .optional _ | .switch .. => true
  | _ => false

namespace Schema

/-- A member whose key is no key of any record, in an object whose further members are dropped. -/
def Unknown (_held : Bool) (c : Class) (m : String × Json) : Prop :=
  c ≠ .messageActionItem ∧ c ≠ .formattingOptions ∧
    ∀ b, ∀ f ∈ (recordOf b).fields, m.1 ≠ f.wire ∧ m.1 ≠ f.name

/-- A `null` for a field that may be `null`, not under a registration key where these decide the class. -/
def NullOption (held : Bool) (c : Class) (m : String × Json) : Prop :=
  m.2 = .null ∧ (∃ f ∈ (recordOf c).fields, f.ty.isOptional = true ∧ (m.1 = f.wire ∨ m.1 = f.name)) ∧
    (held = true → m.1 ∉ registrationKeys)

/-- A member of either kind. -/
def Idle (held : Bool) (c : Class) (m : String × Json) : Prop := Unknown held c m ∨ NullOption held c m

/-- An idle member under a key of a record is a `null` for a field that may be `null`. -/
theorem Idle.nullOption {held : Bool} {b c : Class} {m : String × Json} (h : Idle held c m) {f : Field}
    (hf : f ∈ (recordOf b).fields) (hkey : m.1 = f.wire ∨ m.1 = f.name) : NullOption held c m := by
  rcases h with ⟨-, -, hunknown⟩ | hnull
  · exact (hkey.elim (hunknown b f hf).1 (hunknown b f hf).2).elim
  · exact hnull

end Schema

/-! ## The check -/

namespace Ty

/-- A type without the `null` that it adds. -/
def bare : Ty → Ty
  | .optional t => bare t
  | t => t

/-- Whether two types have no form in common, or are the same, but for `null` at the first. -/
def settles (a b : Ty) : Bool := a.bare.differ b || a.bare.same b

end Ty

namespace Schema

/-- Pairs of classes: an arm of a union that may stand before another, or what fields of such arms contain. -/
def rivals : List (Class × Class) := [
  (.command, .codeAction), (.textEdit, .insertReplaceEdit), (.range, .insertReplaceRange),
  (.relatedFullDocumentDiagnosticReport, .documentDiagnosticReportPartialResult),
  (.relatedUnchangedDocumentDiagnosticReport, .documentDiagnosticReportPartialResult),
  (.annotatedTextEdit, .textEdit), (.createFile, .textDocumentEdit), (.renameFile, .textDocumentEdit),
  (.deleteFile, .textDocumentEdit), (.textDocumentEdit, .createFile), (.textDocumentEdit, .renameFile),
  (.textDocumentEdit, .deleteFile), (.markupContent, .languageString), (.range, .prepareRenamePlaceholder),
  (.range, .prepareRenameDefaultBehavior), (.prepareRenamePlaceholder, .prepareRenameDefaultBehavior),
  (.location, .locationLink), (.inlineValueText, .inlineValueVariableLookup),
  (.inlineValueText, .inlineValueEvaluatableExpression),
  (.inlineValueVariableLookup, .inlineValueEvaluatableExpression), (.symbolInformation, .documentSymbol),
  (.symbolInformation, .workspaceSymbol), (.location, .workspaceLocation), (.semanticTokensDelta, .semanticTokens),
  (.documentSymbol, .rangeBasedDocumentSymbol)]

/-- Whether a class is a rival of another, and has a field under a key. -/
def rivalUnder (key : String) (b : Class) : Ty → Bool
  | .record a => rivals.contains (a, b) && (recordOf a).fields.any fun f => f.wire == key
  | _ => false

/-- Whether a type reads records, and those are of rivals of a class. -/
def hasRival (b : Class) : Ty → Bool
  | .record a => rivals.contains (a, b)
  | .tagged key arms => arms.all fun p => rivalUnder key b p.2
  | _ => false

end Schema

namespace Ty

mutual

/-- Whether a type that refuses what another reads refuses its variations. -/
def steady (a : Ty) : Ty → Bool
  | .list b => a.settles (.list b) ||
    match a.bare with
    | .list a => steady a b
    | _ => false
  | .record b => a.settles (.record b) || hasRival b a.bare
  | .optional b => steady a b
  | .oneOf arms => steadyAll a arms
  | .tagged key arms => a.settles (.tagged key arms) || steadyArms a arms
  | .pair b c => a.settles (.pair b c)
  | .map keys b => a.settles (.map keys b)
  | .provider b p r => a.settles (.provider b p r)
  | .switch on b => a.settles (.switch on b)
  | _ => true

/-- Whether a type is steady beside all types. -/
def steadyAll (a : Ty) : List Ty → Bool
  | [] => true
  | t :: ts => steady a t && steadyAll a ts

/-- Whether a type is steady beside all types under tags. -/
def steadyArms (a : Ty) : List (String × Ty) → Bool
  | [] => true
  | (_, t) :: ts => steady a t && steadyArms a ts

end

theorem steadyAll_eq_all (a : Ty) (ts : List Ty) : steadyAll a ts = ts.all (steady a) := by
  induction ts with
  | nil => rfl
  | cons t ts ih => rw [steadyAll, ih, List.all_cons]

theorem steadyArms_eq_all (a : Ty) (ts : List (String × Ty)) : steadyArms a ts = ts.all fun p => a.steady p.2 := by
  induction ts with
  | nil => rfl
  | cons p ts ih => rw [steadyArms, ih, List.all_cons]

end Ty

namespace Field

/-- Whether a field that has no value where another class has `null` is steady about it: it takes `null` as well as no
    value, or neither. -/
def steadyNull (f : Field) : Bool := if f.absent.isNone then !f.ty.kinds.contains .null else f.ty.isOptional

/-- Whether a field is steady beside one of another class with its key. -/
def steady (f g : Field) : Bool := f.ty.steady g.ty && (!g.ty.isOptional || f.steadyNull)

end Field

namespace Schema

/-- Whether a record that is refused stays refused where another class is read. -/
def steadyBeside (a b : Class) : Bool :=
  (recordOf a).fields.all fun f => f.name == f.wire &&
    (recordOf b).fields.all fun g => !(g.wire == f.wire || g.name == f.wire) || f.steady g

theorem rivals_steady : ∀ p ∈ rivals, steadyBeside p.1 p.2 = true := by decide +kernel

theorem steady_of_rivals {a b : Class} (h : (a, b) ∈ rivals) {f : Field} (hf : f ∈ (recordOf a).fields) :
    f.name = f.wire ∧ ∀ g ∈ (recordOf b).fields, f.wire = g.wire ∨ f.wire = g.name → f.ty.steady g.ty = true ∧
      (g.ty.isOptional = true → f.steadyNull = true) := by
  have hsteady := List.all_eq_true.1 (rivals_steady _ h) f hf
  rw [Bool.and_eq_true, beq_iff_eq, List.all_eq_true] at hsteady
  refine ⟨hsteady.1, fun g hg hkey => ?_⟩
  have hfg := hsteady.2 g hg
  rw [Field.hasKey_iff.2 hkey, Bool.not_true, Bool.false_or, Field.steady, Bool.and_eq_true] at hfg
  refine ⟨hfg.1, fun hopt => ?_⟩
  simpa [hopt] using hfg.2

end Schema

/-! ## What the check means -/

section Reading

variable {source : Source}

theorem decode_bare {j : Json} (hj : j ≠ .null) : ∀ t : Ty, decode source t j = decode source t.bare j
  | .optional t => by rw [decode_optional_of_ne hj, Ty.bare, decode_bare hj t]
  | .any | .null | .bool | .integer | .bounded .. | .float | .str | .uri | .intEnum _ | .openEnum _ | .closedEnum _
  | .watchKind | .literal _ | .list _ | .pair .. | .map .. | .record _ | .oneOf _ | .tagged .. | .provider ..
  | .switch .. => rfl

theorem decode_null_of_isOptional {t : Ty} (h : t.isOptional = true) : decode source t .null = .ok .null := by
  unfold Ty.isOptional at h
  split at h
  · rw [decode]
  · rw [decode]
  · cases h

/-- A field whose key is its name is read from that key. -/
theorem decodeField_of_named {f : Field} (h : f.name = f.wire) (ms : List (String × Json)) :
    decodeField source f ms =
      match Members.find? f.wire ms with
      | some j => decode source f.ty j
      | none => decodeAbsent f := by
  rw [decodeField, findField?, h]
  cases Members.find? f.wire ms <;> rfl

/-- The record that an object becomes is what is read. -/
theorem Becomes.decode_eq {t : Ty} {ms : List (String × Json)} {held : Bool} {c : Class} (h : Becomes t ms held c)
    {v : Value} : decode source t (.obj ms) = .ok v ↔ decodeRecord source c (.obj ms) = .ok v := by
  cases h with
  | record => rw [decode_record]
  | registered hr => rw [decode, if_pos hr, Outcome.within_eq_ok]
  | plain hr => rw [decode, if_neg (by simp [hr]), Outcome.within_eq_ok]

theorem decodeRecord_ok_iff {c : Class} {ms : List (String × Json)} :
    (∃ v, decodeRecord source c (.obj ms) = .ok v) ↔
      ∀ f ∈ (recordOf c).fields, ∃ v, decodeField source f ms = .ok v := by
  constructor
  · rintro ⟨v, hv⟩ f hf
    obtain ⟨_, ⟨⟩, hok, -⟩ := decodeRecord_eq_ok hv
    exact ⟨_, hok f hf⟩
  · exact fun h => ⟨_, decodeRecord_map (fun f => (decodeField source f ms).got) fun f hf => Outcome.eq_ok_got (h f hf)⟩

end Reading

/-- What is known of the kept members of an object: a type that is steady at the field of a member reads its first value
    if it reads its second. -/
def SteadyMembers (c : Class) (ks : List (String × Json × Json)) (ms : List (String × Json)) : Prop :=
  ∀ p ∈ ks, (∀ g ∈ (recordOf c).fields, findField? g ms = some (p.1, p.2.1) → ∀ a : Ty, a.steady g.ty = true →
      (∃ w, decode .data a p.2.2 = .ok w) → ∃ w, decode .data a p.2.1 = .ok w) ∧
    ((∀ g ∈ (recordOf c).fields, findField? g ms ≠ some (p.1, p.2.1)) → p.2.1 = p.2.2)

section Rivals

variable {held : Bool} {a c : Class} {ks : List (String × Json × Json)} {ms ms' : List (String × Json)}

/-- A field of a rival that is read after the variation is read before. -/
theorem decodeField_of_rival (hac : (a, c) ∈ rivals) (hks : Aligned (Idle held c) ks ms ms')
    (hd : (ms.map (·.1)).Nodup) (hd' : (ms'.map (·.1)).Nodup) (hsteady : SteadyMembers c ks ms) {f : Field}
    (hf : f ∈ (recordOf a).fields) (h : ∃ w, decodeField .data f ms' = .ok w) :
    ∃ w, decodeField .data f ms = .ok w := by
  obtain ⟨hname, hbeside⟩ := steady_of_rivals hac hf
  obtain ⟨w, hw⟩ := h
  rw [decodeField_of_named hname] at hw
  rw [decodeField_of_named hname]
  rcases hks.lookup hd hd' f.wire with ⟨x, x', hp, hx, hx'⟩ | hidle
  · rw [hx'] at hw
    rw [hx]
    by_cases hfield : ∃ g ∈ (recordOf c).fields, findField? g ms = some (f.wire, x)
    · obtain ⟨g, hg, hfind⟩ := hfield
      exact (hsteady _ hp).1 g hg hfind f.ty (hbeside g hg (find?_of_findField? hfind).2).1 ⟨w, hw⟩
    · have hsame : x = x' := (hsteady _ hp).2 fun g hg hfind => hfield ⟨g, hg, hfind⟩
      exact ⟨w, by rw [hsame]; exact hw⟩
  · -- the key is not kept, so on either side it has no value or `null`, which the class `c` takes alike
    have hnull : ∀ x, Members.find? f.wire ms = some x ∨ Members.find? f.wire ms' = some x →
        x = .null ∧ f.steadyNull = true := by
      intro x hx
      obtain ⟨hx, ⟨g, hg, hopt, hkey⟩, -⟩ := (hidle x hx).nullOption hf (.inl rfl)
      exact ⟨hx, (hbeside g hg hkey).2 hopt⟩
    cases habsent : f.absent with
    | none =>
      cases hx' : Members.find? f.wire ms' with
      | none =>
        rw [hx'] at hw
        rw [decodeAbsent_eq_ok.1 hw] at habsent
        cases habsent
      | some x' =>
        obtain ⟨rfl, hsn⟩ := hnull x' (.inr hx')
        rw [hx'] at hw
        have hkind := (reads_of_decode _ _ hw).kind_mem
        simp only [Field.steadyNull, habsent, Option.isNone_none, if_true, Bool.not_eq_true', List.contains_eq_mem,
          decide_eq_false_iff_not] at hsn
        exact absurd hkind hsn
    | some v =>
      cases hx : Members.find? f.wire ms with
      | none => exact ⟨v, decodeAbsent_eq_ok.2 habsent⟩
      | some x =>
        obtain ⟨rfl, hsn⟩ := hnull x (.inl hx)
        rw [Field.steadyNull, habsent, Option.isNone_some, if_neg Bool.false_ne_true] at hsn
        exact ⟨.null, decode_null_of_isOptional hsn⟩

theorem decodeRecord_of_rival (hac : (a, c) ∈ rivals) (hks : Aligned (Idle held c) ks ms ms')
    (hd : (ms.map (·.1)).Nodup) (hd' : (ms'.map (·.1)).Nodup) (hsteady : SteadyMembers c ks ms)
    (h : ∃ w, decode .data (.record a) (.obj ms') = .ok w) : ∃ w, decode .data (.record a) (.obj ms) = .ok w := by
  rw [decode_record, decodeRecord_ok_iff] at h ⊢
  exact fun f hf => decodeField_of_rival hac hks hd hd' hsteady hf (h f hf)

/-- A type that reads rivals only, after the variation, reads the same rival before it. The tag that tells it from
    others stands under a key of the rival. -/
theorem decode_of_hasRival {t : Ty} (ht : hasRival c t = true) (hks : Aligned (Idle held c) ks ms ms')
    (hd : (ms.map (·.1)).Nodup) (hd' : (ms'.map (·.1)).Nodup) (hsteady : SteadyMembers c ks ms)
    (htags : ∀ b, ∀ f ∈ (recordOf b).fields, ∀ s : String, Members.find? f.wire ms' = some (.str s) →
      Members.find? f.wire ms = some (.str s))
    (h : ∃ w, decode .data t (.obj ms') = .ok w) : ∃ w, decode .data t (.obj ms) = .ok w := by
  unfold hasRival at ht
  split at ht
  · exact decodeRecord_of_rival (List.contains_iff_mem.1 ht) hks hd hd' hsteady h
  · next key arms =>
    obtain ⟨w, hw⟩ := h
    obtain ⟨_, tag, u, ⟨⟩, htag, hu, hread⟩ := decode_tagged_eq_ok.1 hw
    have harm : rivalUnder key c u = true := List.all_eq_true.1 ht _ (mem_of_lookup hu)
    unfold rivalUnder at harm
    split at harm
    · next b =>
      simp only [Bool.and_eq_true, List.contains_iff_mem, List.any_eq_true, beq_iff_eq] at harm
      obtain ⟨hrival, f, hf, rfl⟩ := harm
      obtain ⟨w', hread'⟩ := decodeRecord_of_rival hrival hks hd hd' hsteady ⟨w, hread⟩
      exact ⟨w', decode_tagged_eq_ok.2 ⟨_, tag, _, rfl, htags b f hf tag htag, hu, hread'⟩⟩
    · cases harm
  · cases ht

end Rivals

theorem decode_of_settles {a t : Ty} {j j' : Json} (ha : a.settles t = true) (hkind : j.kind = j'.kind)
    (hj : j ≠ .null) (hj' : j' ≠ .null) (ht : ∃ v, decode .data t j = .ok v) (h : ∃ w, decode .data a j' = .ok w) :
    ∃ w, decode .data a j = .ok w := by
  rw [decode_bare hj'] at h
  rw [decode_bare hj]
  obtain ⟨v, hv⟩ := ht
  obtain ⟨w, hw⟩ := h
  rw [Ty.settles, Bool.or_eq_true] at ha
  rcases ha with hdiffer | hsame
  · have hkinds := (reads_of_decode _ _ hw).kind_mem
    rw [← hkind] at hkinds
    exact absurd (reads_of_decode _ _ hv).kind_mem (Ty.differ_spec hdiffer hkinds)
  · rw [Ty.eq_of_same hsame]
    exact ⟨v, hv⟩

/-- **A type that is steady beside another reads no variation of what it refuses**, where the other reads the value. -/
theorem Varies.steady {t : Ty} {j j' : Json} (h : Varies Idle t j j') : j.Distinct → j'.Distinct →
    (∃ v, decode .data t j = .ok v) → ∀ a : Ty, a.steady t = true → (∃ w, decode .data a j' = .ok w) →
      ∃ w, decode .data a j = .ok w := by
  induction h with
  | same t j => exact fun _ _ _ a _ hw => hw
  | @list t ps hps ih =>
    intro hd hd' hv a ha hw
    rw [Ty.steady, Bool.or_eq_true] at ha
    rcases ha with ha | ha
    · exact decode_of_settles ha (Varies.list hps).sameForm.kind_eq (fun e => by cases e) (fun e => by cases e) hv hw
    rw [decode_bare fun e => by cases e] at hw
    rw [decode_bare fun e => by cases e]
    split at ha
    · next b hb =>
      rw [hb] at hw ⊢
      obtain ⟨v, hv⟩ := hv
      obtain ⟨w, hw⟩ := hw
      obtain ⟨_, ⟨⟩, hread, -⟩ := decode_list_eq_ok hv
      obtain ⟨_, ⟨⟩, hread', -⟩ := decode_list_eq_ok hw
      have hitems : ∀ p ∈ ps, decode .data b p.1 = .ok (decode .data b p.1).got := fun p hp => by
        have hleft : p.1 ∈ ps.map (·.1) := List.mem_map_of_mem hp
        have hright : p.2 ∈ ps.map (·.2) := List.mem_map_of_mem hp
        exact Outcome.eq_ok_got (ih p hp (hd.item hleft) (hd'.item hright) ⟨_, hread _ hleft⟩ b ha ⟨_, hread' _ hright⟩)
      exact ⟨_, decode_list_map Prod.fst (fun p => (decode .data b p.1).got) hitems⟩
    · cases ha
  | @pair b c x y x' y' hx hy _ _ =>
    intro _ _ hv a ha hw
    exact decode_of_settles ha (Varies.pair hx hy).sameForm.kind_eq (fun e => by cases e) (fun e => by cases e) hv hw
  | @map keys t ps hps _ =>
    intro _ _ hv a ha hw
    have hvaries : Varies Idle (.map keys t) _ _ := .map hps
    exact decode_of_settles ha hvaries.sameForm.kind_eq (fun e => by cases e) (fun e => by cases e) hv hw
  | @object t held c ks ms ms' hbecomes hks hread hunread ih =>
    intro hd hd' hv a ha hw
    have hvaries : Varies Idle t (.obj ms) (.obj ms') := .object hbecomes hks hread hunread
    have hsettled : a.settles t = true → ∃ w, decode .data a (.obj ms) = .ok w := fun ha =>
      decode_of_settles ha hvaries.sameForm.kind_eq (fun e => by cases e) (fun e => by cases e) hv hw
    cases hbecomes with
    | registered hr | plain hr => exact hsettled ha
    | record =>
      rw [Ty.steady, Bool.or_eq_true] at ha
      rcases ha with ha | ha
      · exact hsettled ha
      have hsteady : SteadyMembers c ks ms := by
        intro p hp
        refine ⟨fun g hg hfind a ha hw => ?_, hunread p hp⟩
        rw [decode_record, decodeRecord_ok_iff] at hv
        have hfield := hv g hg
        rw [decodeField, hfind] at hfield
        exact ih p hp g hg hfind (hd.member (hks.mem_left hp)) (hd'.member (hks.mem_right hp)) hfield a ha hw
      have htags : ∀ b, ∀ f ∈ (recordOf b).fields, ∀ s : String, Members.find? f.wire ms' = some (.str s) →
          Members.find? f.wire ms = some (.str s) := by
        intro b f hf s
        refine (hvaries.find?_str_iff (fun held c hidle => ?_) rfl rfl hd.nodup hd'.nodup).2
        cases (hidle.nullOption hf (.inl rfl)).1
      rw [decode_bare fun e => by cases e] at hw
      rw [decode_bare fun e => by cases e]
      exact decode_of_hasRival ha hks hd.nodup hd'.nodup hsteady htags hw
  | optional hj _ ih =>
    intro hd hd' hv a ha hw
    rw [decode_optional_of_ne hj] at hv
    exact ih hd hd' hv a ha hw
  | switch hj hb hvaries _ =>
    intro _ _ hv a ha hw
    exact decode_of_settles ha hvaries.sameForm.kind_eq hj (mt hvaries.sameForm.eq_null_iff.2 hj) hv hw
  | @oneOf pre post t j j' _ ht _ ih =>
    intro hd hd' _ a ha hw
    rw [Ty.steady, Ty.steadyAll_eq_all, List.all_eq_true] at ha
    exact ih hd hd' (exists_of_not_refused ht) a (ha t (by simp)) hw
  | @tagged key tag arms t ms j' htag hm hvaries ih =>
    intro hd hd' hv a ha hw
    rw [Ty.steady, Bool.or_eq_true, Ty.steadyArms_eq_all, List.all_eq_true] at ha
    rcases ha with ha | ha
    · have hj' : j' ≠ .null := mt hvaries.sameForm.eq_null_iff.2 fun e => by cases e
      exact decode_of_settles ha hvaries.sameForm.kind_eq (fun e => by cases e) hj' hv hw
    obtain ⟨v, hv⟩ := hv
    obtain ⟨_, _, u, ⟨⟩, htag', hu, hv⟩ := decode_tagged_eq_ok.1 hv
    cases htag.symm.trans htag'
    cases hm.symm.trans hu
    exact ih hd hd' ⟨v, hv⟩ a (ha _ (mem_of_lookup hm)) hw

end LspWire
