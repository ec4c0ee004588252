import LspWire.Proofs.Steady

/-!
# Members that do not matter

Members under unknown keys, and `null` for a field that may be `null`, can be dropped and inserted at any depth: what
is read is the same value (`unknown_keys_ignored`, `null_reads_as_absent`). Both are cases of `Varies.decode_eq`, which
is about idle members of either kind.

No idle member decides a union: it is no tag and no registration key, and the earlier arms of an untagged union are
steady beside the one that reads the value (`Ty.stable`). In the object itself a field is read from a key that is kept,
or finds `null` on one side and nothing on the other.
-/

namespace LspWire

open Schema

/-! ## The checks -/

namespace Schema

/-- The keys that tell the arms of a union: those of tags, and the registration keys. -/
def tellingKeys : List String := ["kind", "type", "label"] ++ registrationKeys

theorem tellingKeys_known : ∀ key ∈ tellingKeys, ∃ b, ∃ f ∈ (recordOf b).fields, f.wire = key := by
  have hknown : tellingKeys.all (fun key => Class.all.any fun b => (recordOf b).fields.any fun f => f.wire == key) =
      true := by decide +kernel
  intro key hkey
  obtain ⟨b, -, h⟩ := List.any_eq_true.1 (List.all_eq_true.1 hknown key hkey)
  obtain ⟨f, hf, he⟩ := List.any_eq_true.1 h
  exact ⟨b, f, hf, beq_iff_eq.1 he⟩

end Schema

namespace Ty

/-- Whether one level of a type is told in spite of idle members: an arm of an untagged union is steady beside the later
    ones, and no idle member stands under the key of a tag. -/
def stableLevel : Ty → Bool
  | .oneOf arms => decide (arms.Pairwise fun a b => a.steady b = true)
  | .tagged key _ => tellingKeys.contains key
  | _ => true

/-- Whether the arms of every union in a type are told apart in spite of idle members. -/
def stable (t : Ty) : Bool := t.everywhere stableLevel

/-- What a stable type is built from is stable. -/
theorem stable_inner {t u : Ty} (h : t.stable = true) (hu : u ∈ t.inner) : u.stable = true := everywhere_inner h hu

theorem steady_of_stable {arms : List Ty} (h : (oneOf arms).stable = true) :
    arms.Pairwise fun a b => a.steady b = true :=
  decide_eq_true_iff.1 (everywhere_self h)

theorem mem_tellingKeys_of_stable {key : String} {arms : List (String × Ty)} (h : (tagged key arms).stable = true) :
    key ∈ tellingKeys :=
  List.contains_iff_mem.1 (everywhere_self h)

end Ty

/-- Whether the type of a field is stable, and a field that may be `null` has one key and is `null` when absent. -/
def Field.stable (f : Field) : Bool :=
  f.ty.stable && (!f.ty.isOptional || f.name == f.wire &&
    match f.absent with
    | some .null => true
    | _ => false)

namespace Schema

theorem fields_stable (c : Class) : (recordOf c).fields.all Field.stable = true := by
  revert c
  decide +kernel

theorem field_stable {c : Class} {f : Field} (hf : f ∈ (recordOf c).fields) :
    f.ty.stable = true ∧ (f.ty.isOptional = true → f.name = f.wire ∧ f.absent = some .null) := by
  have hstable := List.all_eq_true.1 (fields_stable c) f hf
  rw [Field.stable, Bool.and_eq_true] at hstable
  refine ⟨hstable.1, fun hopt => ?_⟩
  rw [hopt, Bool.not_true, Bool.false_or, Bool.and_eq_true, beq_iff_eq] at hstable
  refine ⟨hstable.2.1, ?_⟩
  have habsent := hstable.2.2
  split at habsent
  · assumption
  · cases habsent

theorem stable_checked : Checked Ty.stableLevel where
  other := fun t ht => by
    cases t with
    | oneOf | tagged => cases ht
    | _ => rfl
  field := fun _ _ hf => (field_stable hf).1
  named := by decide +kernel
  payload := by decide +kernel

theorem InLibrary.stable {t : Ty} (h : InLibrary t) : t.stable = true := stable_checked.library h

theorem keepsExtra_iff (c : Class) :
    (recordOf c).keepsExtra = true ↔ c = .messageActionItem ∨ c = .formattingOptions := by
  revert c
  decide +kernel

end Schema

/-! ## Objects -/

section Objects

variable {held : Bool} {c : Class} {ks : List (String × Json × Json)} {ms ms' : List (String × Json)}

/-- A key of a field that cannot be `null` is kept, or absent on both sides. -/
theorem lookup_required (hks : Aligned (Idle held c) ks ms ms') (hd : (ms.map (·.1)).Nodup)
    (hd' : (ms'.map (·.1)).Nodup) {f : Field} (hf : f ∈ (recordOf c).fields) (hopt : f.ty.isOptional = false)
    {k : String} (hk : k = f.wire ∨ k = f.name) :
    (∃ x x', (k, x, x') ∈ ks ∧ Members.find? k ms = some x ∧ Members.find? k ms' = some x') ∨
      Members.find? k ms = none ∧ Members.find? k ms' = none := by
  refine (hks.lookup hd hd' k).imp_right fun hidle => ?_
  have hnone : ∀ x, ¬ (Members.find? k ms = some x ∨ Members.find? k ms' = some x) := by
    intro x hx
    obtain ⟨-, ⟨g, hg, hgopt, hgk⟩, -⟩ := (hidle x hx).nullOption hf hk
    have hne : f ≠ g := by rintro rfl; rw [hopt] at hgopt; cases hgopt
    obtain ⟨h₁, h₂, h₃, h₄⟩ := apart_of_ne hf hg hne
    rcases hk with rfl | rfl <;> rcases hgk with hgk | hgk
    · exact h₂ hgk
    · exact h₄ hgk
    · exact h₃ hgk
    · exact h₁ hgk
  exact ⟨Option.eq_none_iff_forall_ne_some.2 fun x hx => hnone x (.inl hx),
    Option.eq_none_iff_forall_ne_some.2 fun x hx => hnone x (.inr hx)⟩

/-- A field that may be `null` is so if its key is absent, and if its key has `null`. -/
theorem decodeField_eq_null {f : Field} (hf : f ∈ (recordOf c).fields) (hopt : f.ty.isOptional = true)
    (h : ∀ x, Members.find? f.wire ms = some x → x = .null) : decodeField .data f ms = .ok .null := by
  obtain ⟨hname, habsent⟩ := (field_stable hf).2 hopt
  rw [decodeField_of_named hname]
  cases hx : Members.find? f.wire ms with
  | none => exact decodeAbsent_eq_ok.2 habsent
  | some x =>
    rw [h x hx]
    exact decode_null_of_isOptional hopt

/-- A field is read after the variation as before: from the same key, from no key, or as `null`. -/
theorem decodeField_of_aligned (hks : Aligned (Idle held c) ks ms ms') (hd : (ms.map (·.1)).Nodup)
    (hd' : (ms'.map (·.1)).Nodup) {f : Field} (hf : f ∈ (recordOf c).fields) :
    (∃ p ∈ ks, findField? f ms = some (p.1, p.2.1) ∧ findField? f ms' = some (p.1, p.2.2)) ∨
      decodeField .data f ms = decodeField .data f ms' := by
  cases hopt : f.ty.isOptional with
  | true =>
    rcases hks.lookup hd hd' f.wire with ⟨x, x', hp, hx, hx'⟩ | hidle
    · exact .inl ⟨_, hp, by rw [findField?, hx], by rw [findField?, hx']⟩
    · refine .inr ?_
      rw [decodeField_eq_null hf hopt fun x hx => ((hidle x (.inl hx)).nullOption hf (.inl rfl)).1,
        decodeField_eq_null hf hopt fun x hx => ((hidle x (.inr hx)).nullOption hf (.inl rfl)).1]
  | false =>
    rcases lookup_required hks hd hd' hf hopt (.inl rfl) with ⟨x, x', hp, hx, hx'⟩ | ⟨hw, hw'⟩
    · exact .inl ⟨_, hp, by rw [findField?, hx], by rw [findField?, hx']⟩
    rcases lookup_required hks hd hd' hf hopt (.inr rfl) with ⟨x, x', hp, hx, hx'⟩ | ⟨hn, hn'⟩
    · exact .inl ⟨_, hp, by rw [findField?, hw, hx], by rw [findField?, hw', hx']⟩
    · refine .inr ?_
      rw [decodeField, decodeField, findField?, findField?, hw, hw', hn, hn']

/-- What a record keeps besides its fields is never idle. -/
theorem keptMembers_of_aligned (hks : Aligned (Idle held c) ks ms ms') (hd : (ms.map (·.1)).Nodup)
    (hd' : (ms'.map (·.1)).Nodup)
    (hunread : ∀ p ∈ ks, (∀ f ∈ (recordOf c).fields, findField? f ms ≠ some (p.1, p.2.1)) → p.2.1 = p.2.2) :
    keptMembers c ms = keptMembers c ms' := by
  unfold keptMembers
  split
  · next hkeeps =>
    rw [extraMembers, extraMembers, hks.filter_eq hd hd' (p := fun k =>
      !(recordOf c).fields.any fun f => f.wire == k || f.name == k)]
    · intro m hm
      rcases hm with ⟨hmessage, hformat, -⟩ | ⟨-, ⟨f, hf, -, hkey⟩, -⟩
      · exact absurd ((keepsExtra_iff c).1 hkeeps) (not_or.2 ⟨hmessage, hformat⟩)
      · rw [Bool.not_eq_false', List.any_eq_true]
        exact ⟨f, hf, Field.hasKey_iff.2 hkey⟩
    · intro q hq hkey
      refine hunread q hq fun f hf hfind => ?_
      rw [Bool.not_eq_true', List.any_eq_false] at hkey
      exact hkey f hf (Field.hasKey_iff.2 (find?_of_findField? hfind).2)
  · rfl

/-- The object becomes a record of the same class after the variation. -/
theorem Becomes.of_aligned {t : Ty} (h : Becomes t ms held c) (hks : Aligned (Idle held c) ks ms ms') :
    Becomes t ms' held c := by
  have hregistration : held = true → (isRegistration ms = true ↔ isRegistration ms' = true) := by
    rintro rfl
    have hkey : ∀ k ∈ registrationKeys, ∀ x, ¬ Idle true c (k, x) := by
      intro k hk x hidle
      obtain ⟨b, f, hf, rfl⟩ := tellingKeys_known k (List.mem_append_right _ hk)
      exact (hidle.nullOption hf (.inl rfl)).2.2 rfl hk
    rw [isRegistration_iff, isRegistration_iff]
    constructor
    · rintro ⟨m, hm, hk⟩
      obtain ⟨n, hn, he⟩ := (hks.mem_keys_iff (hkey _ hk)).1 ⟨m, hm, rfl⟩
      exact ⟨n, hn, he ▸ hk⟩
    · rintro ⟨m, hm, hk⟩
      obtain ⟨n, hn, he⟩ := (hks.mem_keys_iff (hkey _ hk)).2 ⟨m, hm, rfl⟩
      exact ⟨n, hn, he ▸ hk⟩
  cases h with
  | record => exact .record c ms'
  | registered hr => exact .registered ((hregistration rfl).1 hr)
  | plain hr => exact .plain (by rwa [← Bool.not_eq_true, ← hregistration rfl, Bool.not_eq_true])

end Objects

/-! ## Variations read alike -/

/-- **A variation is read as the same value.** -/
theorem Varies.decode_eq {t : Ty} {j j' : Json} (h : Varies Idle t j j') : t.stable = true → j.Distinct →
    j'.Distinct → ∀ {v : Value}, decode .data t j = .ok v → decode .data t j' = .ok v := by
  induction h with
  | same t j => exact fun _ _ _ _ hv => hv
  | @list t ps _ ih =>
    intro ht hd hd' v hv
    replace ht := Ty.stable_inner ht List.mem_cons_self
    obtain ⟨_, ⟨⟩, hread, rfl⟩ := decode_list_eq_ok hv
    rw [List.map_map]
    refine decode_list_map Prod.snd _ fun p hp => ?_
    have hleft : p.1 ∈ ps.map (·.1) := List.mem_map_of_mem hp
    have hright : p.2 ∈ ps.map (·.2) := List.mem_map_of_mem hp
    exact ih p hp ht (hd.item hleft) (hd'.item hright) (hread _ hleft)
  | pair _ _ ihx ihy =>
    intro ht hd hd' v hv
    have hta := Ty.stable_inner ht List.mem_cons_self
    have htb := Ty.stable_inner ht (List.mem_cons_of_mem _ List.mem_cons_self)
    obtain ⟨_, _, u, w, ⟨⟩, rfl, hu, hw⟩ := decode_pair_eq_ok hv
    have hsecond : ∀ {x y : Json}, y ∈ [x, y] := List.mem_cons_of_mem _ List.mem_cons_self
    exact decode_pair (ihx hta (hd.item List.mem_cons_self) (hd'.item List.mem_cons_self) hu)
      (ihy htb (hd.item hsecond) (hd'.item hsecond) hw)
  | @map keys t ps _ ih =>
    intro ht hd hd' v hv
    replace ht := Ty.stable_inner ht List.mem_cons_self
    obtain ⟨_, ⟨⟩, hkeys, hread, rfl⟩ := decode_map_eq_ok hv
    rw [List.forall_mem_map] at hkeys hread
    rw [List.map_map]
    refine decode_map_map (α := Json × Json) Prod.snd (fun p => (decode .data t p.1).got) hkeys fun p hp => ?_
    exact ih p hp ht (hd.member (List.mem_map_of_mem (f := fun p : String × Json × Json => (p.1, p.2.1)) hp))
      (hd'.member (List.mem_map_of_mem (f := fun p : String × Json × Json => (p.1, p.2.2)) hp)) (hread p hp)
  | @object t held c ks ms ms' hbecomes hks _ hunread ih =>
    intro _ hd hd' v hv
    obtain ⟨_, ⟨⟩, hread, rfl⟩ := decodeRecord_eq_ok (hbecomes.decode_eq.1 hv)
    rw [(hbecomes.of_aligned hks).decode_eq, keptMembers_of_aligned hks hd.nodup hd'.nodup hunread]
    refine decodeRecord_map (fun f => (decodeField .data f ms).got) fun f hf => ?_
    have hfield := hread f hf
    generalize (decodeField .data f ms).got = w at hfield ⊢
    rcases decodeField_of_aligned hks hd.nodup hd'.nodup hf with ⟨p, hp, hfind, hfind'⟩ | heq
    · rw [decodeField, hfind] at hfield
      rw [decodeField, hfind']
      exact ih p hp f hf hfind (field_stable hf).1 (hd.member (hks.mem_left hp)) (hd'.member (hks.mem_right hp)) hfield
    · rwa [← heq]
  | optional hj hvaries ih =>
    intro ht hd hd' v hv
    replace ht := Ty.stable_inner ht List.mem_cons_self
    rw [decode_optional_of_ne hj] at hv
    rw [decode_optional_of_ne (mt hvaries.sameForm.eq_null_iff.2 hj)]
    exact ih ht hd hd' hv
  | @switch on t j j' hj hb hvaries ih =>
    intro ht hd hd' v hv
    replace ht := Ty.stable_inner ht List.mem_cons_self
    have hj' : j' ≠ .null := mt hvaries.sameForm.eq_null_iff.2 hj
    have hb' : ∀ b, j' ≠ .bool b := fun b => mt (hvaries.sameForm.eq_bool_iff b).2 (hb b)
    rw [decode_switch_of_ne hj hb] at hv
    rw [decode_switch_of_ne hj' hb']
    exact ih ht hd hd' hv
  | @oneOf pre post t j j' hpre ht hvaries ih =>
    intro hstable hd hd' v hv
    have hpairwise := Ty.steady_of_stable hstable
    obtain ⟨w, hw⟩ := exists_of_not_refused ht
    have hfirst : decodeFirst .data (pre ++ t :: post) j = .ok w :=
      decodeFirst_of_mem hw fun a ha u hu => absurd hu ((hpre a ha).ne_ok u)
    cases hfirst.symm.trans ((decode_oneOf _ _).symm.trans hv)
    rw [decode_oneOf]
    refine decodeFirst_of_mem (ih (Ty.stable_inner hstable (by simp)) hd hd' hw) fun a ha u hu => ?_
    -- an earlier arm that reads the variation would have read the value
    have hsteady : a.steady t = true := (List.pairwise_append.1 hpairwise).2.2 a ha t List.mem_cons_self
    obtain ⟨u', hu'⟩ := hvaries.steady hd hd' ⟨v, hw⟩ a hsteady ⟨u, hu⟩
    exact absurd hu' ((hpre a ha).ne_ok u')
  | @tagged key tag arms t ms j' htag hm hvaries ih =>
    intro ht hd hd' v hv
    obtain ⟨_, _, _, ⟨⟩, htag', hm', hread⟩ := decode_tagged_eq_ok.1 hv
    cases htag.symm.trans htag'
    cases hm.symm.trans hm'
    obtain ⟨ms', rfl⟩ := hvaries.sameForm.exists_obj
    obtain ⟨b, f, hf, rfl⟩ := tellingKeys_known key (Ty.mem_tellingKeys_of_stable ht)
    have htext : ∀ held c, ¬ Idle held c (f.wire, .str tag) := fun held c hidle => by
      cases (hidle.nullOption hf (.inl rfl)).1
    exact decode_tagged_eq_ok.2 ⟨ms', tag, t, rfl, (hvaries.find?_str_iff htext rfl rfl hd.nodup hd'.nodup).1 htag, hm,
      ih (Ty.stable_inner ht (List.mem_map_of_mem (mem_of_lookup hm))) hd hd' hread⟩

/-! ## The library -/

section Library

variable {t : Ty} {d d' : Json} {v : Value}

theorem decodeData_of_varies (ht : InLibrary t) (hd : d.Distinct) (hd' : d'.Distinct) (h : Varies Idle t d d')
    (hv : decodeData t d = .ok v) : decodeData t d' = .ok v :=
  Outcome.decodeData_eq_ok.2 (h.decode_eq ht.stable hd hd' (Outcome.decodeData_eq_ok.1 hv))

/-- **Unknown keys are ignored**, at any depth and in the arms of unions: with and without them the same value is
    read. -/
theorem unknown_keys_ignored (ht : InLibrary t) (hd : d.Distinct) (hd' : d'.Distinct) (h : Varies Unknown t d d')
    (hv : decodeData t d = .ok v) : decodeData t d' = .ok v :=
  decodeData_of_varies ht hd hd' (h.mono fun _ _ _ hm => .inl hm) hv

/-- **`null` reads as absent**, at any depth and in the arms of unions: the same value is read if a field that may be
    `null` is `null` and if it is not there. -/
theorem null_reads_as_absent (ht : InLibrary t) (hd : d.Distinct) (hd' : d'.Distinct) (h : Varies NullOption t d d')
    (hv : decodeData t d = .ok v) : decodeData t d' = .ok v :=
  decodeData_of_varies ht hd hd' (h.mono fun _ _ _ hm => .inr hm) hv

end Library

/-! ## Code actions -/

/-- Objects that have the same values for what they have in common. -/
theorem Varies.of_common {idle : Bool → Class → String × Json → Prop} {t : Ty} {held : Bool} {c : Class}
    {ms ms' : List (String × Json)} (hbecomes : Becomes t ms held c) (ns : List (String × Json)) (hl : ns.Sublist ms)
    (hr : ns.Sublist ms')
    (hdropped : ∀ m ∈ ms, m.1 ∉ ns.map (·.1) → idle held c m)
    (hinserted : ∀ m ∈ ms', m.1 ∉ ns.map (·.1) → idle held c m) : Varies idle t (.obj ms) (.obj ms') := by
  have hsame : ∀ p ∈ ns.map (fun m => (m.1, m.2, m.2)), p.2.1 = p.2.2 := List.forall_mem_map.2 fun _ _ => rfl
  have hkeys : (ns.map fun m => (m.1, m.2, m.2)).map (·.1) = ns.map (·.1) := by rw [List.map_map]; rfl
  have hks : Aligned (idle held c) (ns.map fun m => (m.1, m.2, m.2)) ms ms' := by
    refine ⟨?_, ?_, hkeys ▸ hdropped, hkeys ▸ hinserted⟩
    · simpa [List.map_map, Function.comp_def] using hl
    · simpa [List.map_map, Function.comp_def] using hr
  refine .object hbecomes hks (fun p hp f _ _ => ?_) fun p hp _ => hsame p hp
  rw [hsame p hp]
  exact .same _ _

section Actions

variable {d d' : Json} {v : Value}

theorem inLibrary_codeActionOrCommand : InLibrary codeActionOrCommand := by
  have hnamed : ("CodeActionOrCommand", codeActionOrCommand) ∈ namedTypes := by simp [namedTypes]
  exact .named hnamed

/-- What is no command is read as an action, if an action reads it. -/
theorem decode_action (hcommand : Refused (.record .command) d) (h : decode .data (.record .codeAction) d = .ok v) :
    decodeData codeActionOrCommand d = .ok v := by
  rw [Outcome.decodeData_eq_ok, codeActionOrCommand, decode_oneOf]
  show decodeFirst .data ([.record .command] ++ .record .codeAction :: []) d = .ok v
  refine decodeFirst_of_mem h fun a ha w hw => ?_
  rw [List.mem_singleton.1 ha] at hw
  exact absurd hw (hcommand.ne_ok w)

/-- What varies at an action varies at the union, if it is no command. -/
theorem varies_action {idle : Bool → Class → String × Json → Prop} (hcommand : Refused (.record .command) d)
    (h : decode .data (.record .codeAction) d = .ok v) (hvaries : Varies idle (.record .codeAction) d d') :
    Varies idle codeActionOrCommand d d' := by
  have hrefused : ∀ a ∈ [Ty.record .command], Refused a d := fun a ha => List.mem_singleton.1 ha ▸ hcommand
  exact .oneOf hrefused (fun hr => hr.ne_ok v h) hvaries

end Actions

/-- An action with a command of its own is no command. It is read with a key inserted in the action and one in its
    command. -/
theorem action_with_unknown_keys :
    let ms : List (String × Json) := [("title", .str "run"), ("command", .str "go")]
    let d : Json := .obj [("title", .str "fix"), ("command", .obj ms)]
    let d' : Json := .obj [("?", .arr []), ("title", .str "fix"), ("command", .obj (ms ++ [("~", .null)]))]
    Varies Unknown codeActionOrCommand d d' ∧
      ∃ v, decodeData codeActionOrCommand d = .ok v ∧ decodeData codeActionOrCommand d' = .ok v := by
  intro ms d d'
  have hcommand : (recordOf .command).fields = command.fields := rfl
  have haction : (recordOf .codeAction).fields = codeAction.fields := rfl
  have hrefused : Refused (.record .command) d := by
    rw [refused_iff, fails_record, hcommand]
    refine ⟨required "command" .str, by simp [command, record], ?_⟩
    simp [required, decodeField, findField?, Members.find?, decode, decodeStr, Outcome.fail]
  have hread : ∃ v, decode .data (.record .codeAction) d = .ok v := by
    rw [decode_record, decodeRecord_ok_iff, haction]
    simp [ms, codeAction, command, record, required, Schema.optional, decodeField, findField?, Members.find?,
      decodeAbsent, decode, decodeStr, decodeRecord_ok_iff, hcommand]
  have hunknown : ∀ k ∈ ["?", "~"], ∀ b, ∀ f ∈ (recordOf b).fields, k ≠ f.wire ∧ k ≠ f.name := by decide +kernel
  have hinner : Varies Unknown (.optional (.record .command)) (.obj ms) (.obj (ms ++ [("~", .null)])) := by
    refine .optional (fun e => by cases e) (.of_common (.record _ _) ms (.refl _) (List.sublist_append_left _ _) ?_ ?_)
    · exact fun m hm hk => absurd (List.mem_map_of_mem hm) hk
    · intro m hm hk
      rcases List.mem_append.1 hm with hm | hm
      · exact absurd (List.mem_map_of_mem hm) hk
      · cases List.mem_singleton.1 hm
        exact ⟨by decide, by decide, hunknown _ (by simp)⟩
  have hvaries : Varies Unknown (.record .codeAction) d d' := by
    have hks : Aligned (Unknown false .codeAction) [("title", .str "fix", .str "fix"),
        ("command", .obj ms, .obj (ms ++ [("~", .null)]))] [("title", .str "fix"), ("command", .obj ms)]
        [("?", .arr []), ("title", .str "fix"), ("command", .obj (ms ++ [("~", .null)]))] :=
      ⟨.refl _, List.sublist_cons_self _ _, by simp, by simpa [Unknown] using hunknown "?" (by simp)⟩
    refine .object (.record _ _) hks ?_ ?_
    · simpa [haction, codeAction, record, required, Schema.optional, findField?, Members.find?] using
        ⟨.same _ _, hinner⟩
    · simp [haction, codeAction, record, required, Schema.optional, findField?, Members.find?]
  have hd : d.Distinct := .obj (by decide) (by simp [ms, Json.Distinct.str, Json.Distinct.obj])
  have hd' : d'.Distinct :=
    .obj (by decide) (by simp [ms, Json.Distinct.str, Json.Distinct.null, Json.Distinct.arr, Json.Distinct.obj])
  obtain ⟨v, hv⟩ := hread
  have hunion : decodeData codeActionOrCommand d = .ok v := decode_action hrefused hv
  have hall : Varies Unknown codeActionOrCommand d d' := varies_action hrefused hv hvaries
  exact ⟨hall, v, hunion, unknown_keys_ignored inLibrary_codeActionOrCommand hd hd' hall hunion⟩

/-- An action whose kind is `null` is read as one without a kind, whose data is `null`. -/
theorem action_with_nulls :
    let d : Json := .obj [("title", .str "fix"), ("kind", .null)]
    let d' : Json := .obj [("data", .null), ("title", .str "fix"), ("command", .null)]
    Varies NullOption codeActionOrCommand d d' ∧
      ∃ v, decodeData codeActionOrCommand d = .ok v ∧ decodeData codeActionOrCommand d' = .ok v := by
  intro d d'
  have hcommand : (recordOf .command).fields = command.fields := rfl
  have haction : (recordOf .codeAction).fields = codeAction.fields := rfl
  have hrefused : Refused (.record .command) d := by
    rw [refused_iff, fails_record, hcommand]
    refine ⟨required "command" .str, by simp [command, record], ?_⟩
    simp [required, decodeField, findField?, Members.find?, decodeAbsent]
  have hread : ∃ v, decode .data (.record .codeAction) d = .ok v := by
    rw [decode_record, decodeRecord_ok_iff, haction]
    simp [codeAction, record, required, Schema.optional, decodeField, findField?, Members.find?, decodeAbsent, decode,
      decodeStr]
  have hnull : ∀ k ∈ ["kind", "data", "command"],
      ∃ f ∈ (recordOf .codeAction).fields, f.ty.isOptional = true ∧ (k = f.wire ∨ k = f.name) := by decide +kernel
  have hvaries : Varies NullOption (.record .codeAction) d d' := by
    refine .of_common (.record _ _) [("title", .str "fix")] ?_ ?_ ?_ ?_
    · simp
    · simp
    · simpa [NullOption] using hnull "kind" (by simp)
    · simpa [NullOption] using ⟨hnull "data" (by simp), hnull "command" (by simp)⟩
  have hd : d.Distinct := .obj (by decide) (by simp [Json.Distinct.str, Json.Distinct.null])
  have hd' : d'.Distinct := .obj (by decide) (by simp [Json.Distinct.str, Json.Distinct.null])
  obtain ⟨v, hv⟩ := hread
  have hunion : decodeData codeActionOrCommand d = .ok v := decode_action hrefused hv
  have hall : Varies NullOption codeActionOrCommand d d' := varies_action hrefused hv hvaries
  exact ⟨hall, v, hunion, null_reads_as_absent inLibrary_codeActionOrCommand hd hd' hall hunion⟩

end LspWire
