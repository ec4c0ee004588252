import LspWire.Proofs.Rewriting
import LspWire.Proofs.SideBySide

/-!
# The order of keys

Values that differ only in the order of the members of their objects are decoded alike (`key_order_is_free`). A field is
looked up by its keys, a tag and a registration by theirs, and an arm is refused for both or for none; only a map and
what no type describes keep the order, in the value and in the issues of a map.

The messages are the same as well where no map has its keys in another order and no tag that is shown contains an
object that has (`OrderFree`). This is asked wherever decoding comes by a map or a tag with both values, in refused
arms as well (`TriedBoth`).
-/

namespace LspWire

open Schema

/-! ## Where order shows -/

/-- `TriedBoth t d d' u j j'`: decoding `d` and `d'` at `t` comes to decode `j` and `j'` at `u`, behind the same
    steps. -/
inductive TriedBoth (t : Ty) (d d' : Json) : Ty → Json → Json → Prop
  | root : TriedBoth t d d' t d d'
  | next {u u' : Ty} {j j' x x' : Json} {steps : List Step} : TriedBoth t d d' u j j' → Opens u j steps u' x →
      Opens u j' steps u' x' → TriedBoth t d d' u' x x'

/-- Wherever both values are tried as maps their keys stand in the same order, and wherever they are tried at a tagged
    union they have the same tag. -/
structure OrderFree (t : Ty) (d d' : Json) : Prop where
  map : ∀ {keys : KeyKind} {u : Ty} {ms ns : List (String × Json)},
    TriedBoth t d d' (.map keys u) (.obj ms) (.obj ns) → ms.map (·.1) = ns.map (·.1)
  tag : ∀ {key : String} {arms : List (String × Ty)} {ms ns : List (String × Json)},
    TriedBoth t d d' (.tagged key arms) (.obj ms) (.obj ns) → Members.find? key ms = Members.find? key ns

section Parts

variable {t u w : Ty} {j k x y x' y' : Json} {steps : List Step}

theorem TriedBoth.of_part (ho : Opens t j steps u x) (ho' : Opens t k steps u y) (h : TriedBoth u x y w x' y') :
    TriedBoth t j k w x' y' := by
  induction h with
  | root => exact .next .root ho ho'
  | next _ hopens hopens' ih => exact .next ih hopens hopens'

theorem OrderFree.part (h : OrderFree t j k) (ho : Opens t j steps u x) (ho' : Opens t k steps u y) :
    OrderFree u x y :=
  ⟨fun htried => h.map (.of_part ho ho' htried), fun htried => h.tag (.of_part ho ho' htried)⟩

end Parts

/-! ## Objects -/

section Objects

variable {ms ns : List (String × Json)}

/-- A field of alike objects is read from the same key, or from none. -/
theorem Json.Alike.findField? (h : (Json.obj ms).Alike (.obj ns)) (hd : (ms.map (·.1)).Nodup) (f : Field) :
    Schema.findField? f ms = none ∧ Schema.findField? f ns = none ∨ ∃ k x y, Schema.findField? f ms = some (k, x) ∧
      Schema.findField? f ns = some (k, y) ∧ x.Alike y := by
  unfold Schema.findField?
  rcases h.find? hd f.wire with ⟨hm, hn⟩ | ⟨x, y, hm, hn, hxy⟩
  · rw [hm, hn]
    rcases h.find? hd f.name with ⟨hm', hn'⟩ | ⟨x, y, hm', hn', hxy⟩
    · rw [hm', hn']
      exact .inl ⟨rfl, rfl⟩
    · rw [hm', hn']
      exact .inr ⟨f.name, x, y, rfl, rfl, hxy⟩
  · rw [hm, hn]
    exact .inr ⟨f.wire, x, y, rfl, rfl, hxy⟩

theorem Json.Alike.keptMembers (h : (Json.obj ms).Alike (.obj ns)) (hd : (Json.obj ms).Distinct)
    (hd' : (Json.obj ns).Distinct) (c : Class) :
    (Json.obj (Schema.keptMembers c ms)).Alike (.obj (Schema.keptMembers c ns)) := by
  rw [keptMembers_eq_besides hd, keptMembers_eq_besides hd', besides, besides]
  split
  · exact h.filter fun k => (recordOf c).fields.all fun f => k != f.wire && k != f.name
  · exact .eq _

theorem Json.Alike.isRegistration_eq (h : (Json.obj ms).Alike (.obj ns)) :
    isRegistration ms = isRegistration ns := by
  have hkeys : ∀ ms : List (String × Json), (∃ m ∈ ms, m.1 ∈ registrationKeys) ↔
      ∃ k ∈ ms.map (·.1), k ∈ registrationKeys := by simp
  rw [Bool.eq_iff_iff, isRegistration_iff, isRegistration_iff, hkeys, hkeys]
  simp only [h.keys_perm.mem_iff]

end Objects

/-! ## Alike values are decoded alike -/

theorem decode_scalar_of_alike {source : Source} {t : Ty} (ht : t.isScalar = true) {j k : Json} (h : j.Alike k) :
    decode source t j = decode source t k := by
  cases h.sameForm with
  | eq => rfl
  | arr | obj =>
    cases t with
    | null | bool | integer | bounded | float | str | uri | intEnum | openEnum | closedEnum | watchKind | literal =>
      rw [decode, decode]
      rfl
    | _ => cases ht

/-- A tag that is no text names no arm, and is shown. -/
theorem decode_untagged {source : Source} {key : String} {arms : List (String × Ty)} {ms : List (String × Json)}
    {x : Json} (hm : Members.find? key ms = some x) (hx : ∀ s, x ≠ .str s) :
    decode source (.tagged key arms) (.obj ms) = Outcome.fail (.tagUnknown key x.merged (arms.map (·.1))) := by
  rw [decode, hm]
  cases x with
  | str s => exact absurd rfl (hx s)
  | _ => rfl

/-- What both values are read by, at the same steps, is decoded alike. -/
def PartsAlike (t : Ty) (j k : Json) : Prop := ∀ {u : Ty} {x y : Json} {steps : List Step}, Opens t j steps u x →
  Opens t k steps u y → x.Alike y → Outcome.Alike (OrderFree t j k) Value.Alike (decode .data u x) (decode .data u y)

/-- Values of a type are decoded alike. -/
def DecodedAlike (t : Ty) (j k : Json) : Prop :=
  Outcome.Alike (OrderFree t j k) Value.Alike (decode .data t j) (decode .data t k)

theorem alike_list {t : Ty} {xs ys : List Json} (h : (Json.arr xs).Alike (.arr ys))
    (hparts : PartsAlike (.list t) (.arr xs) (.arr ys)) : DecodedAlike (.list t) (.arr xs) (.arr ys) := by
  obtain ⟨ps, rfl, rfl, hps⟩ := h.items
  rw [DecodedAlike, decode, decode]
  refine (decodeItems_alike ps 0 fun p hp => ?_).map ?_
  · obtain ⟨i, hi⟩ := List.getElem?_of_mem hp
    refine hparts (.element (i := i) ?_) (.element ?_) (hps p hp)
    · rw [List.getElem?_map, hi]; rfl
    · rw [List.getElem?_map, hi]; rfl
  · rintro _ _ ⟨qs, rfl, rfl, hqs⟩
    exact .list hqs

theorem alike_pair {a b : Ty} {xs ys : List Json} (h : (Json.arr xs).Alike (.arr ys))
    (hparts : PartsAlike (.pair a b) (.arr xs) (.arr ys)) : DecodedAlike (.pair a b) (.arr xs) (.arr ys) := by
  obtain ⟨ps, rfl, rfl, hps⟩ := h.items
  unfold DecodedAlike
  match ps with
  | [] => exact .refl .eq _
  | [p] =>
    have hopens : ∀ x : Json, Opens (.pair a b) (.arr [x]) [.index 0] a x := fun x => .first (by simp)
    have hfirst := hparts (hopens _) (hopens _) (hps p (by simp))
    simp only [List.map_cons, List.map_nil, decode]
    exact ((hfirst.within _).both (.refl .eq _)).map fun x y hxy => .pair hxy.1 hxy.2
  | [p, q] =>
    have hfirst := hparts (.first (by simp)) (.first (by simp)) (hps p (by simp))
    have hsecond := hparts .second .second (hps q (by simp))
    simp only [List.map_cons, List.map_nil, decode]
    exact ((hfirst.within _).both (hsecond.within _)).map fun x y hxy => .pair hxy.1 hxy.2
  | p :: q :: r :: ps =>
    simp only [List.map_cons, decode]
    exact .fail rfl fun _ => by simp

theorem alike_map {keys : KeyKind} {t : Ty} {ms ns : List (String × Json)} (h : (Json.obj ms).Alike (.obj ns))
    (hd : (ns.map (·.1)).Nodup) (hparts : PartsAlike (.map keys t) (.obj ms) (.obj ns)) :
    DecodedAlike (.map keys t) (.obj ms) (.obj ns) := by
  obtain ⟨ps, hperm, rfl, hps⟩ := h.entries
  have hkeys : ∀ g : Json × Json → Json, (ps.map fun p => (p.1, g p.2)).map (·.1) = ps.map (·.1) := fun g => by
    rw [List.map_map]
    rfl
  rw [hkeys] at hd
  rw [DecodedAlike, decode, decode]
  -- the members are first brought into the order of the second object, then decoded in pairs
  have hsame : OrderFree (.map keys t) (.obj ms) (.obj (ps.map fun p => (p.1, p.2.2))) →
      ms = ps.map fun p => (p.1, p.2.1) := fun he =>
    Members.eq_of_perm hperm ((he.map .root).trans ((hkeys _).trans (hkeys _).symm)) (by rwa [hkeys])
  refine ((decodeEntries_perm hperm hsame).trans (decodeEntries_alike ps fun p hp => ?_)).map ?_
  · have hm : (p.1, p.2.1) ∈ ms := hperm.mem_iff.2 (List.mem_map.2 ⟨p, hp, rfl⟩)
    exact hparts (.entry hm) (.entry (List.mem_map.2 ⟨p, hp, rfl⟩)) (hps p hp)
  · rintro es _ ⟨_, hes, qs, rfl, rfl, hqs, hqkeys⟩
    have hdistinct : ∀ g : Value × Value → Value, ((qs.map fun q => (q.1, g q.2)).map (·.1)).Nodup := fun g => by
      rw [List.map_map]
      exact hqkeys ▸ hd
    rw [Members.merge_of_nodup ((hes.map _).nodup_iff.2 (hdistinct Prod.fst)),
      Members.merge_of_nodup (hdistinct Prod.snd)]
    exact .map hes hqs

theorem alike_record {c : Class} {ms ns : List (String × Json)} (h : (Json.obj ms).Alike (.obj ns))
    (hd : (Json.obj ms).Distinct) (hd' : (Json.obj ns).Distinct)
    (hparts : PartsAlike (.record c) (.obj ms) (.obj ns)) : DecodedAlike (.record c) (.obj ms) (.obj ns) := by
  rw [DecodedAlike, decode_record, decode_record, decodeRecord, decodeRecord]
  refine (decodeFields_alike _ fun f hf => ?_).map ?_
  · rcases h.findField? hd.nodup f with hnone | ⟨key, x, y, hm, hn, hxy⟩
    · exact .inl hnone
    · exact .inr ⟨key, x, y, hm, hn, hparts (.field hf hm) (.field hf hn) hxy⟩
  · rintro _ _ ⟨qs, rfl, rfl, hqs, -⟩
    exact .record hqs (h.keptMembers hd hd' c)

theorem alike_tagged {key : String} {arms : List (String × Ty)} {ms ns : List (String × Json)}
    (h : (Json.obj ms).Alike (.obj ns)) (hd : (ms.map (·.1)).Nodup)
    (hparts : PartsAlike (.tagged key arms) (.obj ms) (.obj ns)) :
    DecodedAlike (.tagged key arms) (.obj ms) (.obj ns) := by
  unfold DecodedAlike
  rcases h.find? hd key with ⟨hm, hn⟩ | ⟨x, y, hm, hn, hxy⟩
  · simp only [decode, hm, hn]
    exact .fail rfl fun _ => rfl
  by_cases hs : ∃ s, x = .str s
  · obtain ⟨s, hs⟩ := hs
    rw [hs] at hm
    rw [(hxy.sameForm.eq_str_iff s).1 hs] at hn
    simp only [decode, hm, hn]
    exact decodeTagged_alike fun t ht => hparts (.tagged hm ht) (.tagged hn ht) h
  · have hx : ∀ s, x ≠ .str s := fun s e => hs ⟨s, e⟩
    have hy : ∀ s, y ≠ .str s := fun s => mt (hxy.sameForm.eq_str_iff s).2 (hx s)
    rw [decode_untagged hm hx, decode_untagged hn hy]
    refine .fail rfl fun he => ?_
    have htag := he.tag .root
    rw [hm, hn] at htag
    rw [Option.some.inj htag]

theorem alike_provider {b : Bool} {p r : Class} {ms ns : List (String × Json)} (h : (Json.obj ms).Alike (.obj ns))
    (hparts : PartsAlike (.provider b p r) (.obj ms) (.obj ns)) :
    DecodedAlike (.provider b p r) (.obj ms) (.obj ns) := by
  have hns := h.isRegistration_eq
  rw [DecodedAlike, decode, decode, ← hns, ← decode_record, ← decode_record, ← decode_record, ← decode_record]
  cases hr : isRegistration ms with
  | true => exact (hparts (.registered hr) (.registered (hns ▸ hr)) h).within _
  | false => exact (hparts (.plain hr) (.plain (hns ▸ hr)) h).within _

/-- Alike values are decoded alike if what they are read by is. -/
theorem alike_of_parts (t : Ty) {j k : Json} (h : j.Alike k) (hd : j.Distinct) (hd' : k.Distinct)
    (hparts : PartsAlike t j k) : DecodedAlike t j k := by
  cases t with
  | any =>
    rw [DecodedAlike, decode, decode, hd.merged_eq, hd'.merged_eq]
    exact .ok (.untyped h)
  | null | bool | integer | bounded | float | str | uri | intEnum | openEnum | closedEnum | watchKind | literal =>
    rw [DecodedAlike, decode_scalar_of_alike rfl h]
    exact .refl .eq _
  | list t =>
    cases h.sameForm with
    | eq => exact .refl .eq _
    | obj => simp only [DecodedAlike, decode]; exact .fail rfl fun _ => rfl
    | arr => exact alike_list h hparts
  | pair a b =>
    cases h.sameForm with
    | eq => exact .refl .eq _
    | obj => simp only [DecodedAlike, decode]; exact .fail rfl fun _ => rfl
    | arr => exact alike_pair h hparts
  | map keys t =>
    cases h.sameForm with
    | eq => exact .refl .eq _
    | arr => simp only [DecodedAlike, decode]; exact .fail rfl fun _ => rfl
    | obj => exact alike_map h hd'.nodup hparts
  | record c =>
    cases h.sameForm with
    | eq => exact .refl .eq _
    | arr => simp only [DecodedAlike, decode, decodeRecord]; exact .fail rfl fun _ => rfl
    | obj => exact alike_record h hd hd' hparts
  | optional t =>
    by_cases hj : j = .null
    · rw [hj, h.sameForm.eq_null_iff.1 hj]
      exact .refl .eq _
    · have hk : k ≠ .null := mt h.sameForm.eq_null_iff.2 hj
      rw [DecodedAlike, decode_optional_of_ne hj, decode_optional_of_ne hk]
      exact hparts (.optional hj) (.optional hk) h
  | oneOf arms =>
    rw [DecodedAlike, decode_oneOf, decode_oneOf]
    refine decodeFirst_alike fun pre t post harms hpre => ?_
    subst harms
    exact hparts (.arm fun s hs => refused_iff.2 (hpre s hs).1) (.arm fun s hs => refused_iff.2 (hpre s hs).2) h
  | tagged key arms =>
    cases h.sameForm with
    | eq => exact .refl .eq _
    | arr => simp only [DecodedAlike, decode]; exact .fail rfl fun _ => rfl
    | obj => exact alike_tagged h hd.nodup hparts
  | provider b p r =>
    cases h.sameForm with
    | eq => exact .refl .eq _
    | arr =>
      rw [DecodedAlike, decode_provider_of_ne (fun ms e => by cases e), decode_provider_of_ne (fun ms e => by cases e),
        decode_scalar_of_alike rfl h]
      exact .refl .eq _
    | obj => exact alike_provider h hparts
  | switch on t =>
    by_cases hj : j = .null
    · rw [hj, h.sameForm.eq_null_iff.1 hj]
      exact .refl .eq _
    by_cases hb : ∃ b, j = .bool b
    · obtain ⟨b, hb⟩ := hb
      rw [hb, (h.sameForm.eq_bool_iff b).1 hb]
      exact .refl .eq _
    · have hb : ∀ b, j ≠ .bool b := fun b e => hb ⟨b, e⟩
      have hk : k ≠ .null := mt h.sameForm.eq_null_iff.2 hj
      have hb' : ∀ b, k ≠ .bool b := fun b => mt (h.sameForm.eq_bool_iff b).2 (hb b)
      rw [DecodedAlike, decode_switch_of_ne hj hb, decode_switch_of_ne hk hb']
      exact hparts (.switch hj hb) (.switch hk hb') h

/-- **Alike values are decoded alike.** -/
theorem decode_alike (t : Ty) {j k : Json} (h : j.Alike k) (hd : j.Distinct) (hd' : k.Distinct) : DecodedAlike t j k :=
  alike_of_parts t h hd hd' fun ho ho' hxy =>
    (decode_alike _ hxy (ho.distinct hd) (ho'.distinct hd')).mono (fun he => he.part ho ho') fun _ _ => id
termination_by (sizeOf j, sizeOf t)
decreasing_by exact ho.smaller

/-! ## Paths -/

/-- An element of alike arrays is alike, or out of bounds in both. -/
theorem Json.Alike.elementAt? {xs ys : List Json} (h : (Json.arr xs).Alike (.arr ys)) (i : Int) :
    LspWire.elementAt? xs i = none ∧ LspWire.elementAt? ys i = none ∨ ∃ x ∈ xs, ∃ y ∈ ys,
      LspWire.elementAt? xs i = some x ∧ LspWire.elementAt? ys i = some y ∧ x.Alike y := by
  obtain ⟨ps, rfl, rfl, hps⟩ := h.items
  simp only [LspWire.elementAt?, List.getElem?_map]
  split
  · cases hp : ps[i.toNat]? with
    | none => exact .inl ⟨rfl, rfl⟩
    | some p =>
      have hmem := List.mem_of_getElem? hp
      exact .inr ⟨p.1, List.mem_map_of_mem hmem, p.2, List.mem_map_of_mem hmem, rfl, rfl, hps p hmem⟩
  · exact .inl ⟨rfl, rfl⟩

/-- A path keeps the same steps of a location in alike values. -/
theorem keptSteps_alike : ∀ (ss : List Step) {j k : Json}, j.Alike k → j.Distinct → k.Distinct →
    keptSteps (some j) ss = keptSteps (some k) ss
  | [], _, _, _, _, _ => by rw [keptSteps, keptSteps]
  | s :: ss, j, k, h, hd, hd' => by
    cases h.sameForm with
    | eq => rfl
    | arr xs ys =>
      cases hs : s.name? with
      | some name =>
        simp only [keptSteps, hs]
        exact keptSteps_alike ss h hd hd'
      | none =>
        cases s with
        | index i =>
          rcases h.elementAt? i with ⟨hx, hy⟩ | ⟨x, hx, y, hy, hxi, hyi, hxy⟩
          · simp only [keptSteps, Step.name?, hx, hy]
          · simp only [keptSteps, Step.name?, hxi, hyi]
            rw [keptSteps_alike ss hxy (hd.item hx) (hd'.item hy)]
        | key | arm | mapKey => cases hs
    | obj ms ns =>
      cases hs : s.name? with
      | none => simp only [keptSteps, hs]
      | some name =>
        rcases h.find? hd.nodup name with ⟨hm, hn⟩ | ⟨x, y, hm, hn, hxy⟩
        · simp only [keptSteps, hs, hm, hn]
          rw [keptSteps_alike ss h hd hd']
        · simp only [keptSteps, hs, hm, hn]
          rw [keptSteps_alike ss hxy (hd.member (Members.mem_of_find? hm)) (hd'.member (Members.mem_of_find? hn))]

/-! ## Reports -/

section Reports

variable {t : Ty} {d d' : Json}

/-- What is reported is known by the sites of the issues, but for the messages. -/
theorem sites_of_reports (d : Json) (is : List Issue) :
    ((is.map (Issue.report .data (some d))).map fun r => (r.kind, r.path)) =
      (is.map Issue.site).map fun q => (q.1, path (some d) q.2) := by
  rw [List.map_map, List.map_map]
  rfl

/-- **The order of keys is free.** Values that differ in it alone are both read, or both refused. What is read has the
    same classes and fields, and what is reported has the same kinds and paths up to order; the reports are the same if
    no order shows in them. -/
theorem key_order_is_free (h : d.Alike d') (hd : d.Distinct) (hd' : d'.Distinct) :
    ((∃ v, decodeData t d = .ok v) ↔ ∃ v, decodeData t d' = .ok v) ∧
    (∀ {v v' : Value}, decodeData t d = .ok v → decodeData t d' = .ok v' → v.Alike v') ∧
    ∀ {rs rs' : List Report}, decodeData t d = .error rs → decodeData t d' = .error rs' →
      (rs.map fun r => (r.kind, r.path)).Perm (rs'.map fun r => (r.kind, r.path)) ∧
        (OrderFree t d d' → rs = rs') := by
  have halike : DecodedAlike t d d' := decode_alike t h hd hd'
  have hpath : path (some d) = path (some d') := funext fun ss => by rw [path, path, keptSteps_alike ss h hd hd']
  unfold DecodedAlike at halike
  unfold decodeData
  generalize decode .data t d = o at halike ⊢
  generalize decode .data t d' = p at halike ⊢
  cases halike with
  | ok hvw =>
    refine ⟨iff_of_true ⟨_, rfl⟩ ⟨_, rfl⟩, ?_, fun he => by cases he⟩
    rintro v v' ⟨⟩ ⟨⟩
    exact hvw
  | @error is is' hperm hsame =>
    have hnone : ∀ is : List Report, ¬ ∃ v : Value, (Except.error is : Except (List Report) Value) = .ok v := by
      rintro is ⟨v, ⟨⟩⟩
    refine ⟨iff_of_false (hnone _) (hnone _), (fun he => by cases he), ?_⟩
    rintro rs rs' ⟨⟩ ⟨⟩
    constructor
    · rw [sites_of_reports, sites_of_reports, hpath]
      exact hperm.map _
    · intro he
      rw [hsame he]
      apply List.map_congr_left
      intro i _
      rw [Issue.report, Issue.report, hpath]

end Reports

/-- What is wrong with a position is reported in field order, in whichever order it writes its keys. -/
theorem position_reported_in_field_order :
    let d : Json := .obj [("line", .int (-1)), ("character", .str "0")]
    let d' : Json := .obj [("character", .str "0"), ("line", .int (-1))]
    let rs : List Report := [⟨.invalidPrimitive, "$.line", "Input should be greater than or equal to 0"⟩,
      ⟨.structural, "$.character", "Input should be a valid integer"⟩]
    d.Alike d' ∧ OrderFree (.record .position) d d' ∧ decodeData (.record .position) d = .error rs ∧
      decodeData (.record .position) d' = .error rs := by
  intro d d' rs
  have hf : (recordOf .position).fields = [required "line" .uint32, required "character" .uint32] := rfl
  have halike : d.Alike d' := .of_perm (.swap _ _ _)
  have htried : ∀ {u j k}, TriedBoth (.record .position) d d' u j k → u = .record .position ∨ u = .uint32 := by
    intro u j k h
    induction h with
    | root => exact .inl rfl
    | next _ hopens _ ih =>
      rcases ih with rfl | rfl
      · cases hopens with
        | field hmem _ =>
          rw [hf] at hmem
          rcases List.mem_cons.1 hmem with rfl | hmem
          · exact .inr rfl
          · exact .inr (List.mem_singleton.1 hmem ▸ rfl)
      · cases hopens
  have horder : OrderFree (.record .position) d d' := by
    constructor
    · intro keys u ms ns h
      rcases htried h with h | h <;> cases h
    · intro key arms ms ns h
      rcases htried h with h | h <;> cases h
  have hread : decodeData (.record .position) d = .error rs := by
    have hissues : decode .data (.record .position) d =
        .error [⟨.below 0, [.key "line"]⟩, ⟨.expected .integer, [.key "character"]⟩] := by
      simp [d, decode, decodeRecord, decodeFields, hf, required, findField?, Members.find?, Ty.uint32, decodeBounded,
        Outcome.fail, Outcome.both, Outcome.map, Outcome.within, Issue.within]
    rw [decodeData, hissues]
    rfl
  have hd : d.Distinct := .obj (by decide) (by simp [Json.Distinct.int, Json.Distinct.str])
  have hd' : d'.Distinct := .obj (by decide) (by simp [Json.Distinct.int, Json.Distinct.str])
  obtain ⟨hiff, -, hreports⟩ := key_order_is_free (t := .record .position) halike hd hd'
  refine ⟨halike, horder, hread, ?_⟩
  cases hread' : decodeData (.record .position) d' with
  | ok v =>
    obtain ⟨w, hw⟩ := hiff.2 ⟨v, hread'⟩
    rw [hread] at hw
    cases hw
  | error rs' => rw [(hreports hread hread').2 horder]

end LspWire
