import LspWire.Proofs.Addressing
import LspWire.Proofs.Unions

/-!
# Tagged unions are told by their tags alone

A tagged union reads an object at the type that a text member names, and the entries of an index at the type that two
name, one after the other. What it reads and what it reports is what the named class reads and reports
(`tags_dispatch`): a tag is put in front of each location, and a path drops it again, as the issues of a record all lie
at a member. An object whose tags name no class has one problem.
-/

namespace LspWire

open Schema Outcome

/-! ## Tags and the classes that they name -/

/-- `t.Names tags c`: the tags, each with its key, lead from the type to the class, the outermost first. -/
inductive Ty.Names : Ty → List (String × String) → Class → Prop
  | record (c : Class) : Names (.record c) [] c
  | tagged {key tag : String} {arms : List (String × Ty)} {t : Ty} {tags : List (String × String)} {c : Class} :
      arms.lookup tag = some t → Names t tags c → Names (.tagged key arms) ((key, tag) :: tags) c

/-- Whether an object has the tags under their keys. -/
def Carries (ms : List (String × Json)) (tags : List (String × String)) : Prop :=
  ∀ p ∈ tags, Members.find? p.1 ms = some (.str p.2)

/-- Whether no key of an object is one of the tags. -/
def KeysApart (ms : List (String × Json)) (tags : List (String × String)) : Prop :=
  ∀ p ∈ tags, ∀ m ∈ ms, m.1 ≠ p.2

section Reading

variable {source : Source}

theorem decodeTagged_eq (key tag : String) (known : List String) (j : Json) (arms : List (String × Ty)) :
    decodeTagged source key tag known arms j =
      match arms.lookup tag with
      | some t => (decode source t j).within (.arm tag)
      | none => fail (.tagUnknown key (.str tag) known) := by
  induction arms with
  | nil => rw [decodeTagged, List.lookup_nil]
  | cons arm arms ih =>
    obtain ⟨name, t⟩ := arm
    rw [decodeTagged, List.lookup_cons]
    by_cases h : name = tag
    · simp [h]
    · rw [if_neg h, beq_eq_false_iff_ne.2 (Ne.symm h), ih]

theorem decode_tagged_of_lookup {key tag : String} {arms : List (String × Ty)} {t : Ty} {ms : List (String × Json)}
    (htag : Members.find? key ms = some (.str tag)) (ht : arms.lookup tag = some t) :
    decode source (.tagged key arms) (.obj ms) = (decode source t (.obj ms)).within (.arm tag) := by
  rw [decode, htag]
  simp only [decodeTagged_eq, ht]

/-- An outcome as seen from outside of unions with these tags. -/
def Outcome.behind (tags : List (String × String)) (o : Outcome Value) : Outcome Value :=
  tags.foldr (fun p o => o.within (.arm p.2)) o

/-- A union reads what the class that is named reads. -/
theorem Ty.Names.decode_eq {t : Ty} {tags : List (String × String)} {c : Class} {ms : List (String × Json)}
    (h : t.Names tags c) (hms : Carries ms tags) :
    decode source t (.obj ms) = (decode source (.record c) (.obj ms)).behind tags := by
  induction h with
  | record c => rfl
  | tagged ht _ ih =>
    obtain ⟨htag, hms⟩ := List.forall_mem_cons.1 hms
    rw [decode_tagged_of_lookup htag ht, ih hms]
    rfl

theorem behind_eq_ok {tags : List (String × String)} {o : Outcome Value} {v : Value} :
    o.behind tags = .ok v ↔ o = .ok v := by
  induction tags with
  | nil => rfl
  | cons p tags ih => exact within_eq_ok.trans ih

theorem behind_error (tags : List (String × String)) (is : List Issue) : Outcome.behind tags (.error is) =
    .error (is.map fun i => ⟨i.cause, tags.map (fun p => .arm p.2) ++ i.location⟩) := by
  induction tags with
  | nil => exact congrArg Except.error (List.map_id is).symm
  | cons p tags ih =>
    show Outcome.within _ (Outcome.behind tags (.error is)) = _
    rw [ih, Outcome.within, List.map_map]
    rfl

/-- The issues of a record lie at its members. -/
theorem location_ne_nil_of_record {c : Class} {ms : List (String × Json)} {i : Issue}
    (h : i ∈ (decode source (.record c) (.obj ms)).issues) : i.location ≠ [] := by
  rw [issues_record] at h
  obtain ⟨f, -, h⟩ := List.mem_flatMap.1 h
  unfold fieldIssues at h
  split at h
  · obtain ⟨i', -, rfl⟩ := List.mem_map.1 h
    exact List.cons_ne_nil _ _
  · split at h
    · rw [List.mem_singleton.1 h]
      exact List.cons_ne_nil _ _
    · exact absurd h List.not_mem_nil

end Reading

/-! ## Reports -/

/-- A path drops tags that are no keys of the object that they stand at, unless they are its end. -/
theorem keptSteps_tags {ms : List (String × Json)} {tags : List (String × String)} (h : KeysApart ms tags)
    {ss : List Step} (hss : ss ≠ []) :
    keptSteps (some (.obj ms)) (tags.map (fun p => .arm p.2) ++ ss) = keptSteps (some (.obj ms)) ss := by
  induction tags with
  | nil => rfl
  | cons p tags ih =>
    obtain ⟨hp, htags⟩ := List.forall_mem_cons.1 h
    have hend : (tags.map (fun p => Step.arm p.2) ++ ss).isEmpty = false := by
      rw [List.isEmpty_eq_false_iff]
      exact List.append_ne_nil_of_right_ne_nil _ hss
    rw [List.map_cons, List.cons_append, keptSteps_label_obj rfl (Members.find?_eq_none.2 hp), hend,
      if_neg Bool.false_ne_true, ih htags]

/-- What is reported behind tags is what is reported without them. -/
theorem mapError_behind {source : Source} {ms : List (String × Json)} {tags : List (String × String)}
    (h : KeysApart ms tags) {o : Outcome Value} (ho : ∀ i ∈ o.issues, i.location ≠ []) :
    (o.behind tags).mapError (fun is => is.map (Issue.report source (some (.obj ms)))) =
      o.mapError fun is => is.map (Issue.report source (some (.obj ms))) := by
  cases o with
  | ok v => rw [behind_eq_ok.2 rfl]
  | error is =>
    rw [behind_error]
    show Except.error (List.map _ (List.map _ is)) = Except.error (List.map _ is)
    rw [List.map_map]
    congr 1
    apply List.map_congr_left
    intro i hi
    simp only [Function.comp, Issue.report, path, keptSteps_tags h (ho i hi)]

theorem keysApart_merged {ms : List (String × Json)} {tags : List (String × String)} (h : KeysApart ms tags) :
    KeysApart (Members.merge (Json.mergedMembers ms)) tags := by
  intro p hp
  rw [← Members.find?_eq_none, Members.find?_merge, Json.find?_mergedMembers, Members.find?_eq_none.2 (h p hp),
    Option.map_none]

section Named

variable {t : Ty} {tags : List (String × String)} {c : Class} {ms : List (String × Json)}

theorem Ty.Names.decodeData_eq (h : t.Names tags c) (hms : Carries ms tags) (hkeys : KeysApart ms tags) :
    decodeData t (.obj ms) = decodeData (.record c) (.obj ms) := by
  rw [decodeData, decodeData, h.decode_eq hms]
  exact mapError_behind hkeys fun i hi => location_ne_nil_of_record hi

theorem Ty.Names.decodeParsed_eq (h : t.Names tags c) (hms : Carries ms tags) (hkeys : KeysApart ms tags) :
    decodeParsed t (some (.obj ms)) = decodeParsed (.record c) (some (.obj ms)) := by
  rw [decodeParsed, decodeParsed, h.decode_eq hms, Json.merged]
  exact mapError_behind (keysApart_merged hkeys) fun i hi => location_ne_nil_of_record hi

end Named

/-! ## Objects without a class -/

/-- Whether data is an object whose tags name a class. -/
def Ty.Tells (t : Ty) (d : Json) : Prop := ∃ tags c ms, d = .obj ms ∧ t.Names tags c ∧ Carries ms tags

section Untold

variable (source : Source)

/-- The tag of an object names a type, or it is the one problem. -/
theorem decode_tagged_cases (key : String) (arms : List (String × Ty)) (ms : List (String × Json)) :
    (∃ tag t, Members.find? key ms = some (.str tag) ∧ arms.lookup tag = some t) ∨
    ∃ c : Cause, decode source (.tagged key arms) (.obj ms) = fail c ∧ c.kind = .discriminatorMismatch := by
  rw [decode]
  split
  · exact .inr ⟨.tagAbsent key, rfl, rfl⟩
  · next tag htag =>
    cases ht : arms.lookup tag with
    | some t => exact .inl ⟨tag, t, htag, ht⟩
    | none => exact .inr ⟨.tagUnknown key (.str tag) (arms.map (·.1)), by simp only [decodeTagged_eq, ht], rfl⟩
  · exact .inr ⟨_, rfl, rfl⟩

theorem decode_object_of_ne {t : Ty} {d : Json} (hobject : t.isObject = true) (hd : ∀ ms, d ≠ .obj ms) :
    ∃ c : Cause, decode source t d = fail c := by
  cases t with
  | record c => exact ⟨_, by rw [decode_record, decodeRecord]; exact hd⟩
  | tagged key arms => exact ⟨_, by rw [decode]; exact hd⟩
  | _ => cases hobject

/-- What names no class has one problem, and it is the tag if there is an object. -/
theorem decode_of_not_tells (t : Ty) (d : Json) (hobject : t.isObject = true) (hregular : t.regular = true)
    (hd : ¬ t.Tells d) : ∃ i : Issue, decode source t d = .error [i] ∧
      ((∃ ms, d = .obj ms) → i.cause.kind = .discriminatorMismatch) := by
  by_cases hobj : ∃ ms, d = .obj ms
  · obtain ⟨ms, rfl⟩ := hobj
    cases t with
    | record c => exact absurd ⟨[], c, ms, rfl, .record c, List.forall_mem_nil _⟩ hd
    | tagged key arms =>
      rcases decode_tagged_cases source key arms ms with ⟨tag, u, htag, hu⟩ | ⟨c, hc, hkind⟩
      · have hlt := sizeOf_lt_arms hu
        -- tags that name a class from the inner type on do so from the outer one, with this tag in front
        have hinner : ¬ u.Tells (.obj ms) := by
          rintro ⟨tags, c, ms', hms', hc, hms⟩
          cases hms'
          exact hd ⟨(key, tag) :: tags, c, ms, rfl, .tagged hu hc, List.forall_mem_cons.2 ⟨htag, hms⟩⟩
        obtain ⟨hobject, hregular⟩ := (Ty.regular_tagged hregular).2 _ (mem_of_lookup hu)
        obtain ⟨i, hi, hkind⟩ := decode_of_not_tells u (.obj ms) hobject hregular hinner
        exact ⟨i.within (.arm tag), by rw [decode_tagged_of_lookup htag hu, hi]; rfl, hkind⟩
      · exact ⟨⟨c, []⟩, hc, fun _ => hkind⟩
    | _ => cases hobject
  · have hne : ∀ ms, d ≠ .obj ms := fun ms e => hobj ⟨ms, e⟩
    obtain ⟨c, hc⟩ := decode_object_of_ne source hobject hne
    exact ⟨⟨c, []⟩, hc, fun h => absurd h hobj⟩
termination_by sizeOf t
decreasing_by
  subst_vars
  simp only [Ty.tagged.sizeOf_spec]
  omega

end Untold

/-! ## The tagged unions of the library -/

/-- **A tagged union is told by its tags alone.** An object whose tags name a class is read at the union as at the class,
    in data and in a text, and it is reported alike if no tag is a key of the object as well; anything else has one
    problem. -/
theorem tags_dispatch {key : String} {arms : List (String × Ty)} (hu : Declared (.tagged key arms)) :
    (∀ tags c ms, (Ty.tagged key arms).Names tags c → Carries ms tags →
      (∀ v, decodeData (.tagged key arms) (.obj ms) = .ok v ↔ decodeData (.record c) (.obj ms) = .ok v) ∧
      (KeysApart ms tags →
        decodeData (.tagged key arms) (.obj ms) = decodeData (.record c) (.obj ms) ∧
        decodeParsed (.tagged key arms) (some (.obj ms)) = decodeParsed (.record c) (some (.obj ms)))) ∧
    ∀ d, ¬ (Ty.tagged key arms).Tells d → ∃ r, decodeData (.tagged key arms) d = .error [r] ∧
      ((∃ ms, d = .obj ms) → r.kind = .discriminatorMismatch) := by
  refine ⟨fun tags c ms hc hms => ⟨fun v => ?_, fun hkeys => ?_⟩, fun d hd => ?_⟩
  · rw [decodeData_eq_ok, decodeData_eq_ok, hc.decode_eq hms, behind_eq_ok]
  · exact ⟨hc.decodeData_eq hms hkeys, hc.decodeParsed_eq hms hkeys⟩
  · obtain ⟨i, hi, hkind⟩ := decode_of_not_tells .data _ d rfl hu.regular hd
    exact ⟨i.report .data (some d), by rw [decodeData, hi]; rfl, hkind⟩

/-- Both a vertex and an edge may be labelled `moniker`: the `type` tells which fields are missing, and a third type
    names no class. -/
theorem moniker_told_by_type :
    let d (type : String) : Json := .obj [("id", .int 1), ("type", .str type), ("label", .str "moniker")]
    decodeData entry (d "vertex") = decodeData (.record .monikerVertex) (d "vertex") ∧
    decodeData entry (d "edge") =
      .error [⟨.missingField, "$.inV", "Field required"⟩, ⟨.missingField, "$.outV", "Field required"⟩] ∧
    ∃ r, decodeData entry (d "node") = .error [r] := by
  intro d
  have hnamed : ("Entry", entry) ∈ namedTypes := by simp [namedTypes]
  have hvertex : entry.Names [("type", "vertex"), ("label", "moniker")] .monikerVertex :=
    .tagged rfl (.tagged rfl (.record _))
  have hedge : entry.Names [("type", "edge"), ("label", "moniker")] .monikerEdge :=
    .tagged rfl (.tagged rfl (.record _))
  have hcarries : ∀ type, Carries [("id", .int 1), ("type", .str type), ("label", .str "moniker")]
      [("type", type), ("label", "moniker")] := by
    intro type
    simp [Carries, Members.find?]
  have hmissing : decodeData (.record .monikerEdge) (d "edge") =
      .error [⟨.missingField, "$.inV", "Field required"⟩, ⟨.missingField, "$.outV", "Field required"⟩] := by
    have hfields : (recordOf .monikerEdge).fields = [required "inV" .numberOrString, required "outV" .numberOrString,
        required "id" .numberOrString, tag "type" "edge", tag "label" "moniker"] := rfl
    have hissues : decode .data (.record .monikerEdge) (d "edge") =
        .error [⟨.missing, [.key "inV"]⟩, ⟨.missing, [.key "outV"]⟩] := by
      simp [d, decode, decodeRecord, decodeFields, hfields, required, tag, findField?, Members.find?, decodeFirst,
        decodeAbsent, decodeBounded, decodeLiteral, Ty.numberOrString, Ty.int32, int32Min, int32Max, Outcome.both,
        Outcome.map, Outcome.within]
    rw [decodeData, hissues]
    rfl
  have hnode : ¬ entry.Tells (d "node") := by
    rintro ⟨tags, c, ms, hms, hnames, hcarries⟩
    cases hms
    cases hnames with
    | tagged ht _ =>
      have htype := (List.forall_mem_cons.1 hcarries).1
      simp only [Members.find?] at htype
      cases htype
      simp [List.lookup_cons] at ht
  have hapart : ∀ type ∈ ["vertex", "edge"], KeysApart
      [("id", .int 1), ("type", .str type), ("label", .str "moniker")] [("type", type), ("label", "moniker")] := by
    simp [KeysApart]
  obtain ⟨htold, hone⟩ := tags_dispatch (.named (.named hnamed) (.self _))
  obtain ⟨-, htold_vertex⟩ := htold _ _ _ hvertex (hcarries "vertex")
  obtain ⟨-, htold_edge⟩ := htold _ _ _ hedge (hcarries "edge")
  obtain ⟨r, hr, -⟩ := hone _ hnode
  exact ⟨(htold_vertex (hapart _ (by simp))).1, (htold_edge (hapart _ (by simp))).1.trans hmissing, r, hr⟩

end LspWire
