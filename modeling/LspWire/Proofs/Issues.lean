import LspWire.Proofs.Reading

/-!
# Issues part by part

A failing decode collects the issues of all parts of a value. The issues of a list are those of its elements, in their
order (`issues_list`), and the issues of a record are those of its fields, in field order (`issues_record`). Each is
seen from one step further out. A path is rendered from the whole location and the whole value at once, yet a step
further out only puts its text in front (`report_within`), so that a value is reported alike wherever it stands
(`reports_compose`).
-/

namespace LspWire

open Schema

/-! ## The issues of an outcome -/

namespace Outcome

variable {α β : Type}

/-- The issues of an outcome; a result has none. -/
def issues : Outcome α → List Issue
  | .ok _ => []
  | .error is => is

/-- Whether there is no result. -/
def Fails (o : Outcome α) : Prop := ∃ is, o = .error is

@[simp] theorem issues_ok (a : α) : issues (.ok a : Outcome α) = [] := rfl

@[simp] theorem issues_error (is : List Issue) : issues (.error is : Outcome α) = is := rfl

@[simp] theorem issues_fail (c : Cause) : (fail c : Outcome α).issues = [⟨c, []⟩] := rfl

@[simp] theorem issues_map (f : α → β) (o : Outcome α) : (o.map f).issues = o.issues := by cases o <;> rfl

@[simp] theorem issues_within (s : Step) (o : Outcome α) : (o.within s).issues = o.issues.map (Issue.within s) := by
  cases o <;> rfl

@[simp] theorem issues_both (o : Outcome α) (p : Outcome β) : (o.both p).issues = o.issues ++ p.issues := by
  cases o <;> cases p <;> simp [both]

@[simp] theorem not_fails_ok (a : α) : ¬ Fails (.ok a : Outcome α) := by simp [Fails]

@[simp] theorem fails_error (is : List Issue) : Fails (.error is : Outcome α) := ⟨is, rfl⟩

@[simp] theorem fails_map (f : α → β) (o : Outcome α) : (o.map f).Fails ↔ o.Fails := by
  cases o <;> simp [map]

@[simp] theorem fails_within (s : Step) (o : Outcome α) : (o.within s).Fails ↔ o.Fails := by
  cases o <;> simp [within]

@[simp] theorem fails_both (o : Outcome α) (p : Outcome β) : (o.both p).Fails ↔ o.Fails ∨ p.Fails := by
  cases o <;> cases p <;> simp [both]

/-- An outcome with an issue has no result. -/
theorem fails_of_mem {o : Outcome α} {i : Issue} (h : i ∈ o.issues) : o.Fails := by
  cases o with
  | ok a => cases h
  | error is => exact ⟨is, rfl⟩

end Outcome

/-! ## Lists and records -/

/-- Whether a field takes a value as a flag, older than the type that it declares. -/
def Field.takesFlag (f : Field) (j : Json) : Bool :=
  match f.ty, j with
  | .switch .., .bool _ => true
  | _, _ => false

/-- The type that a field declares, flags aside. -/
def Field.declared (f : Field) : Ty :=
  match f.ty with
  | .switch _ t => .optional t
  | t => t

section Parts

variable {source : Source}

theorem issues_decodeItems (t : Ty) (items : List Json) (i : Nat) : (decodeItems source t i items).issues =
    (items.zipIdx i).flatMap fun p => (decode source t p.1).issues.map (Issue.within (.index p.2)) := by
  induction items generalizing i with
  | nil => rw [decodeItems]; rfl
  | cons j js ih =>
    rw [decodeItems, List.zipIdx_cons, List.flatMap_cons]
    simp only [Outcome.issues_map, Outcome.issues_both, Outcome.issues_within]
    rw [ih (i + 1)]

theorem fails_decodeItems (t : Ty) (items : List Json) (i : Nat) : (decodeItems source t i items).Fails ↔
    ∃ x ∈ items, (decode source t x).Fails := by
  induction items generalizing i with
  | nil => rw [decodeItems]; simp
  | cons j js ih =>
    rw [decodeItems]
    simp only [Outcome.fails_map, Outcome.fails_both, Outcome.fails_within, List.mem_cons, exists_eq_or_imp]
    rw [ih (i + 1)]

/-- **The issues of a list** are those of its elements, in order. -/
theorem issues_list (t : Ty) (items : List Json) : (decode source (.list t) (.arr items)).issues =
    items.zipIdx.flatMap fun p => (decode source t p.1).issues.map (Issue.within (.index p.2)) := by
  rw [decode, Outcome.issues_map, issues_decodeItems]

theorem fails_list (t : Ty) (items : List Json) : (decode source (.list t) (.arr items)).Fails ↔
    ∃ x ∈ items, (decode source t x).Fails := by
  rw [decode, Outcome.fails_map, fails_decodeItems]

/-- The issues of a field: of the value that it is read from, or of its absence. -/
def fieldIssues (source : Source) (ms : List (String × Json)) (f : Field) : List Issue :=
  match findField? f ms with
  | some (k, j) => (decode source f.ty j).issues.map (Issue.within (.key k))
  | none => if f.absent.isNone then [⟨.missing, [.key f.wire]⟩] else []

theorem issues_decodeAbsent (f : Field) :
    (decodeAbsent f).issues = if f.absent.isNone then [⟨.missing, [.key f.wire]⟩] else [] := by
  unfold decodeAbsent
  cases f.absent <;> rfl

theorem fails_decodeAbsent (f : Field) : (decodeAbsent f).Fails ↔ f.absent = none := by
  unfold decodeAbsent
  cases f.absent <;> simp

/-- The issues that the decoder finds at a field. -/
theorem issues_fieldOutcome (f : Field) (ms : List (String × Json)) :
    (fieldOutcome source f ms).issues = fieldIssues source ms f := by
  unfold fieldOutcome fieldIssues
  cases findField? f ms with
  | none => exact issues_decodeAbsent f
  | some p => exact Outcome.issues_within _ _

theorem fails_fieldOutcome (f : Field) (ms : List (String × Json)) :
    (fieldOutcome source f ms).Fails ↔ (decodeField source f ms).Fails := by
  unfold fieldOutcome decodeField
  cases findField? f ms with
  | none => rfl
  | some p => exact Outcome.fails_within _ _

theorem issues_decodeFields (ms : List (String × Json)) (fields : List Field) :
    (decodeFields source fields ms).issues = fields.flatMap (fieldIssues source ms) := by
  induction fields with
  | nil => rw [decodeFields]; rfl
  | cons f fields ih =>
    rw [decodeFields_eq_both, Outcome.issues_map, Outcome.issues_both, ih, List.flatMap_cons, issues_fieldOutcome]

theorem fails_decodeFields (ms : List (String × Json)) (fields : List Field) :
    (decodeFields source fields ms).Fails ↔ ∃ f ∈ fields, (decodeField source f ms).Fails := by
  induction fields with
  | nil => rw [decodeFields]; simp
  | cons f fields ih =>
    rw [decodeFields_eq_both, Outcome.fails_map, Outcome.fails_both, ih, fails_fieldOutcome]
    simp only [List.mem_cons, exists_eq_or_imp]

/-- **The issues of a record** are those of its fields, in field order. -/
theorem issues_record (c : Class) (ms : List (String × Json)) :
    (decode source (.record c) (.obj ms)).issues = (recordOf c).fields.flatMap (fieldIssues source ms) := by
  rw [decode_record, decodeRecord, Outcome.issues_map, issues_decodeFields]

theorem fails_record (c : Class) (ms : List (String × Json)) : (decode source (.record c) (.obj ms)).Fails ↔
    ∃ f ∈ (recordOf c).fields, (decodeField source f ms).Fails := by
  rw [decode_record, decodeRecord, Outcome.fails_map, fails_decodeFields]

/-- A field is read at the type that it declares, unless it takes the value as a flag. -/
theorem decode_declared {f : Field} {j : Json} (h : f.takesFlag j = false) :
    decode source f.ty j = decode source f.declared j := by
  unfold Field.declared
  split
  · next on t hty =>
    have hb : ∀ b, j ≠ .bool b := by
      rintro b rfl
      simp [Field.takesFlag, hty] at h
    rw [hty]
    by_cases hj : j = .null
    · subst hj
      rw [decode, decode]
    · rw [decode_switch_of_ne hj hb, decode_optional_of_ne hj]
  · rfl

/-- What a field takes as a flag is read. -/
theorem decode_flag {f : Field} {j : Json} (h : f.takesFlag j = true) : ∃ v, decode source f.ty j = .ok v := by
  unfold Field.takesFlag at h
  split at h
  · next on t b hty =>
    rw [hty]
    cases b with
    | true => exact ⟨on, by rw [decode]⟩
    | false => exact ⟨.null, by rw [decode]⟩
  · cases h

end Parts

/-! ## Reports -/

/-- Whether data is refused at a type. -/
def Refused (t : Ty) (d : Json) : Prop := ∃ rs, decodeData t d = .error rs

/-- What is reported on data that is read at a type. -/
def reports (t : Ty) (d : Json) : List Report :=
  match decodeData t d with
  | .ok _ => []
  | .error rs => rs

/-- A report with a path that starts further out: the text of the steps in between follows the `$`. -/
def Report.under (steps : String) (r : Report) : Report :=
  { r with path := "$" ++ steps ++ String.ofList (r.path.toList.drop 1) }

/-- Data are refused exactly if the decoder has no result. -/
theorem refused_iff {t : Ty} {d : Json} : Refused t d ↔ (decode .data t d).Fails := by
  unfold Refused decodeData
  cases decode .data t d with
  | ok v => exact iff_of_false (fun ⟨rs, h⟩ => by cases h) (Outcome.not_fails_ok v)
  | error is => exact iff_of_true ⟨_, rfl⟩ ⟨is, rfl⟩

theorem exists_of_not_refused {t : Ty} {j : Json} (h : ¬ Refused t j) : ∃ v, decode .data t j = .ok v := by
  rw [refused_iff] at h
  cases hv : decode .data t j with
  | ok v => exact ⟨v, rfl⟩
  | error is => exact absurd ⟨is, hv⟩ h

theorem Refused.ne_ok {t : Ty} {j : Json} (h : Refused t j) (v : Value) : decode .data t j ≠ .ok v := by
  obtain ⟨is, his⟩ := refused_iff.1 h
  rw [his]
  exact fun e => by cases e

/-- What is reported is one report for each issue, in the same order. -/
theorem reports_eq (t : Ty) (d : Json) : reports t d = (decode .data t d).issues.map (Issue.report .data (some d)) := by
  unfold reports decodeData
  cases decode .data t d <;> rfl

theorem Report.under_nil (r : Report) (h : ∃ rest, r.path = "$" ++ rest) : r.under "" = r := by
  obtain ⟨rest, h⟩ := h
  obtain ⟨kind, path, message⟩ := r
  subst h
  simp [Report.under]

theorem Report.under_under (a b : String) (r : Report) : (r.under b).under a = r.under (a ++ b) := by
  simp [Report.under, String.append_assoc]

theorem pathText_cons (s : Step) (steps : List Step) :
    pathText (s :: steps) = "$" ++ s.inPath ++ String.join (steps.map Step.inPath) := by
  rw [pathText, List.map_cons, String.join_cons, String.append_assoc]

/-- One step further out puts the text of the step in front. -/
theorem report_within {source : Source} {s : Step} {outer inner : Json} {i : Issue}
    (h : ∀ ss, keptSteps (some outer) (s :: ss) = s :: keptSteps (some inner) ss) :
    (i.within s).report source (some outer) = (i.report source (some inner)).under s.inPath := by
  have hrest : ∀ rest : String, String.ofList (("$" ++ rest).toList.drop 1) = rest := by simp
  simp only [Issue.report, Issue.within, Report.under, path, h, pathText_cons]
  rw [pathText, hrest]

/-- The index of an element is kept, and the walk goes on in the element. -/
theorem keptSteps_element {items : List Json} {i : Nat} {x : Json} (h : items[i]? = some x) (ss : List Step) :
    keptSteps (some (.arr items)) (.index i :: ss) = .index i :: keptSteps (some x) ss := by
  have he : elementAt? items (i : Int) = some x := by
    rw [elementAt?, if_pos (Int.natCast_nonneg i), Int.toNat_natCast, h]
  simp only [keptSteps, Step.name?, he]

/-- A key of the object is kept, and the walk goes on in its value. -/
theorem keptSteps_member {ms : List (String × Json)} {k : String} {x : Json} (h : Members.find? k ms = some x)
    (ss : List Step) : keptSteps (some (.obj ms)) (.key k :: ss) = .key k :: keptSteps (some x) ss := by
  simp only [keptSteps, Step.name?, h]

theorem find?_of_findField?_none {f : Field} {ms : List (String × Json)} (h : findField? f ms = none) :
    Members.find? f.wire ms = none := by
  unfold findField? at h
  split at h
  · cases h
  · next hw => exact hw

/-- What is reported on a field: on the value that it is read from, one key further in, or on its absence. -/
def fieldReports (ms : List (String × Json)) (f : Field) : List Report :=
  match findField? f ms with
  | some (k, j) => if f.takesFlag j then [] else (reports f.declared j).map (Report.under (Step.key k).inPath)
  | none => if f.absent.isNone then [⟨.missingField, "$" ++ (Step.key f.wire).inPath, "Field required"⟩] else []

/-- The reports on the issues of a field: each of a value one key further in, or the missing key itself. -/
theorem fieldReports_eq (ms : List (String × Json)) (f : Field) :
    (fieldIssues .data ms f).map (Issue.report .data (some (.obj ms))) = fieldReports ms f := by
  unfold fieldIssues fieldReports
  split
  · next k j hj =>
    have hkey := keptSteps_member (find?_of_findField? hj).1
    cases hflag : f.takesFlag j with
    | true =>
      have hread : ∃ v, decode .data f.ty j = .ok v := decode_flag hflag
      obtain ⟨v, hv⟩ := hread
      simp [hv]
    | false =>
      rw [reports_eq, decode_declared hflag, List.map_map, List.map_map]
      apply List.map_congr_left
      intro i _
      exact report_within hkey
  · next hn =>
    have hkept : keptSteps (some (.obj ms)) [.key f.wire] = [.key f.wire] := by
      simp only [keptSteps, Step.name?, find?_of_findField?_none hn, List.isEmpty_nil, if_true]
    have hpath : path (some (.obj ms)) [.key f.wire] = "$" ++ (Step.key f.wire).inPath := by
      rw [path, hkept, pathText_cons, List.map_nil, String.join_nil, String.append_empty]
    cases f.absent.isNone with
    | true =>
      show [Report.mk _ (path (some (.obj ms)) [.key f.wire]) _] = _
      rw [hpath]
      rfl
    | false => rfl

/-- **What is reported on a list** is what is reported on its elements, each one index further in. -/
theorem reports_list (t : Ty) (items : List Json) : reports (.list t) (.arr items) =
    items.zipIdx.flatMap fun p => (reports t p.1).map (Report.under (Step.index p.2).inPath) := by
  rw [reports_eq, issues_list, List.map_flatMap, List.flatMap_def, List.flatMap_def]
  congr 1
  apply List.map_congr_left
  intro p hp
  -- the index is that of the element, so the path walks through the list into it
  have helement := keptSteps_element (List.mem_zipIdx_iff_getElem?.1 hp)
  rw [reports_eq, List.map_map, List.map_map]
  apply List.map_congr_left
  intro i _
  exact report_within helement

/-- **What is reported on a record** is what is reported on its fields, in field order. -/
theorem reports_record (c : Class) (ms : List (String × Json)) :
    reports (.record c) (.obj ms) = (recordOf c).fields.flatMap (fieldReports ms) := by
  have hfields : (fun f => (fieldIssues .data ms f).map (Issue.report .data (some (.obj ms)))) = fieldReports ms :=
    funext (fieldReports_eq ms)
  rw [reports_eq, issues_record, List.map_flatMap, hfields]

theorem reports_optional {t : Ty} {j : Json} (h : j ≠ .null) : reports (.optional t) j = reports t j := by
  rw [reports_eq, reports_eq, decode_optional_of_ne h]

/-- Whether a field is refused: its value is, or it is required and absent. -/
def FieldRefused (ms : List (String × Json)) (f : Field) : Prop :=
  match findField? f ms with
  | some (_, j) => f.takesFlag j = false ∧ Refused f.declared j
  | none => f.absent = none

theorem fieldRefused_iff {ms : List (String × Json)} {f : Field} :
    FieldRefused ms f ↔ (decodeField .data f ms).Fails := by
  cases hfind : findField? f ms with
  | none => simp only [FieldRefused, decodeField, hfind, fails_decodeAbsent]
  | some kj =>
    obtain ⟨k, j⟩ := kj
    simp only [FieldRefused, decodeField, hfind, refused_iff]
    cases hflag : f.takesFlag j with
    | true =>
      have hread : ∃ v, decode .data f.ty j = .ok v := decode_flag hflag
      obtain ⟨v, hv⟩ := hread
      simp [hv]
    | false => simp [decode_declared hflag]

/-! ## Values in lists and records -/

/-- `Wraps t j steps t' j'`: a value `j'` at `t'` holds `j` at `t` in lists and records only, behind the steps. -/
inductive Wraps (t : Ty) (j : Json) : String → Ty → Json → Prop
  | here : Wraps t j "" t j
  | element {steps : String} {u : Ty} {items : List Json} {i : Nat} {x : Json} : items[i]? = some x →
      Wraps t j steps u x → Wraps t j ((Step.index i).inPath ++ steps) (.list u) (.arr items)
  | member {steps : String} {c : Class} {f : Field} {ms : List (String × Json)} {k : String} {x : Json} :
      f ∈ (recordOf c).fields → findField? f ms = some (k, x) → f.takesFlag x = false →
      Wraps t j steps f.declared x → Wraps t j ((Step.key k).inPath ++ steps) (.record c) (.obj ms)
  | optional {steps : String} {u : Ty} {x : Json} : x ≠ .null → Wraps t j steps u x → Wraps t j steps (.optional u) x

theorem under_reports (t : Ty) (d : Json) : (reports t d).map (Report.under "") = reports t d := by
  rw [reports_eq, List.map_map]
  apply List.map_congr_left
  intro i _
  exact Report.under_nil _ ⟨_, rfl⟩

theorem map_under (a b : String) (rs : List Report) :
    rs.map (Report.under (a ++ b)) = (rs.map (Report.under b)).map (Report.under a) := by
  rw [List.map_map]
  apply List.map_congr_left
  intro r _
  exact (Report.under_under a b r).symm

/-- What is reported on a part is reported on the whole, in one piece. -/
theorem Wraps.infix {t t' : Ty} {j j' : Json} {steps : String} (h : Wraps t j steps t' j') :
    (reports t j).map (Report.under steps) <:+: reports t' j' := by
  induction h with
  | here => exact ⟨[], [], by rw [under_reports, List.nil_append, List.append_nil]⟩
  | @element steps u items i x hi _ ih =>
    have hmem : (x, i) ∈ items.zipIdx := List.mk_mem_zipIdx_iff_getElem?.2 hi
    have hpart := List.infix_of_mem_flatten
      (List.mem_map_of_mem (f := fun p => (reports u p.1).map (Report.under (Step.index p.2).inPath)) hmem)
    rw [reports_list, List.flatMap_def, map_under]
    exact (ih.map _).trans hpart
  | @member steps c f ms k x hf hx hflag _ ih =>
    have hpart := List.infix_of_mem_flatten (List.mem_map_of_mem (f := fieldReports ms) hf)
    have hfield : fieldReports ms f = (reports f.declared x).map (Report.under (Step.key k).inPath) := by
      simp [fieldReports, hx, hflag]
    rw [hfield] at hpart
    rw [reports_record, List.flatMap_def, map_under]
    exact (ih.map _).trans hpart
  | optional hx _ ih => rwa [reports_optional hx]

/-- **Reports do not depend on where a value stands.** A list is refused if one of its elements is, and a record if one of
    its fields is; the reports are those of the parts, in order, with one step more in each path. -/
theorem reports_compose :
    (∀ t items, (Refused (.list t) (.arr items) ↔ ∃ x ∈ items, Refused t x) ∧
      reports (.list t) (.arr items) =
        items.zipIdx.flatMap fun p => (reports t p.1).map (Report.under (Step.index p.2).inPath)) ∧
    (∀ c ms, (Refused (.record c) (.obj ms) ↔ ∃ f ∈ (recordOf c).fields, FieldRefused ms f) ∧
      reports (.record c) (.obj ms) = (recordOf c).fields.flatMap (fieldReports ms)) ∧
    ∀ t j steps t' j', Wraps t j steps t' j' → (reports t j).map (Report.under steps) <:+: reports t' j' := by
  refine ⟨fun t items => ⟨?_, reports_list t items⟩, fun c ms => ⟨?_, reports_record c ms⟩, ?_⟩
  · simp only [refused_iff]
    exact fails_list t items
  · simp only [refused_iff, fieldRefused_iff]
    exact fails_record c ms
  · intro t j steps t' j' h
    exact h.infix

/-- A line below zero is reported in a list of ranges as in the position alone, behind the steps to the position. -/
theorem line_reported_in_ranges :
    let bad : Json := .obj [("line", .int (-1)), ("character", .int 0)]
    let range : Json := .obj [("start", bad), ("end", bad)]
    reports (.record .position) bad = [⟨.invalidPrimitive, "$.line", "Input should be greater than or equal to 0"⟩] ∧
    [⟨.invalidPrimitive, "$[0].start.line", "Input should be greater than or equal to 0"⟩] <:+:
      reports (.list (.record .range)) (.arr [range]) := by
  intro bad range
  have hline : reports (.record .position) bad =
      [⟨.invalidPrimitive, "$.line", "Input should be greater than or equal to 0"⟩] := by
    have hf : recordOf .position = position := rfl
    have hdecode : decode .data (.record .position) bad = .error [⟨.below 0, [.key "line"]⟩] := by
      simp [bad, decode, decodeRecord, decodeFields, hf, position, record, required, findField?, Members.find?,
        Ty.uint32, decodeBounded, Outcome.fail, Outcome.both, Outcome.map, Outcome.within, Issue.within]
    rw [reports_eq, hdecode]
    rfl
  have hfield : findField? (required "start" (.record .position)) [("start", bad), ("end", bad)] = some ("start", bad) :=
    rfl
  have hstart : Wraps (.record .position) bad ((Step.key "start").inPath ++ "") (.record .range) range :=
    .member List.mem_cons_self hfield rfl .here
  have hfirst : Wraps (.record .position) bad "[0].start" (.list (.record .range)) (.arr [range]) :=
    .element (i := 0) rfl hstart
  have hinfix := reports_compose.2.2 _ _ _ _ _ hfirst
  rw [hline] at hinfix
  exact ⟨hline, hinfix⟩

end LspWire
