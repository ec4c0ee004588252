import LspWire.Proofs.Unions
import Mathlib.Data.List.Forall2

/-!
# Unions in any order

An untagged union takes the first of its arms that reads a value, so in general the order of the arms counts. It does
not where no value is read at two arms: because no value has a form of both (`Ty.differ`), or because both are classes
with a member that one requires in a form that the other never reads (`clash`). Commands and code actions are told apart
in the second way, by the form of their `command`. Whether arms exclude each other is checked on the types
(`Ty.exclusive`), and `exclusive_union_in_any_order` says what the check means.
-/

namespace LspWire

open Schema

/-! ## Types that exclude each other -/

/-- Whether a class requires a member that another class has as well, and never reads in the same form. -/
def Schema.clash (a b : Class) : Bool :=
  (recordOf a).fields.any fun f => f.absent.isNone &&
    (recordOf b).fields.any fun g => g.wire == f.wire && g.name == f.name && f.ty.differ g.ty

namespace Ty

/-- Whether the two types are told apart by the form of a value, or by that of a member. -/
def apart (a b : Ty) : Bool :=
  a.differ b ||
    match a, b with
    | .record a, .record b => clash a b || clash b a
    | _, _ => false

/-- Whether a type is an untagged union whose arms are told apart. -/
def exclusive : Ty → Bool
  | .oneOf arms => decide (arms.Pairwise fun a b => a.apart b = true)
  | _ => false

/-- No value is read at both types. -/
def Excludes (a b : Ty) : Prop :=
  ∀ source j v w, ¬ (decode source a j = .ok v ∧ decode source b j = .ok w)

theorem Excludes.symm {a b : Ty} (h : a.Excludes b) : b.Excludes a :=
  fun source j v w hvw => h source j w v hvw.symm

end Ty

section Excludes

variable {source : Source} {j : Json} {v w : Value}

/-- A member of an object that both classes have is found alike for both. -/
theorem findField?_eq_of_keys {f g : Field} (hw : g.wire = f.wire) (hn : g.name = f.name)
    (ms : List (String × Json)) : findField? g ms = findField? f ms := by
  rw [findField?, findField?, hw, hn]

theorem not_both_of_clash {a b : Class} (hc : clash a b = true) (ha : decode source (.record a) j = .ok v) :
    decode source (.record b) j ≠ .ok w := by
  intro hb
  simp only [clash, List.any_eq_true, Bool.and_eq_true, beq_iff_eq, Option.isNone_iff_eq_none] at hc
  obtain ⟨f, hf, hreq, g, hg, ⟨hwire, hname⟩, hdiffer⟩ := hc
  obtain ⟨ms, rfl, hoka, -⟩ := decodeRecord_eq_ok ((decode_record a _).symm.trans ha)
  obtain ⟨_, ⟨⟩, hokb, -⟩ := decodeRecord_eq_ok ((decode_record b _).symm.trans hb)
  obtain ⟨k, i, hfind, hkind⟩ := kind_of_required hreq (hoka f hf)
  have hread := hokb g hg
  rw [decodeField, findField?_eq_of_keys hwire hname, hfind] at hread
  exact Ty.differ_spec hdiffer hkind (reads_of_decode _ _ hread).kind_mem

/-- Types that are told apart read no value both. -/
theorem Ty.excludes_of_apart {a b : Ty} (h : a.apart b = true) : a.Excludes b := by
  rintro source j v w ⟨ha, hb⟩
  rcases Bool.or_eq_true_iff.1 h with hdiffer | hclash
  · exact Ty.differ_spec hdiffer (reads_of_decode _ _ ha).kind_mem (reads_of_decode _ _ hb).kind_mem
  · split at hclash
    · rcases Bool.or_eq_true_iff.1 hclash with hab | hba
      · exact not_both_of_clash hab ha hb
      · exact not_both_of_clash hba hb ha
    · cases hclash

end Excludes

/-! ## Unions whose arms exclude each other -/

section Unions

variable {source : Source} {j : Json} {v : Value} {arms : List Ty}

theorem Ty.pairwise_excludes (h : (Ty.oneOf arms).exclusive = true) : arms.Pairwise Ty.Excludes :=
  (of_decide_eq_true h).imp Ty.excludes_of_apart

/-- Such a union reads what one of its arms reads. -/
theorem decode_oneOf_iff (h : arms.Pairwise Ty.Excludes) :
    decode source (.oneOf arms) j = .ok v ↔ ∃ t ∈ arms, decode source t j = .ok v := by
  rw [decode_oneOf]
  constructor
  · intro hv
    obtain ⟨pre, t, post, rfl, -, ht⟩ := decodeFirst_eq_ok hv
    exact ⟨t, by simp, ht⟩
  · rintro ⟨t, hmem, ht⟩
    obtain ⟨pre, post, rfl⟩ := List.append_of_mem hmem
    have hpre : ∀ a ∈ pre, a.Excludes t := fun a ha =>
      (List.pairwise_append.1 h).2.2 a ha t List.mem_cons_self
    exact decodeFirst_of_mem ht fun a ha w hw => absurd ⟨hw, ht⟩ (hpre a ha source j w v)

theorem decode_oneOf_perm (h : arms.Pairwise Ty.Excludes) {arms' : List Ty} (hp : arms'.Perm arms) :
    decode source (.oneOf arms') j = .ok v ↔ decode source (.oneOf arms) j = .ok v := by
  rw [decode_oneOf_iff h, decode_oneOf_iff ((hp.pairwise_iff Ty.Excludes.symm).2 h)]
  simp only [hp.mem_iff]

theorem decodeItems_iff {t : Ty} : ∀ {items : List Json} {i : Nat} {vs : List Value},
    decodeItems source t i items = .ok vs ↔ List.Forall₂ (fun j v => decode source t j = .ok v) items vs
  | [], i, vs => by
    rw [decodeItems, List.forall₂_nil_left_iff]
    exact ⟨fun h => (Except.ok.inj h).symm, fun h => by rw [h]⟩
  | j :: js, i, vs => by
    rw [decodeItems, List.forall₂_cons_left_iff]
    simp only [Outcome.map_eq_ok, Outcome.both_eq_ok, Outcome.within_eq_ok, decodeItems_iff, Prod.exists]
    constructor
    · rintro ⟨w, ws, ⟨hw, hws⟩, rfl⟩
      exact ⟨w, ws, hw, hws, rfl⟩
    · rintro ⟨w, ws, hw, hws, rfl⟩
      exact ⟨w, ws, ⟨hw, hws⟩, rfl⟩

/-- A list is read element by element. -/
theorem decode_list_iff {t : Ty} : decode source (.list t) j = .ok v ↔
    ∃ items vs, j = .arr items ∧ v = .list vs ∧ List.Forall₂ (fun j v => decode source t j = .ok v) items vs := by
  constructor
  · intro h
    obtain ⟨items, rfl, -, -⟩ := decode_list_eq_ok h
    rw [decode] at h
    obtain ⟨vs, hvs, rfl⟩ := Outcome.map_eq_ok.1 h
    exact ⟨items, vs, rfl, rfl, decodeItems_iff.1 hvs⟩
  · rintro ⟨items, vs, rfl, rfl, hall⟩
    rw [decode]
    exact Outcome.map_eq_ok.2 ⟨vs, decodeItems_iff.2 hall, rfl⟩

end Unions

/-! ## The unions of the library -/

/-- Names of unions whose arms are told apart. -/
def exclusiveNames : List String := [
  "CodeActionOrCommand", "HoverProviderCapability", "DefinitionProviderCapability", "DocumentSymbolProviderCapability",
  "CodeActionProviderCapability", "DocumentFormattingProviderCapability", "DocumentRangeFormattingProviderCapability",
  "RenameProviderCapability", "WorkspaceSymbolProviderCapability", "Documentation", "MarkedString", "GlobPattern",
  "ParameterLabel", "InlayHintLabel", "InlayHintTooltip", "TextDocumentSyncCapability", "TextDocumentSyncSaveOptions",
  "CompletionResponse", "InlineCompletionResponse"]

/-- Fields whose types are such unions. -/
def exclusiveFields : List (Class × String) := [
  (.serverCapabilities, "referencesProvider"), (.serverCapabilities, "documentHighlightProvider"),
  (.draftServerCapabilities, "inlineCompletionProvider"), (.semanticTokensClientCapabilitiesRequests, "range"),
  (.semanticTokensClientCapabilitiesRequests, "full"), (.semanticTokensOptions, "range"),
  (.semanticTokensOptions, "full"), (.relativePattern, "baseUri"),
  (.workspaceFoldersServerCapabilities, "changeNotifications"), (.notebookSelector, "notebook"),
  (.inlineCompletionItem, "insertText")]

theorem names_exclusive : exclusiveNames.all (fun n =>
    namedTypes.any fun m => m.1 == n && m.2.exclusive) = true := by decide +kernel

theorem fields_exclusive : exclusiveFields.all (fun p =>
    (recordOf p.1).fields.any fun f => f.name == p.2 && f.ty.core.exclusive) = true := by decide +kernel

/-- **At most one arm of a union whose arms are told apart reads a value, and the union reads it as that arm does**, so
    the order of the arms does not matter, neither for the union nor for the elements of a list. -/
theorem exclusive_union_in_any_order :
    (∀ n ∈ exclusiveNames, ∃ t, (n, t) ∈ namedTypes ∧ t.exclusive = true) ∧
    (∀ p ∈ exclusiveFields, ∃ f ∈ (recordOf p.1).fields, f.name = p.2 ∧ f.ty.core.exclusive = true) ∧
    ∀ arms : List Ty, (Ty.oneOf arms).exclusive = true → ∀ source d,
      (arms.Pairwise fun a b => ∀ v w, ¬ (decode source a d = .ok v ∧ decode source b d = .ok w)) ∧
      (∀ v, decode source (.oneOf arms) d = .ok v ↔ ∃ t ∈ arms, decode source t d = .ok v) ∧
      ∀ arms' : List Ty, arms'.Perm arms → ∀ v,
        (decode source (.oneOf arms') d = .ok v ↔ decode source (.oneOf arms) d = .ok v) ∧
        (decode source (.list (.oneOf arms')) d = .ok v ↔ ∃ items vs, d = .arr items ∧ v = .list vs ∧
          List.Forall₂ (fun j w => decode source (.oneOf arms) j = .ok w) items vs) := by
  refine ⟨fun n hn => ?_, fun p hp => ?_, fun arms h source d =>
    ⟨?_, fun v => decode_oneOf_iff (Ty.pairwise_excludes h), fun arms' hp v => ⟨?_, ?_⟩⟩⟩
  · have hany := List.all_eq_true.1 names_exclusive n hn
    simp only [List.any_eq_true, Bool.and_eq_true, beq_iff_eq] at hany
    obtain ⟨⟨_, t⟩, hmem, rfl, ht⟩ := hany
    exact ⟨t, hmem, ht⟩
  · have hany := List.all_eq_true.1 fields_exclusive p hp
    simpa only [List.any_eq_true, Bool.and_eq_true, beq_iff_eq] using hany
  · exact (Ty.pairwise_excludes h).imp fun hab => hab source d
  · exact decode_oneOf_perm (Ty.pairwise_excludes h) hp
  · rw [decode_list_iff]
    simp only [decode_oneOf_perm (Ty.pairwise_excludes h) hp]

/-- A command and a code action that holds it are read as what they are, though code actions are tried first. -/
theorem commands_and_actions_reordered :
    let c : Json := .obj [("title", .str "t"), ("command", .str "c")]
    let d : Json := .obj [("title", .str "fix"), ("command", c)]
    ∃ v w, decode .data (.record .command) c = .ok v ∧ decode .data (.record .codeAction) d = .ok w ∧
      (Ty.oneOf [.record .command, .record .codeAction]).exclusive = true ∧
      decode .data (.list (.oneOf [.record .codeAction, .record .command])) (.arr [c, d]) = .ok (.list [v, w]) := by
  intro c d
  have hcommand : recordOf .command = command := rfl
  have haction : recordOf .codeAction = codeAction := rfl
  have hc : decode .data (.record .command) c =
      .ok (.record .command [("title", .str "t"), ("command", .str "c"), ("arguments", .null)] []) := by
    simp [c, decode, decodeRecord, decodeFields, hcommand, command, record, required, Schema.optional, findField?,
      Members.find?, decodeStr, decodeAbsent, Outcome.both, Outcome.map, Outcome.within]
  have hd : ∃ w, decode .data (.record .codeAction) d = .ok w := by
    rw [decode_record, decodeRecord]
    simp [decodeFields, haction, codeAction, record, required, Schema.optional, findField?, Members.find?, decode,
      decodeStr, decodeAbsent, Outcome.both, Outcome.map, Outcome.within, hc]
  obtain ⟨w, hw⟩ := hd
  have hexclusive : (Ty.oneOf [.record .command, .record .codeAction]).exclusive = true := by decide +kernel
  have hread := exclusive_union_in_any_order.2.2 _ hexclusive .data (.arr [c, d])
  refine ⟨_, w, hc, hw, hexclusive, (hread.2.2 _ (.swap ..) _).2.2 ⟨_, _, rfl, rfl, .cons ?_ (.cons ?_ .nil)⟩⟩
  · exact (decode_oneOf_iff (Ty.pairwise_excludes hexclusive)).2 ⟨_, by simp, hc⟩
  · exact (decode_oneOf_iff (Ty.pairwise_excludes hexclusive)).2 ⟨_, by simp, hw⟩

end LspWire
