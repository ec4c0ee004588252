import LspWire.Proofs.Classes

/-!
# Decoding undoes encoding

`decodeData_encodeAs`: what was read at a type of the library is written at that type as data that reads back as the
same value. Only few classes have values that lose something in writing; a type that contains none of them is tame, and
all its values are recoverable (`Reads.recoverable`).
-/

namespace LspWire

open Schema

/-! ## Values that lose nothing -/

namespace Schema

/-- The classes whose values can lose something in writing, and those that contain one. -/
def lossy (c : Class) : Bool :=
  [Class.formattingOptions, .messageActionItem, .notebookDocumentSyncRegistrationOptions, .showMessageRequestParams,
    .documentFormattingParams, .documentRangeFormattingParams, .documentOnTypeFormattingParams, .serverCapabilities,
    .draftServerCapabilities, .initializeResult, .draftInitializeResult].contains c

end Schema

namespace Ty

/-- Whether no value of a type contains a record that can lose something. -/
def tame (t : Ty) : Bool := t.everyClass fun c => !lossy c

end Ty

namespace Schema

theorem lossy_closed (c : Class) :
    (lossy c || !(recordOf c).keepsExtra && (recordOf c).fields.all fun f => f.ty.tame) = true := by
  revert c
  decide +kernel

theorem not_lossy {c : Class} (h : lossy c = false) :
    (recordOf c).keepsExtra = false ∧ ∀ f ∈ (recordOf c).fields, f.ty.tame = true := by
  simpa [h] using lossy_closed c

end Schema

/-- Inside a value of a tame type every type is tame. -/
theorem Within.tame {t t' : Ty} {v v' : Value} (h : Within t v t' v') : t.tame = true → t'.tame = true := by
  refine h.everyClass fun c hc f hf => ?_
  exact (not_lossy (by simpa using hc)).2 f hf

theorem Within.whole {t t' : Ty} {v v' : Value} (h : Within t v t' v') : v.Whole → v'.Whole := by
  induction h with
  | here => exact id
  | item hm _ ih =>
    intro hv
    cases hv with
    | leaf hv => cases hv
    | list hv => exact ih (hv _ hm)
  | first _ ih =>
    intro hv
    cases hv with
    | leaf hv => cases hv
    | pair hx _ => exact ih hx
  | second _ ih =>
    intro hv
    cases hv with
    | leaf hv => cases hv
    | pair _ hy => exact ih hy
  | entry hm _ ih =>
    intro hv
    cases hv with
    | leaf hv => cases hv
    | map hv => exact ih (hv _ hm)
  | field _ hm _ ih =>
    intro hv
    cases hv with
    | leaf hv => cases hv
    | record _ hv _ => exact ih (hv _ hm)
  | optional _ ih | oneOf _ _ ih | tagged _ _ ih | plain _ ih | registered _ ih | switch _ ih => exact ih

/-- Inside a value of a tame type no record keeps members besides its fields. -/
theorem Within.extra_eq_nil {t : Ty} {v : Value} {c : Class} {fs : List (String × Value)}
    {extra : List (String × Json)} (hw : Within t v (.record c) (.record c fs extra)) (ht : t.tame = true)
    (hv : v.Whole) : extra = [] := by
  have htame := hw.tame ht
  rw [Ty.tame, Ty.everyClass_record, Bool.not_eq_true'] at htame
  cases hw.whole hv with
  | leaf hv => cases hv
  | record _ _ hx => exact hx (not_lossy htame).1

/-- A value of a tame type holds nothing that writing loses. -/
theorem Reads.recoverable {source : Source} {t : Ty} {j : Json} {v : Value} (h : Reads source t j v)
    (hr : t.regular = true) (ht : t.tame = true) : Recoverable t v where
  extra := fun hw m hm => by
    rw [hw.extra_eq_nil ht (h.whole hr)] at hm
    cases hm
  id := fun hw => absurd (hw.tame ht) (by decide)

/-! ## The round trip -/

/-- **Decoding undoes encoding.** -/
theorem decodeData_encodeAs {t : Ty} (ht : InLibrary t) (hs : t.core ≠ workspaceSymbolResponse) {d : Json}
    (hd : d.Finite) {v : Value} (h : decodeData t d = .ok v) (hv : Recoverable t v) :
    decodeData t (v.encodeAs t) = .ok v := by
  rw [Outcome.decodeData_eq_ok] at h ⊢
  rw [encodeAs_eq_encode ht.regular h]
  exact (reads_of_decode t d h).read_back ht.regular (ht.invertible hs) hd hv .data

/-- A position with an unknown member is read, written without it and read back. -/
theorem position_read_back :
    decodeData (.record .position) (.obj [("line", .int 1), ("character", .int 2), ("column", .int 2)]) =
        .ok (.record .position [("line", .int 1), ("character", .int 2)] []) ∧
      decodeData (.record .position)
          (Value.encodeAs (.record .position) (.record .position [("line", .int 1), ("character", .int 2)] [])) =
        .ok (.record .position [("line", .int 1), ("character", .int 2)] []) := by
  have hf : recordOf .position = position := rfl
  have hread : decodeData (.record .position) (.obj [("line", .int 1), ("character", .int 2), ("column", .int 2)]) =
      .ok (.record .position [("line", .int 1), ("character", .int 2)] []) := by
    rw [Outcome.decodeData_eq_ok]
    simp [decode, decodeRecord, decodeFields, hf, position, record, required, findField?, Members.find?, Ty.uint32,
      decodeBounded, Outcome.both, Outcome.map, Outcome.within]
  have hfinite : (Json.obj [("line", .int 1), ("character", .int 2), ("column", .int 2)]).Finite :=
    .obj (by simp [Json.Finite.int])
  have hreads := reads_of_decode _ _ (Outcome.decodeData_eq_ok.1 hread)
  exact ⟨hread,
    decodeData_encodeAs (.record _) (fun h => by cases h) hfinite hread (hreads.recoverable rfl (by decide))⟩

end LspWire
