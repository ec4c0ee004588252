import LspWire.Proofs.Addressing
import LspWire.Proofs.TextRoundTrip

/-!
# Writing without a type

A value knows its class and the kind of each of its numbers and texts, so what it was read from need not be told when it
is written: at the type that it was read at it is written as it writes itself, as a JSON value and as text
(`typed_writing_agrees`). The same is true wherever reading the value came by a type: at every field, element and entry,
and in the arm of every union. The types that reading comes by are regular if the first one is (`Tried.regular`).
-/

namespace LspWire

open Schema

theorem Opens.regular {t u : Ty} {j x : Json} {steps : List Step} (h : Opens t j steps u x) (ht : t.regular = true) :
    u.regular = true := by
  cases h with
  | element _ | entry _ | optional _ => exact Ty.regular_inner ht List.mem_cons_self
  | first _ => exact (Ty.regular_pair ht).1
  | second => exact (Ty.regular_pair ht).2
  | field hf _ => exact (field_regular hf).ty
  | switch _ _ => exact (Ty.regular_switch ht).2
  | arm _ => exact Ty.regular_inner ht (by simp)
  | tagged _ hm => exact ((Ty.regular_tagged ht).2 _ (mem_of_lookup hm)).2
  | registered _ | plain _ | allowed _ => rfl

theorem Tried.regular {t u : Ty} {d j : Json} (h : Tried t d u j) (ht : t.regular = true) : u.regular = true := by
  induction h with
  | root => exact ht
  | next _ hopens ih => exact hopens.regular ih

/-- A value with finite numbers has one text if it is written at a type as it writes itself. -/
theorem Value.toTextAs_eq_toText {t : Ty} {v : Value} (hv : v.Finite) (h : v.encodeAs t = v.encode) :
    v.toTextAs t = v.toText := by
  have hsettled : v.encode.settled = v.encode := Json.settled_eq fun x hx => hv x (mem_numbers_of_encode hx)
  rw [toTextAs, h, hsettled, toText_eq hv]

/-- **A value that was decoded is written at its type as it writes itself**, and so is every value inside it at the type
    that it was read at. -/
theorem typed_writing_agrees {t : Ty} (ht : InLibrary t) {d : Json} (hd : d.Finite) {v : Value}
    (h : decodeData t d = .ok v) : v.encodeAs t = v.encode ∧ v.toTextAs t = v.toText ∧
      ∀ {u : Ty} {x : Json} {w : Value}, Tried t d u x → decodeData u x = .ok w → w.encodeAs u = w.encode := by
  have hpart : ∀ {u : Ty} {x : Json} {w : Value}, Tried t d u x → decodeData u x = .ok w → w.encodeAs u = w.encode :=
    fun htried hw => encodeAs_eq_encode (htried.regular ht.regular) (Outcome.decodeData_eq_ok.1 hw)
  have hfinite : v.Finite := (reads_of_decode _ _ (Outcome.decodeData_eq_ok.1 h)).finite ht.regular hd
  have hwhole := hpart .root h
  exact ⟨hwhole, Value.toTextAs_eq_toText hfinite hwhole, hpart⟩

/-- The changes of a workspace have identifiers for keys, which are written alike with the type of the edit and
    without. -/
theorem changes_written_alike :
    let d : Json := .obj [("changes", .obj [("file:///a", .arr [])]), ("metadata", .null)]
    ∃ v, decodeData (.record .workspaceEdit) d = .ok v ∧ v.encodeAs (.record .workspaceEdit) = v.encode ∧
      v.toTextAs (.record .workspaceEdit) = "\x7b\"changes\":\x7b\"file:///a\":[]\x7d\x7d" ∧
      ∀ {u : Ty} {x : Json} {w : Value}, Tried (.record .workspaceEdit) d u x → decodeData u x = .ok w →
        w.encodeAs u = w.encode := by
  intro d
  have hf : recordOf .workspaceEdit = workspaceEdit := rfl
  have hvalid : (Uri.split "file:///a".toList).problem? = none := by decide +kernel
  have hkey : decodeKey .uri "file:///a" = .ok () := by
    rw [decodeKey, Uri.parse_eq_ok (u := ⟨"file:///a", hvalid⟩) |>.2 rfl]
  have hread : decodeData (.record .workspaceEdit) d = .ok (.record .workspaceEdit
      [("changes", .map .uri [("file:///a", .list [])]), ("documentChanges", .null), ("changeAnnotations", .null)]
      []) := by
    rw [Outcome.decodeData_eq_ok]
    simp [d, decode, decodeRecord, decodeFields, hf, workspaceEdit, record, Schema.optional, findField?, Members.find?,
      decodeAbsent, decodeEntries, decodeItems, hkey, Members.merge, Members.put, Outcome.both, Outcome.map,
      Outcome.within]
  have hfinite : d.Finite := .obj (by simp [Json.Finite.obj, Json.Finite.arr, Json.Finite.null])
  obtain ⟨hencode, htext, hparts⟩ := typed_writing_agrees (.record _) hfinite hread
  exact ⟨_, hread, hencode, htext.trans (by decide +kernel), hparts⟩

end LspWire
