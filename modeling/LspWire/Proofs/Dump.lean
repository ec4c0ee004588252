import LspWire.Graph.Dump
import LspWire.Proofs.TextRoundTrip

/-!
# Dumps read back

A dump is framed by its line feeds: the text of an entry holds no control character and is not blank
(`not_control_entryText`, `not_blank_entryText`), whatever strings the entry holds. So a dump splits into the texts of
its entries (`textLines_dump`), each of which is read as its entry (`decodeEntry_entryText`).

Reading lines looks at the lines that are not blank only, and stops at the first of them that is no entry
(`readLines_cases`). `readLines_dump` puts the two together.
-/

namespace LspWire

open Schema

namespace Graph

/-! ## Lines -/

/-- The lines of a text, as line feeds separate them. -/
def textLines (s : String) : List String := (s.toList.splitOn '\n').map String.ofList

/-- The lines that are not blank. -/
def content (ls : List String) : List String := ls.filter fun l => !Text.isBlankLine l

/-! ## Reading lines -/

theorem content_cons_of_blank {l : String} {ls : List String} (h : Text.isBlankLine l = true) :
    content (l :: ls) = content ls :=
  List.filter_cons_of_neg (by simp [h])

theorem content_cons {l : String} {ls : List String} (h : Text.isBlankLine l = false) :
    content (l :: ls) = l :: content ls :=
  List.filter_cons_of_pos (by simp [h])

/-- What reading lines comes to: all that are not blank are entries, or those before the first that is none are. -/
inductive Stops (ls : List String) : List Value × Option (List Report) → Prop
  | finished {vs : List Value} : (content ls).map decodeEntry = vs.map .ok → Stops ls (vs, none)
  | failed (pre : List String) {post : List String} {l : String} {vs : List Value} {rs : List Report} :
      ls = pre ++ l :: post → (content pre).map decodeEntry = vs.map .ok → Text.isBlankLine l = false →
      decodeEntry l = .error rs → Stops ls (vs, some rs)

/-- A blank line changes nothing. -/
theorem Stops.blank {l : String} {ls : List String} {r : List Value × Option (List Report)} (h : Stops ls r)
    (hl : Text.isBlankLine l = true) : Stops (l :: ls) r := by
  cases h with
  | finished hvs => exact .finished (by rwa [content_cons_of_blank hl])
  | failed pre hls hvs hbad hrs =>
    exact .failed (l :: pre) (by rw [hls, List.cons_append]) (by rwa [content_cons_of_blank hl]) hbad hrs

/-- An entry is read before what the other lines hold. -/
theorem Stops.entry {l : String} {ls : List String} {v : Value} {r : List Value × Option (List Report)} (h : Stops ls r)
    (hl : Text.isBlankLine l = false) (hv : decodeEntry l = .ok v) : Stops (l :: ls) (v :: r.1, r.2) := by
  cases h with
  | finished hvs => exact .finished (by rw [content_cons hl, List.map_cons, List.map_cons, hv, hvs])
  | failed pre hls hvs hbad hrs =>
    exact .failed (l :: pre) (by rw [hls, List.cons_append])
      (by rw [content_cons hl, List.map_cons, List.map_cons, hv, hvs]) hbad hrs

/-- **Reading yields the entries before the first line that is none.** -/
theorem readLines_cases (ls : List String) : Stops ls (readLines ls) := by
  induction ls with
  | nil => exact .finished rfl
  | cons l ls ih =>
    rw [readLines]
    split
    · next hl => exact ih.blank hl
    · next hl =>
      have hl : Text.isBlankLine l = false := Bool.eq_false_iff.2 hl
      split
      · next v hv => exact ih.entry hl hv
      · next rs hrs => exact .failed [] rfl rfl hl hrs

/-- Lines that are blank or entries are read to the end. -/
theorem readLines_of_content : ∀ {ls : List String} {vs : List Value}, (content ls).map decodeEntry = vs.map .ok →
    readLines ls = (vs, none)
  | [], vs, h => by
    rw [List.map_eq_nil_iff.1 h.symm, readLines]
  | l :: ls, vs, h => by
    rw [readLines]
    cases hl : Text.isBlankLine l with
    | true =>
      rw [content_cons_of_blank hl] at h
      exact readLines_of_content h
    | false =>
      rw [content_cons hl, List.map_cons] at h
      obtain ⟨v, ws, rfl, hv, hws⟩ := List.map_eq_cons_iff.1 h.symm
      simp only [← hv, readLines_of_content hws.symm, Bool.false_eq_true, if_false]

/-! ## The text of an entry -/

/-- An entry that was read from a line and holds no float. -/
structure Dumpable (v : Value) : Prop where
  entry : ∃ line, decodeEntry line = .ok v
  float : ∀ x, .inr x ∉ v.numbers

/-- An entry was read from a JSON value with short integers. -/
theorem Dumpable.reads {v : Value} (h : Dumpable v) :
    ∃ j, Reads .text Schema.entry j v ∧ ∀ n, .inl n ∈ j.numbers → Json.Short n := by
  obtain ⟨line, hline⟩ := h.entry
  rw [decodeEntry, decodeText] at hline
  cases hj : Json.ofText? line with
  | none =>
    rw [hj] at hline
    cases hline
  | some j =>
    rw [hj, decodeParsed_eq_ok] at hline
    exact ⟨j, reads_of_decode _ j hline, fun n hn => Json.short_of_ofText? hj hn⟩

theorem entry_regular : Schema.entry.regular = true := by decide +kernel

theorem entry_invertible : Schema.entry.invertible = true := by decide +kernel

theorem entry_tame : Schema.entry.tame = true := by decide +kernel

namespace Dumpable

variable {v : Value} (h : Dumpable v)

include h

theorem finite : v.Finite := fun x hx => absurd hx (h.float x)

/-- The numbers of an entry are integers that were read, and so are short. -/
theorem shortInt : ∀ y ∈ v.numbers, Json.ShortInt y := by
  intro y hy
  obtain ⟨j, hreads, hshort⟩ := h.reads
  cases y with
  | inl n =>
    rcases hreads.numbers entry_regular hy with hn | ⟨m, -, -, hm⟩
    · exact hshort n hn
    · cases hm
  | inr x => exact absurd hy (h.float x)

theorem isRecord : ∃ c fs extra, v = .record c fs extra := by
  obtain ⟨j, hreads, -⟩ := h.reads
  exact hreads.isRecord entry_regular rfl

theorem toList_entryText : (entryText v).toList = v.encode.chars := by
  rw [entryText, Value.toText_eq h.finite, Json.toText, String.toList_ofList]

theorem not_control_entryText : ∀ c ∈ (entryText v).toList, ¬ c < ' ' := by
  rw [h.toList_entryText]
  exact Json.not_control_chars fun x hx => h.float x (Value.mem_numbers_of_encode hx)

theorem not_newline_entryText : '\n' ∉ (entryText v).toList :=
  fun hc => h.not_control_entryText _ hc (by decide)

/-- The text of an entry begins with a brace. -/
theorem not_blank_entryText : Text.isBlankLine (entryText v) = false := by
  obtain ⟨c, fs, extra, rfl⟩ := h.isRecord
  rw [Text.isBlankLine, h.toList_entryText, Value.encode]
  cases Value.encodeFields c fs ++ extra.filter fun m => !m.2.isVoid with
  | nil => rfl
  | cons m ms => rfl

/-- **An entry is read from its text.** -/
theorem decodeEntry_entryText : decodeEntry (entryText v) = .ok v := by
  obtain ⟨j, hreads, -⟩ := h.reads
  exact hreads.text_read_back entry_regular entry_invertible (hreads.recoverable entry_regular entry_tame) h.shortInt

end Dumpable

/-! ## The lines of a dump -/

section Dump

variable {vs : List Value} (h : ∀ v ∈ vs, Dumpable v)

theorem dump_cons (v : Value) (vs : List Value) : (dump (v :: vs)).toList =
    (entryText v).toList ++ '\n' :: (dump vs).toList := by
  simp [dump, String.toList_join]

include h

theorem count_newline_dump : (dump vs).toList.count '\n' = vs.length := by
  induction vs with
  | nil => rfl
  | cons v vs ih =>
    rw [List.forall_mem_cons] at h
    rw [dump_cons, List.count_append, List.count_eq_zero.2 h.1.not_newline_entryText, List.count_cons_self, ih h.2,
      Nat.zero_add, List.length_cons]

theorem control_dump : ∀ c ∈ (dump vs).toList, c < ' ' → c = '\n' := by
  induction vs with
  | nil => exact fun c hc => absurd hc List.not_mem_nil
  | cons v vs ih =>
    rw [List.forall_mem_cons] at h
    intro c hc hlt
    rw [dump_cons, List.mem_append, List.mem_cons] at hc
    rcases hc with hc | rfl | hc
    · exact absurd hlt (h.1.not_control_entryText c hc)
    · rfl
    · exact ih h.2 c hc hlt

/-- **A dump splits into the texts of its entries.** -/
theorem textLines_dump : textLines (dump vs) = vs.map entryText ++ [""] := by
  induction vs with
  | nil => rfl
  | cons v vs ih =>
    rw [List.forall_mem_cons] at h
    have hrest := ih h.2
    rw [textLines] at hrest ⊢
    rw [dump_cons, List.splitOn_append_cons_self_of_not_mem h.1.not_newline_entryText, List.map_cons, hrest,
      String.ofList_toList, List.map_cons, List.cons_append]

theorem content_textLines_dump : content (textLines (dump vs)) = vs.map entryText := by
  have hfull : content (vs.map entryText) = vs.map entryText := by
    refine List.filter_eq_self.2 fun l hl => ?_
    obtain ⟨v, hv, rfl⟩ := List.mem_map.1 hl
    rw [(h v hv).not_blank_entryText]
    rfl
  rw [textLines_dump h, content, List.filter_append]
  rw [content] at hfull
  rw [hfull]
  exact List.append_nil _

/-- The lines of a dump are read as its entries, whatever blank lines are put among them. -/
theorem readLines_of_dump {ls : List String} (hls : content ls = content (textLines (dump vs))) :
    readLines ls = (vs, none) := by
  refine readLines_of_content ?_
  rw [hls, content_textLines_dump h, List.map_map]
  exact List.map_congr_left fun v hv => (h v hv).decodeEntry_entryText

end Dump

/-- **A dump is read back as its entries, and lines are read up to the first that is no entry.** -/
theorem readLines_dump :
    (∀ vs : List Value, (∀ v ∈ vs, Dumpable v) →
      (dump vs).toList.count '\n' = vs.length ∧ (∀ c ∈ (dump vs).toList, c < ' ' → c = '\n') ∧
      (∃ ls, textLines (dump vs) = ls ++ [""] ∧ ls.length = vs.length ∧ ∀ l ∈ ls, Text.isBlankLine l = false) ∧
      (∀ ls, content ls = content (textLines (dump vs)) → readLines ls = (vs, none)) ∧
      dump (readLines (textLines (dump vs))).1 = dump vs) ∧
    ∀ ls, Stops ls (readLines ls) := by
  refine ⟨fun vs h => ⟨count_newline_dump h, control_dump h, ⟨vs.map entryText, textLines_dump h, ?_, ?_⟩, ?_, ?_⟩,
    readLines_cases⟩
  · exact List.length_map _
  · intro l hl
    obtain ⟨v, hv, rfl⟩ := List.mem_map.1 hl
    exact (h v hv).not_blank_entryText
  · exact fun ls => readLines_of_dump h
  · rw [readLines_of_dump h rfl]

/-- A vertex whose key is a line feed is dumped on one line and read back. -/
theorem resultSet_dump_read_back :
    let v : Value := .record .resultSet
      [("id", .str "a"), ("type", .str "vertex"), ("label", .str "resultSet"), ("key", .str "\n")] []
    Dumpable v ∧ (dump [v, v]).toList.count '\n' = 2 ∧ readLines (textLines (dump [v, v])) = ([v, v], none) := by
  intro v
  let d : Json := .obj [("id", .str "a"), ("type", .str "vertex"), ("label", .str "resultSet"), ("key", .str "\n")]
  have hfields : (recordOf .resultSet).fields =
      [required "id" .numberOrString, tag "type" "vertex", tag "label" "resultSet", Schema.optional "key" .str] := rfl
  have hkeeps : (recordOf .resultSet).keepsExtra = false := rfl
  have hread : decode .text Schema.entry d = .ok v := by
    refine decode_tagged_eq_ok.2 ⟨_, "vertex", vertex, rfl, rfl, rfl, ?_⟩
    refine decode_tagged_eq_ok.2 ⟨_, "resultSet", .record .resultSet, rfl, rfl, rfl, ?_⟩
    simp [v, decode, decodeRecord, decodeFields, decodeFirst, hfields, hkeeps, required, tag, Schema.optional,
      findField?, Members.find?, decodeStr, decodeLiteral, decodeBounded, Ty.numberOrString, Ty.int32, Outcome.both,
      Outcome.map, Outcome.within, Outcome.orElse, Outcome.fail]
  have hv : Dumpable v := by
    refine ⟨⟨d.toText, ?_⟩, fun x hx => absurd hx List.not_mem_nil⟩
    rw [decodeEntry, decodeText, Json.ofText?_toText fun y hy => absurd hy List.not_mem_nil, decodeParsed_eq_ok]
    exact hread
  have hvs : ∀ w ∈ [v, v], Dumpable w := by
    intro w hw
    rcases List.mem_cons.1 hw with rfl | hw
    · exact hv
    · exact List.mem_singleton.1 hw ▸ hv
  obtain ⟨hcount, -, -, hlines, -⟩ := readLines_dump.1 [v, v] hvs
  exact ⟨hv, hcount, hlines _ rfl⟩

end Graph

end LspWire
