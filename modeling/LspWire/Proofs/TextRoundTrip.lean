import LspWire.Proofs.JsonText
import LspWire.Proofs.Lossless

/-!
# The text of a value is read back

`decodeText_toTextAs`: a value whose numbers are integers of few enough digits is written by its type and by itself as
the same text; this is the text of its JSON value, and it is read back as the value. Nothing depends on the characters
in its strings or on how deep it is.

The reader takes an integer of at most 4300 digits, so a longer one is written and not read (`long_integer_not_read`).
-/

namespace LspWire

open Schema

/-! ## Values without floats are written as they are -/

namespace Json

mutual

/-- Where all numbers are finite there is nothing to settle. -/
theorem settled_eq : ∀ {j : Json}, (∀ x, .inr x ∈ j.numbers → x.isFinite = true) → j.settled = j
  | .null, _ | .bool _, _ | .int _, _ | .str _, _ => rfl
  | .float x, h => by rw [settled, if_pos (h x List.mem_cons_self)]
  | .arr items, h => by rw [settled, settledItems_eq h]
  | .obj ms, h => by rw [settled, settledMembers_eq h]

theorem settledItems_eq : ∀ {js : List Json}, (∀ x, .inr x ∈ itemNumbers js → x.isFinite = true) →
    settledItems js = js
  | [], _ => rfl
  | j :: js, h => by
    simp only [itemNumbers, List.mem_append, or_imp, forall_and] at h
    rw [settledItems, settled_eq h.1, settledItems_eq h.2]

theorem settledMembers_eq : ∀ {ms : List (String × Json)}, (∀ x, .inr x ∈ memberNumbers ms → x.isFinite = true) →
    settledMembers ms = ms
  | [], _ => rfl
  | (k, j) :: ms, h => by
    simp only [memberNumbers, List.mem_append, or_imp, forall_and] at h
    rw [settledMembers, settled_eq h.1, settledMembers_eq h.2]

end

end Json

namespace Value

mutual

/-- By itself a value with finite numbers is written as its JSON value. -/
theorem written_eq : ∀ {v : Value}, v.Finite → v.written = v.encode
  | .null, _ | .bool _, _ | .int _, _ | .float _, _ | .str _, _ | .uri _, _ | .intEnum .., _ | .openEnum .., _
  | .closedEnum .., _ | .watchKind _, _ | .untyped _, _ => rfl
  | .list vs, h => by
    rw [written, encode, writtenItems_eq fun v hv => h.item hv]
  | .pair v w, h => by
    rw [written, encode, written_eq h.first, written_eq h.second]
  | .map keys es, h => by
    rw [written, encode, writtenEntries_eq fun e he => h.entry he]
  | .record c fs extra, h => by
    rw [written, Json.settled_eq fun x hx => h x (mem_numbers_of_encode hx)]

theorem writtenItems_eq : ∀ {vs : List Value}, (∀ v ∈ vs, v.Finite) → writtenItems vs = encodeItems vs
  | [], _ => rfl
  | v :: vs, h => by
    rw [List.forall_mem_cons] at h
    rw [writtenItems, encodeItems, written_eq h.1, writtenItems_eq h.2]

theorem writtenEntries_eq : ∀ {es : List (String × Value)}, (∀ e ∈ es, e.2.Finite) →
    writtenEntries es = encodeEntries es
  | [], _ => rfl
  | (k, v) :: es, h => by
    rw [List.forall_mem_cons] at h
    rw [writtenEntries, encodeEntries, written_eq h.1, writtenEntries_eq h.2]

end

/-- A value that holds integers only has finite numbers. -/
theorem Finite.of_shortInt {v : Value} (h : ∀ y ∈ v.numbers, Json.ShortInt y) : v.Finite :=
  fun _ hx => (h _ hx).elim

/-- The text of a value with finite numbers is that of its JSON value. -/
theorem toText_eq {v : Value} (h : v.Finite) : v.toText = v.encode.toText := by rw [toText, written_eq h]

/-- A value of short integers and its JSON value are two forms of the same text. -/
theorem ofText?_toText {v : Value} (h : ∀ y ∈ v.numbers, Json.ShortInt y) : Json.ofText? v.toText = some v.encode := by
  rw [toText_eq (Finite.of_shortInt h)]
  exact Json.ofText?_toText fun y hy => h y (mem_numbers_of_encode hy)

end Value

/-! ## The round trip through text -/

theorem decodeParsed_eq_ok {t : Ty} {j : Json} {v : Value} :
    decodeParsed t (some j) = .ok v ↔ decode .text t j = .ok v := by
  simp only [decodeParsed]
  cases decode .text t j with
  | ok w => exact ⟨fun h => by cases h; rfl, fun h => by cases h; rfl⟩
  | error is => exact iff_of_false (fun h => by cases h) fun h => by cases h

/-- What was read from data or from a text is read back from the text that it is written as. -/
theorem Reads.text_read_back {source : Source} {t : Ty} {j : Json} {v : Value} (h : Reads source t j v)
    (hr : t.regular = true) (hi : t.invertible = true) (hv : Recoverable t v)
    (hn : ∀ y ∈ v.numbers, Json.ShortInt y) : decodeText t v.toText = .ok v := by
  rw [decodeText, Value.ofText?_toText hn, decodeParsed_eq_ok]
  exact h.read_back_of_finite hr hi (Value.Finite.of_shortInt hn) hv .text

/-- **The text codec loses nothing.** -/
theorem decodeText_toTextAs {t : Ty} (ht : InLibrary t) (hs : t.core ≠ workspaceSymbolResponse) {d : Json} {v : Value}
    (h : decodeData t d = .ok v) (hv : Recoverable t v) (hn : ∀ y ∈ v.numbers, Json.ShortInt y) :
    v.toTextAs t = v.toText ∧ Json.ofText? (v.toTextAs t) = some (v.encodeAs t) ∧
      decodeText t (v.toTextAs t) = .ok v := by
  rw [Outcome.decodeData_eq_ok] at h
  have hencode : v.encodeAs t = v.encode := encodeAs_eq_encode ht.regular h
  have hfinite : v.Finite := Value.Finite.of_shortInt hn
  have hsame : v.toTextAs t = v.toText := by
    rw [Value.toTextAs, hencode, Json.settled_eq fun x hx => hfinite x (Value.mem_numbers_of_encode hx),
      Value.toText_eq hfinite]
  refine ⟨hsame, ?_, ?_⟩
  · rw [hsame, hencode]
    exact Value.ofText?_toText hn
  · rw [hsame]
    exact (reads_of_decode t d h).text_read_back ht.regular (ht.invertible hs) hv hn

/-- A command with quotes, a backslash, control characters and a long integer is read back from its text. -/
theorem command_text_read_back :
    let n : Int := -123456789012345678901234567890
    let d : Json := .obj [("title", .str "\"\\\n"), ("command", .str "\x00\u2028é"), ("arguments", .arr [.int n, .null])]
    let v : Value := .record .command
      [("title", .str "\"\\\n"), ("command", .str "\x00\u2028é"),
        ("arguments", .list [.untyped (.int n), .untyped .null])] []
    decodeData (.record .command) d = .ok v ∧ v.toTextAs (.record .command) = v.toText ∧
      Json.ofText? (v.toTextAs (.record .command)) = some (v.encodeAs (.record .command)) ∧
      decodeText (.record .command) (v.toTextAs (.record .command)) = .ok v := by
  intro n d v
  have hf : recordOf .command = command := rfl
  have hread : decodeData (.record .command) d = .ok v := by
    rw [Outcome.decodeData_eq_ok]
    simp [d, v, decode, decodeRecord, decodeFields, decodeItems, hf, command, record, required, Schema.optional,
      findField?, Members.find?, decodeStr, Json.merged, Outcome.both, Outcome.map, Outcome.within]
  have hreads := reads_of_decode _ _ (Outcome.decodeData_eq_ok.1 hread)
  have hshort : ∀ y ∈ v.numbers, Json.ShortInt y := by
    rw [show v.numbers = [.inl n] from rfl]
    have hn : Json.Short n := by decide +kernel
    exact List.forall_mem_singleton.2 hn
  exact ⟨hread, decodeText_toTextAs (.record _) (fun h => by cases h) hread (hreads.recoverable rfl (by decide)) hshort⟩

/-- An integer with too many digits is not read from its text. -/
theorem decodeText_long {t : Ty} {n : Int} (h : ¬ Json.Short n) :
    decodeText t (Json.int n).toText = .error notJson := by
  have htokens : Json.tokens (Json.intText n) = none := by
    rw [← List.append_nil (Json.intText n), Json.tokens_word (Json.intText_ne_nil n) (fun d => Json.not_endsWord_intText)
      (by simp [Json.EndsWord]), Json.word?_intText, if_neg h, Option.bind_none]
  have hparse : Json.ofText? (Json.int n).toText = none := by
    rw [Json.ofText?, Json.toText, String.toList_ofList, Json.chars, htokens]
  rw [decodeText, hparse, decodeParsed]

/-- The least integer of 4301 digits is read from data and written, and its text is not read. -/
theorem long_integer_not_read :
    let v : Value := .untyped (.int (Nat.pow 10 Json.mostDigits))
    InLibrary .any ∧ decodeData .any (.int (Nat.pow 10 Json.mostDigits)) = .ok v ∧ Recoverable .any v ∧
      (∀ x, .inr x ∉ v.numbers) ∧ decodeText .any (v.toTextAs .any) = .error notJson := by
  have hlong : ¬ Json.Short (Nat.pow 10 Json.mostDigits) := by
    unfold Json.Short
    generalize Json.mostDigits = k
    exact Nat.lt_irrefl _
  generalize (Nat.pow 10 Json.mostDigits : Int) = n at hlong
  intro v
  have hany : ("LSPAny", Ty.any) ∈ namedTypes := by simp [namedTypes]
  have hread : decode .data .any (.int n) = .ok v := by
    rw [decode]
    rfl
  have hrecoverable := (reads_of_decode _ _ hread).recoverable rfl rfl
  refine ⟨.named hany, Outcome.decodeData_eq_ok.2 hread, hrecoverable, ?_, ?_⟩
  · intro x hx
    cases List.mem_singleton.1 hx
  · have htext : v.toTextAs .any = (Json.int n).toText := by
      rw [Value.toTextAs, encodeAs_eq_encode rfl hread]
      rfl
    rw [htext]
    exact decodeText_long hlong

end LspWire
