import LspWire.Document.Construct
import LspWire.Proofs.DocumentLines
import LspWire.Proofs.Reading

/-!
# Edits of a document

The event of an edit tells how many characters of the old text the edit replaces. They are counted in the lines of the
text, which are those of the document up to the first other boundary, but for an empty last one. So the event is right
for every edit that ends before another boundary and not on the empty last line, if its length has 32 bits
(`rangeChange_iff`). On the empty last line no event is made, and behind another boundary the edit of all that stands
before is told to be shorter than it is, or not at all.
-/

namespace LspWire

open Schema Text Construct

/-! ## Positions and ranges as data -/

/-- The largest number of 32 bits without a sign. -/
def uint32Max : Nat := 4294967295

theorem decode_uint32 {source : Source} {n : Nat} (h : n ≤ uint32Max) :
    decode source Ty.uint32 (.int n) = .ok (.int n) := by
  rw [uint32Max] at h
  rw [Ty.uint32, decode, decodeBounded, if_neg (by omega), if_neg (by omega)]

theorem decode_uint32_of_lt {source : Source} {n : Nat} (h : uint32Max < n) :
    decode source Ty.uint32 (.int n) = Outcome.fail (.above uint32Max) := by
  rw [uint32Max] at *
  rw [Ty.uint32, decode, decodeBounded, if_neg (by omega), if_pos (by omega)]
  rfl

/-- The numbers of a position have 32 bits. -/
structure Position.Fits (p : Position) : Prop where
  line : p.line ≤ uint32Max
  character : p.character ≤ uint32Max

theorem Position.encode_toValue (p : Position) :
    p.toValue.encode = .obj [("line", .int p.line), ("character", .int p.character)] := by
  have hf : recordOf .position = position := rfl
  simp [toValue, Value.encode, Value.encodeFields, Value.fieldNamed?, hf, position, record, required, Value.isVoid]

theorem Position.Fits.decode {source : Source} {p : Position} (h : p.Fits) :
    decode source (.record .position) p.toValue.encode = .ok p.toValue := by
  have hf : recordOf .position = position := rfl
  rw [p.encode_toValue, decode_record]
  simp [decodeRecord, decodeFields, hf, position, record, required, findField?, Members.find?, decode_uint32 h.line,
    decode_uint32 h.character, toValue, Outcome.both, Outcome.map, Outcome.within]

theorem Range.encode_toValue (r : Range) :
    r.toValue.encode = .obj [("start", r.first.toValue.encode), ("end", r.last.toValue.encode)] := by
  have hf : recordOf .range = range := rfl
  simp [toValue, Value.encode, Value.encodeFields, Value.fieldNamed?, hf, range, record, required, Value.isVoid,
    Position.toValue]

theorem Range.decode_toValue {source : Source} {r : Range} (hfirst : r.first.Fits) (hlast : r.last.Fits) :
    decode source (.record .range) r.toValue.encode = .ok r.toValue := by
  have hf : recordOf .range = range := rfl
  rw [r.encode_toValue, decode_record]
  simp [decodeRecord, decodeFields, hf, range, record, required, findField?, Members.find?, hfirst.decode,
    hlast.decode, toValue, Outcome.both, Outcome.map, Outcome.within]

/-! ## Events -/

/-- The members that an event of an edit is made of. -/
def changeMembers (r : Range) (n : Nat) (text : String) : List (String × Json) :=
  [("range", r.toValue.encode), ("rangeLength", .int n), ("text", .str text)]

/-- The event that tells the new text of a range and how many characters it had. -/
def changeEvent (r : Range) (n : Nat) (text : String) : Value :=
  .record .textDocumentContentChangeEvent [("range", r.toValue), ("rangeLength", .int n), ("text", .str text)] []

variable {r : Range} {old : String}

theorem changeEvent_inj {n m : Nat} {text : String} (h : changeEvent r n text = changeEvent r m text) : n = m := by
  have hlength : (n : Int) = m := by simpa [changeEvent] using h
  exact Int.ofNat_inj.1 hlength

theorem rangeChange_eq (r : Range) (text old : String) : rangeChange r (.str text) old =
    (r.length? old).map fun n => make .textDocumentContentChangeEvent (changeMembers r n text) := by
  rw [rangeChange]
  cases r.length? old <;> rfl

/-- An event is made, or its length is refused as one that has more than 32 bits. -/
theorem make_change (hfirst : r.first.Fits) (hlast : r.last.Fits) (n : Nat) (text : String) :
    make .textDocumentContentChangeEvent (changeMembers r n text) =
      if n ≤ uint32Max then .ok (changeEvent r n text)
      else .error [⟨.above uint32Max, [.key "rangeLength"]⟩] := by
  have hf : recordOf .textDocumentContentChangeEvent = textDocumentContentChangeEvent := rfl
  have hrange : decode .data (.optional (.record .range)) r.toValue.encode = .ok r.toValue := by
    rw [r.encode_toValue, decode_optional_of_ne (by simp), ← r.encode_toValue, Range.decode_toValue hfirst hlast]
  have hoptional : decode .data (.optional .uint32) (.int n) = decode .data .uint32 (.int n) :=
    decode_optional_of_ne (by simp)
  have htext : decode .data .str (.str text) = .ok (.str text) := by rw [decode, decodeStr]
  -- Only the length can be refused: the range and the text are read as they are.
  have hmake : make .textDocumentContentChangeEvent (changeMembers r n text) =
      ((decode .data .uint32 (.int n)).within (.key "rangeLength")).map fun v =>
        .record .textDocumentContentChangeEvent [("range", r.toValue), ("rangeLength", v), ("text", .str text)] [] := by
    cases h : decode .data .uint32 (.int n) <;>
      simp [make, changeMembers, decodeRecord, decodeFields, hf, textDocumentContentChangeEvent, record,
        Schema.optional, required, findField?, Members.find?, hrange, hoptional, h, htext, Outcome.both, Outcome.map,
        Outcome.within]
  rw [hmake]
  split
  · next h => rw [decode_uint32 h]; rfl
  · next h => rw [decode_uint32_of_lt (Nat.lt_of_not_le h)]; rfl

/-! ## Edits -/

/-- A range of a document: its positions can be written and are in order, and its last line is one of the document. -/
structure Range.InDocument (r : Range) (old : String) : Prop where
  first : r.first.Fits
  last : r.last.Fits
  ordered : r.first ≤ r.last
  line_lt : r.last.line < (documentLines old.toList).length

theorem Text.Clear.mono {ls : List (List Char)} {p q : Position} (h : Clear ls q) (hpq : p ≤ q) : Clear ls p :=
  fun x hx hbefore => h x hx (Position.before_of_before_of_le hbefore hpq)

/-- Before other boundaries, the length of a range is the number of characters that it covers in the document. -/
theorem length?_of_clear (hr : r.InDocument old) (hclear : Clear (documentLines old.toList) r.last)
    (hlast : ¬ OnEmptyLastLine (documentLines old.toList) r.last) :
    r.length? old = some (r.covered (documentLines old.toList)) := by
  have hsplits := splits old.toList
  obtain ⟨n, hn, hsum⟩ := Range.length?_add_offset hr.ordered (hsplits.lt_length _ hr.line_lt hlast)
  have hcovered := Range.offset_add_covered hr.ordered (documentLines old.toList)
  rw [(hsplits.offset_eq_iff _).2 hclear, (hsplits.offset_eq_iff _).2 (hclear.mono hr.ordered)] at hsum
  rw [hn]
  exact congrArg some (by omega)

/-- A range that ends on the empty last line has no length. -/
theorem length?_of_onEmptyLastLine (hclear : Clear (documentLines old.toList) r.last)
    (hlast : OnEmptyLastLine (documentLines old.toList) r.last) : r.length? old = none := by
  rw [Range.length?_eq_none_iff]
  exact Nat.le_trans ((splits old.toList).length_le _ hlast hclear) (Nat.le_max_right _ _)

/-- Behind another boundary, the length of all before a position is not what it covers in the document. -/
theorem length?_of_not_clear {q : Position} (hclear : ¬ Clear (documentLines old.toList) q) :
    Range.length? ⟨⟨0, 0⟩, q⟩ old ≠ some (Range.covered ⟨⟨0, 0⟩, q⟩ (documentLines old.toList)) := by
  intro h
  have hle : (⟨0, 0⟩ : Position) ≤ q := by rw [Position.le_def]; dsimp only; omega
  have hline : q.line < (lines old.toList).length := by
    refine Nat.lt_of_not_le fun hlines => ?_
    rw [(Range.length?_eq_none_iff _ _).2 (Nat.le_trans hlines (Nat.le_max_right _ _))] at h
    cases h
  obtain ⟨n, hn, hsum⟩ := Range.length?_add_offset (r := ⟨⟨0, 0⟩, q⟩) hle hline
  have hcovered := Range.offset_add_covered (r := ⟨⟨0, 0⟩, q⟩) hle (documentLines old.toList)
  have hstart : ∀ ls, Position.offset ls ⟨0, 0⟩ = 0 := fun ls => by simp [Position.offset]
  refine hclear (((splits old.toList).offset_eq_iff q).1 ?_)
  rw [hn] at h
  rw [hstart] at hsum hcovered
  exact (hsum.symm.trans (congrArg _ (Option.some.inj h))).trans hcovered

/-- **The event of an edit is made, with the number of characters that it replaces, exactly if the edit does not end on
    the empty last line and the number has 32 bits.** This holds of every edit before another boundary; behind one, the
    edit from the start of the document is told with a wrong length, or not at all. -/
theorem rangeChange_iff (hr : r.InDocument old) (text : String) :
    (Clear (documentLines old.toList) r.last →
      (rangeChange r (.str text) old = some (.ok (changeEvent r (r.covered (documentLines old.toList)) text)) ↔
        ¬ OnEmptyLastLine (documentLines old.toList) r.last ∧ r.covered (documentLines old.toList) ≤ uint32Max) ∧
      (rangeChange r (.str text) old = none ↔ OnEmptyLastLine (documentLines old.toList) r.last)) ∧
    (¬ Clear (documentLines old.toList) r.last → r.first = ⟨0, 0⟩ →
      rangeChange r (.str text) old ≠ some (.ok (changeEvent r (r.covered (documentLines old.toList)) text))) := by
  rw [rangeChange_eq]
  refine ⟨fun hclear => ?_, fun hclear hstart => ?_⟩
  · by_cases hlast : OnEmptyLastLine (documentLines old.toList) r.last
    · simp [length?_of_onEmptyLastLine hclear hlast, hlast]
    · rw [length?_of_clear hr hclear hlast, Option.map_some, make_change hr.first hr.last]
      by_cases hn : r.covered (documentLines old.toList) ≤ uint32Max <;> simp [hn, hlast]
  · obtain ⟨first, last⟩ := r
    subst hstart
    have hne := length?_of_not_clear hclear
    cases hlength : Range.length? ⟨⟨0, 0⟩, last⟩ old with
    | none => simp
    | some n =>
      rw [hlength] at hne
      rw [Option.map_some, make_change hr.first hr.last]
      split
      · intro h
        exact hne (congrArg some (changeEvent_inj (Except.ok.inj (Option.some.inj h))))
      · simp

/-- An edit over two line breaks is told with the characters between them. -/
theorem edit_over_breaks_told :
    Range.InDocument ⟨⟨0, 1⟩, ⟨2, 1⟩⟩ "abc\r\ndef\rghi" ∧
      rangeChange ⟨⟨0, 1⟩, ⟨2, 1⟩⟩ (.str "x") "abc\r\ndef\rghi" =
        some (.ok (changeEvent ⟨⟨0, 1⟩, ⟨2, 1⟩⟩ 6 "x")) := by
  have hr : Range.InDocument ⟨⟨0, 1⟩, ⟨2, 1⟩⟩ "abc\r\ndef\rghi" :=
    ⟨⟨by decide, by decide⟩, ⟨by decide, by decide⟩, by decide, by decide⟩
  have hclear : Clear (documentLines "abc\r\ndef\rghi".toList) ⟨2, 1⟩ := by unfold Clear; decide
  have hlast : ¬ OnEmptyLastLine (documentLines "abc\r\ndef\rghi".toList) ⟨2, 1⟩ := by unfold OnEmptyLastLine; decide
  exact ⟨hr, ((rangeChange_iff hr "x").1 hclear).1.2 ⟨hlast, by decide⟩⟩

/-- The empty document has no event for the edit at its start, and an edit over a vertical tab is told to be shorter
    than it is. -/
theorem edits_not_told :
    (Range.InDocument ⟨⟨0, 0⟩, ⟨0, 0⟩⟩ "" ∧ rangeChange ⟨⟨0, 0⟩, ⟨0, 0⟩⟩ (.str "x") "" = none) ∧
    (Range.InDocument ⟨⟨0, 0⟩, ⟨0, 3⟩⟩ "a\x0bb" ∧
      Range.covered ⟨⟨0, 0⟩, ⟨0, 3⟩⟩ (documentLines "a\x0bb".toList) = 3 ∧
      rangeChange ⟨⟨0, 0⟩, ⟨0, 3⟩⟩ (.str "x") "a\x0bb" = some (.ok (changeEvent ⟨⟨0, 0⟩, ⟨0, 3⟩⟩ 1 "x"))) := by
  have hfirst : Position.Fits ⟨0, 0⟩ := ⟨by decide, by decide⟩
  have hlast : Position.Fits ⟨0, 3⟩ := ⟨by decide, by decide⟩
  have hlength : Range.length? ⟨⟨0, 0⟩, ⟨0, 3⟩⟩ "a\x0bb" = some 1 := by decide
  refine ⟨⟨⟨hfirst, hfirst, by decide, by decide⟩, by rw [rangeChange_eq]; rfl⟩,
    ⟨hfirst, hlast, by decide, by decide⟩, by decide, ?_⟩
  rw [rangeChange_eq, hlength, Option.map_some, make_change hfirst hlast, if_pos (by decide)]

end LspWire
