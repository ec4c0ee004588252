import LspWire.Proofs.Offsets

/-!
# The lines of a document

A document has one more line than it has line breaks, and only `\n`, `\r\n` and `\r` break a line
(`Text.documentLines`). A text splits at other boundaries too, and has no empty last line (`Text.lines`). Both ways of
splitting go through the text side by side (`Text.Splits`). So up to a position, both count the same characters exactly
if no other boundary stands before it (`Splits.offset_eq_iff`), and a line of the document is one of the text unless it
is an empty last one (`Splits.lt_length`, `Splits.length_le`).
-/

namespace LspWire

open Position

/-! ## Characters at positions -/

/-- The same character in the next line. -/
def Position.nextLine (p : Position) : Position := ⟨p.line + 1, p.character⟩

namespace Text

variable {ls ds : List (List Char)} {l : List Char} {c : Char}

/-- The characters of lines, each with its position. -/
def placed : List (List Char) → List (Position × Char)
  | [] => []
  | l :: ls => (l.zipIdx.map fun x => (⟨0, x.2⟩, x.1)) ++ (placed ls).map fun x => (x.1.nextLine, x.2)

/-- Whether no boundary stands before a position in lines. -/
def Clear (ls : List (List Char)) (q : Position) : Prop :=
  ∀ x ∈ placed ls, x.1.before q = true → isBoundary x.2 = false

theorem nextLine_before_zero (p : Position) (n : Nat) : p.nextLine.before ⟨0, n⟩ = false := by
  simp [nextLine, before]

theorem nextLine_before_succ (p : Position) (i n : Nat) : p.nextLine.before ⟨i + 1, n⟩ = p.before ⟨i, n⟩ := by
  rw [Bool.eq_iff_iff, before_iff, before_iff, nextLine]
  simp

@[simp] theorem clear_nil (q : Position) : Clear [] q := by simp [Clear, placed]

/-- The first characters of a line are those whose index is smaller. -/
theorem forall_zipIdx_lt (l : List Char) (n : Nat) (P : Char → Prop) :
    (∀ x ∈ l.zipIdx, x.2 < n → P x.1) ↔ ∀ c ∈ l.take n, P c := by
  constructor
  · intro h c hc
    obtain ⟨k, hk, rfl⟩ := List.mem_take_iff_getElem.1 hc
    have hmem : (l[k], k) ∈ l.zipIdx := List.mem_zipIdx_iff_getElem?.2 (List.getElem?_eq_getElem (by omega))
    exact h _ hmem (by omega)
  · intro h x hx hlt
    obtain ⟨hk, he⟩ := List.getElem?_eq_some_iff.1 (List.mem_zipIdx_iff_getElem?.1 hx)
    exact h x.1 (List.mem_take_iff_getElem.2 ⟨x.2, by omega, he⟩)

theorem clear_cons_zero (l : List Char) (ls : List (List Char)) (n : Nat) :
    Clear (l :: ls) ⟨0, n⟩ ↔ ∀ c ∈ l.take n, isBoundary c = false := by
  have hline : ∀ k, Position.before ⟨0, k⟩ ⟨0, n⟩ = true ↔ k < n := by simp [before]
  simp only [Clear, placed, List.forall_mem_append, List.forall_mem_map, nextLine_before_zero, hline,
    forall_zipIdx_lt l n fun c => isBoundary c = false]
  simp

/-- Before a position in a later line stands the whole first line. -/
theorem clear_cons_succ (l : List Char) (ls : List (List Char)) (i n : Nat) :
    Clear (l :: ls) ⟨i + 1, n⟩ ↔ (∀ c ∈ l, isBoundary c = false) ∧ Clear ls ⟨i, n⟩ := by
  have hline : ∀ k, Position.before ⟨0, k⟩ ⟨i + 1, n⟩ = true := by simp [before]
  have hchars : (∀ x ∈ l.zipIdx, isBoundary x.1 = false) ↔ ∀ c ∈ l, isBoundary c = false := by
    rw [← List.forall_mem_map (P := fun c => isBoundary c = false), List.zipIdx_map_fst]
  simp only [Clear, placed, List.forall_mem_append, List.forall_mem_map, nextLine_before_succ, hline, forall_const,
    hchars]

theorem clear_consLine_start (c : Char) (ls : List (List Char)) : Clear (consLine c ls) ⟨0, 0⟩ := by
  cases ls <;> simp [consLine, clear_cons_zero]

theorem clear_consLine_zero (c : Char) (ls : List (List Char)) (n : Nat) :
    Clear (consLine c ls) ⟨0, n + 1⟩ ↔ isBoundary c = false ∧ Clear ls ⟨0, n⟩ := by
  cases ls <;> simp [consLine, clear_cons_zero]

theorem clear_consLine_succ (c : Char) (ls : List (List Char)) (i n : Nat) :
    Clear (consLine c ls) ⟨i + 1, n⟩ ↔ isBoundary c = false ∧ Clear ls ⟨i + 1, n⟩ := by
  cases ls <;> simp [consLine, clear_cons_succ, and_assoc]

/-! ## Offsets -/

theorem offset_consLine_start (c : Char) (ls : List (List Char)) : offset (consLine c ls) ⟨0, 0⟩ = 0 := by
  cases ls <;> simp [consLine]

theorem offset_consLine_zero (c : Char) (ls : List (List Char)) (n : Nat) :
    offset (consLine c ls) ⟨0, n + 1⟩ = offset ls ⟨0, n⟩ + 1 := by
  cases ls <;> simp [consLine]

theorem offset_consLine_succ (c : Char) (ls : List (List Char)) (i n : Nat) :
    offset (consLine c ls) ⟨i + 1, n⟩ = offset ls ⟨i + 1, n⟩ + 1 := by
  cases ls <;> simp [consLine, Nat.add_right_comm]

/-- Counted from `i`, a line has at most `n - i` characters with an index below `n`. -/
theorem countP_zipIdx_lt (n : Nat) : ∀ (l : List Char) (i : Nat),
    (l.zipIdx i).countP (fun x => decide (x.2 < n)) = min (n - i) l.length
  | [], i => by simp
  | c :: l, i => by
    rw [List.zipIdx_cons, List.countP_cons, countP_zipIdx_lt n l (i + 1)]
    simp only [decide_eq_true_eq, List.length_cons]
    split <;> omega

/-- The characters before a position are as many as its offset. -/
theorem countP_before : ∀ (ls : List (List Char)) (q : Position),
    (placed ls).countP (fun x => x.1.before q) = q.offset ls
  | [], q => by simp [placed]
  | l :: ls, ⟨0, n⟩ => by
    rw [placed, List.countP_append, List.countP_map, List.countP_map]
    have hline : ∀ x : Char × Nat, Position.before ⟨0, x.2⟩ ⟨0, n⟩ = decide (x.2 < n) := by simp [before]
    simp only [Function.comp_def, hline, nextLine_before_zero, countP_zipIdx_lt]
    simp
  | l :: ls, ⟨i + 1, n⟩ => by
    rw [placed, List.countP_append, List.countP_map, List.countP_map]
    have hline : ∀ x : Char × Nat, Position.before ⟨0, x.2⟩ ⟨i + 1, n⟩ = true := by simp [before]
    simp only [Function.comp_def, hline, nextLine_before_succ, countP_before ls ⟨i, n⟩]
    simp

end Text

/-- The number of characters that stand in lines from the start of a range up to its end. -/
def Range.covered (r : Range) (ls : List (List Char)) : Nat :=
  (Text.placed ls).countP fun x => !x.1.before r.first && x.1.before r.last

/-- Of two tests with one behind the other, the wider counts what the narrower counts and what it alone lets pass. -/
theorem countP_add_countP {α : Type} {a b : α → Bool} (h : ∀ x, a x = true → b x = true) (xs : List α) :
    xs.countP a + xs.countP (fun x => !a x && b x) = xs.countP b := by
  induction xs with
  | nil => rfl
  | cons x xs ih =>
    have hx := h x
    simp only [List.countP_cons]
    cases ha : a x <;> cases hb : b x <;> simp_all <;> omega

/-- A range covers what its end has before it more than its start. -/
theorem Range.offset_add_covered {r : Range} (h : r.first ≤ r.last) (ls : List (List Char)) :
    r.first.offset ls + r.covered ls = r.last.offset ls := by
  rw [← Text.countP_before, ← Text.countP_before, covered,
    countP_add_countP fun x hx => before_of_before_of_le hx h]

theorem Position.offset_mono {p q : Position} (h : p ≤ q) (ls : List (List Char)) : p.offset ls ≤ q.offset ls := by
  have := Range.offset_add_covered (r := ⟨p, q⟩) h ls
  dsimp only at this
  omega

/-! ## Two ways of splitting -/

namespace Text

variable {ls ds : List (List Char)} {c : Char}

/-- The lines of a document: they are separated by `\n`, `\r\n` and `\r`, and the last one is there even if it is
    empty. -/
def documentLines : List Char → List (List Char)
  | [] => [[]]
  | '\r' :: '\n' :: cs => [] :: documentLines cs
  | c :: cs => if c = '\n' ∨ c = '\r' then [] :: documentLines cs else consLine c (documentLines cs)

theorem lines_cons {cs : List Char} (h : ∀ rest, c = '\r' → cs ≠ '\n' :: rest) :
    lines (c :: cs) = if isBoundary c then [] :: lines cs else consLine c (lines cs) := by
  rw [lines.eq_def]
  split
  · next he => cases he
  · next he => cases he; exact absurd rfl (h _ rfl)
  · next he => cases he; rfl

theorem documentLines_cons {cs : List Char} (h : ∀ rest, c = '\r' → cs ≠ '\n' :: rest) :
    documentLines (c :: cs) =
      if c = '\n' ∨ c = '\r' then [] :: documentLines cs else consLine c (documentLines cs) := by
  rw [documentLines.eq_def]
  split
  · next he => cases he
  · next he => cases he; exact absurd rfl (h _ rfl)
  · next he => cases he; rfl

/-- The lines of a text that is split at every boundary and those of the document, side by side. -/
inductive Splits : List (List Char) → List (List Char) → Prop
  | nil : Splits [] [[]]
  | lineBreak {ls ds : List (List Char)} : Splits ls ds → Splits ([] :: ls) ([] :: ds)
  | other {c : Char} {ls ds : List (List Char)} : isBoundary c = true → Splits ls ds →
      Splits ([] :: ls) (consLine c ds)
  | char {c : Char} {ls ds : List (List Char)} : isBoundary c = false → Splits ls ds →
      Splits (consLine c ls) (consLine c ds)

/-- Every text is split in both ways side by side; `\r\n` is one line break in both. -/
theorem splits : ∀ cs : List Char, Splits (lines cs) (documentLines cs)
  | [] => .nil
  | c :: cs => by
    by_cases hpair : c = '\r' ∧ ∃ rest, cs = '\n' :: rest
    · obtain ⟨rfl, rest, rfl⟩ := hpair
      exact .lineBreak (splits rest)
    have hne : ∀ rest, c = '\r' → cs ≠ '\n' :: rest := fun rest hc hrest => hpair ⟨hc, rest, hrest⟩
    rw [lines_cons hne, documentLines_cons hne]
    by_cases hbreak : c = '\n' ∨ c = '\r'
    · have hc : isBoundary c = true := by rcases hbreak with rfl | rfl <;> decide
      rw [if_pos hbreak, if_pos hc]
      exact .lineBreak (splits cs)
    · rw [if_neg hbreak]
      by_cases hc : isBoundary c = true
      · rw [if_pos hc]
        exact .other hc (splits cs)
      · rw [if_neg hc]
        exact .char (by simpa using hc) (splits cs)

namespace Splits

theorem ne_nil (h : Splits ls ds) : ds ≠ [] := by
  cases h with
  | nil | lineBreak => simp
  | @other c _ ds | @char c _ ds => cases ds <;> simp [consLine]

/-! ### Characters before a position -/

/-- Behind a boundary that is a character of the document, the document is ahead for good. -/
theorem offset_lt_consLine {i n : Nat} (c : Char) (h : offset ls ⟨i, n⟩ ≤ offset ds ⟨i, n⟩) :
    offset ([] :: ls) ⟨i + 1, n⟩ < offset (consLine c ds) ⟨i + 1, n⟩ := by
  have hmono : offset ds ⟨i, n⟩ ≤ offset ds ⟨i + 1, n⟩ := offset_mono (le_def.2 (.inl (Nat.lt_succ_self i))) ds
  rw [offset_cons_succ, offset_consLine_succ, List.length_nil]
  omega

/-- Splitting at more boundaries leaves no more characters before a position. -/
theorem offset_le (h : Splits ls ds) : ∀ q : Position, q.offset ls ≤ q.offset ds := by
  induction h with
  | nil => simp
  | lineBreak _ ih =>
    rintro ⟨_ | i, n⟩
    · simp
    · simpa using ih ⟨i, n⟩
  | other _ _ ih =>
    rintro ⟨_ | i, n⟩
    · simp
    · exact Nat.le_of_lt (offset_lt_consLine _ (ih ⟨i, n⟩))
  | char _ _ ih =>
    rintro ⟨_ | i, n⟩
    · cases n with
      | zero => simp [offset_consLine_start]
      | succ n => simpa [offset_consLine_zero] using ih ⟨0, n⟩
    · simpa [offset_consLine_succ] using ih ⟨i + 1, n⟩

/-- **Both ways of splitting have the same number of characters before a position exactly if no boundary stands there in
    the lines of the document.** -/
theorem offset_eq_iff (h : Splits ls ds) : ∀ q : Position, q.offset ls = q.offset ds ↔ Clear ds q := by
  induction h with
  | nil => rintro ⟨_ | i, n⟩ <;> simp [clear_cons_zero, clear_cons_succ]
  | lineBreak _ ih =>
    rintro ⟨_ | i, n⟩
    · simp [clear_cons_zero]
    · simpa [clear_cons_succ] using ih ⟨i, n⟩
  | @other c _ _ hc h _ =>
    rintro ⟨_ | i, n⟩
    · cases n with
      | zero => simp [offset_consLine_start, clear_consLine_start]
      | succ n => simp [offset_consLine_zero, clear_consLine_zero, hc]
    · have hlt := offset_lt_consLine c (h.offset_le ⟨i, n⟩)
      exact iff_of_false (Nat.ne_of_lt hlt) (by simp [clear_consLine_succ, hc])
  | char hc _ ih =>
    rintro ⟨_ | i, n⟩
    · cases n with
      | zero => simp [offset_consLine_start, clear_consLine_start]
      | succ n => simpa [offset_consLine_zero, clear_consLine_zero, hc] using ih ⟨0, n⟩
    · simpa [offset_consLine_succ, clear_consLine_succ, hc] using ih ⟨i + 1, n⟩

end Splits

/-! ### Lines that exist -/

/-- Whether a position is on a last line without characters. -/
def OnEmptyLastLine (ds : List (List Char)) (q : Position) : Prop := q.line + 1 = ds.length ∧ ds[q.line]? = some []

theorem length_consLine (c : Char) (ls : List (List Char)) : (consLine c ls).length = max 1 ls.length := by
  cases ls with
  | nil => rfl
  | cons l ls =>
    rw [consLine, List.length_cons, List.length_cons]
    omega

theorem onEmptyLastLine_cons_succ (l : List Char) (ds : List (List Char)) (i n : Nat) :
    OnEmptyLastLine (l :: ds) ⟨i + 1, n⟩ ↔ OnEmptyLastLine ds ⟨i, n⟩ := by
  simp [OnEmptyLastLine]

theorem not_onEmptyLastLine_consLine (c : Char) (ds : List (List Char)) (n : Nat) :
    ¬ OnEmptyLastLine (consLine c ds) ⟨0, n⟩ := by
  cases ds <;> simp [OnEmptyLastLine, consLine]

theorem onEmptyLastLine_consLine_succ (c : Char) (ds : List (List Char)) (i n : Nat) :
    OnEmptyLastLine (consLine c ds) ⟨i + 1, n⟩ ↔ OnEmptyLastLine ds ⟨i + 1, n⟩ := by
  cases ds <;> simp [OnEmptyLastLine, consLine]

namespace Splits

/-- A line of the document is a line of the text, but for an empty last one. -/
theorem lt_length (h : Splits ls ds) : ∀ q : Position, q.line < ds.length → ¬ OnEmptyLastLine ds q →
    q.line < ls.length := by
  induction h with
  | nil =>
    rintro ⟨_ | i, n⟩ hq hlast
    · exact absurd ⟨rfl, rfl⟩ hlast
    · simp at hq
  | lineBreak _ ih =>
    rintro ⟨_ | i, n⟩ hq hlast
    · exact Nat.zero_lt_succ _
    · rw [onEmptyLastLine_cons_succ] at hlast
      exact Nat.succ_lt_succ (ih ⟨i, n⟩ (Nat.lt_of_succ_lt_succ hq) hlast)
  | other _ _ ih =>
    rintro ⟨_ | i, n⟩ hq _
    · exact Nat.zero_lt_succ _
    · rw [length_consLine] at hq
      refine Nat.succ_lt_succ (ih ⟨i, n⟩ ?_ fun hlast => ?_) <;> dsimp only at *
      · omega
      · have := hlast.1
        dsimp only at this
        omega
  | char _ _ ih =>
    rintro ⟨_ | i, n⟩ hq hlast
    · rw [length_consLine]
      exact Nat.lt_of_lt_of_le Nat.zero_lt_one (Nat.le_max_left _ _)
    · rw [onEmptyLastLine_consLine_succ] at hlast
      rw [length_consLine] at hq ⊢
      have := ih ⟨i + 1, n⟩ (by dsimp only at *; omega) hlast
      dsimp only at *
      omega

/-- An empty last line of the document is no line of the text, if no other boundary stands before it. -/
theorem length_le (h : Splits ls ds) : ∀ q : Position, OnEmptyLastLine ds q → Clear ds q → ls.length ≤ q.line := by
  induction h with
  | nil => exact fun q _ _ => Nat.zero_le _
  | @lineBreak ls ds h ih =>
    rintro ⟨_ | i, n⟩ hlast hclear
    · exact absurd (List.length_eq_zero_iff.1 (Nat.succ_inj.1 hlast.1).symm) h.ne_nil
    · rw [onEmptyLastLine_cons_succ] at hlast
      exact Nat.succ_le_succ (ih ⟨i, n⟩ hlast ((clear_cons_succ _ _ _ _).1 hclear).2)
  | other hc _ _ =>
    rintro ⟨_ | i, n⟩ hlast hclear
    · exact absurd hlast (not_onEmptyLastLine_consLine _ _ _)
    · simp [clear_consLine_succ, hc] at hclear
  | char _ _ ih =>
    rintro ⟨_ | i, n⟩ hlast hclear
    · exact absurd hlast (not_onEmptyLastLine_consLine _ _ _)
    · rw [onEmptyLastLine_consLine_succ] at hlast
      rw [length_consLine]
      exact Nat.max_le.2 ⟨Nat.succ_le_succ (Nat.zero_le i),
        ih ⟨i + 1, n⟩ hlast ((clear_consLine_succ _ _ _ _).1 hclear).2⟩

end Splits

end Text

end LspWire
