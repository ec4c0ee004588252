import LspWire.Document.Position
import Mathlib.Algebra.Ring.Nat

/-!
# Lengths are differences of offsets

The offset of a position in lines is the number of characters before it, line breaks left out (`Position.offset`). The
length of a range whose lines exist is the offset of its end less that of its start, and a range with a line that does
not exist has none (`length?_is_difference`). The single line of a range and the first, middle and last line of a longer
one are brought to the same sum of line lengths (`sum_take_add_lengthBetween`).
-/

namespace LspWire

namespace Position

/-! ## The order of positions -/

/-- A position is at most another that does not come before it. -/
instance : LE Position := ⟨fun p q => q.before p = false⟩

instance (p q : Position) : Decidable (p ≤ q) := inferInstanceAs (Decidable (q.before p = false))

variable {p q r : Position}

theorem before_iff : p.before q = true ↔ p.line < q.line ∨ p.line = q.line ∧ p.character < q.character := by
  simp [before]

/-- Positions are ordered by line, then by character. -/
theorem le_def : p ≤ q ↔ p.line < q.line ∨ p.line = q.line ∧ p.character ≤ q.character := by
  have hle : p ≤ q ↔ ¬ q.before p = true := Bool.not_eq_true _ ▸ Iff.rfl
  rw [hle, before_iff]
  omega

theorem le_trans (h : p ≤ q) (h' : q ≤ r) : p ≤ r := by
  rw [le_def] at *
  omega

theorem before_of_before_of_le (h : p.before q = true) (h' : q ≤ r) : p.before r = true := by
  rw [before_iff] at *
  rw [le_def] at h'
  omega

theorem line_le (h : p ≤ q) : p.line ≤ q.line := by
  rw [le_def] at h
  omega

/-! ## Offsets -/

/-- The number of characters before a position in lines: the lengths of the lines before its line, and its character or,
    past the end of its line, the length of that. -/
def offset (ls : List (List Char)) (p : Position) : Nat :=
  ((ls.take p.line).map List.length).sum + min p.character (ls.getD p.line []).length

variable {ls : List (List Char)} {l : List Char}

@[simp] theorem offset_nil (p : Position) : p.offset [] = 0 := by simp [offset]

@[simp] theorem offset_cons_zero (l : List Char) (ls : List (List Char)) (n : Nat) :
    offset (l :: ls) ⟨0, n⟩ = min n l.length := by simp [offset]

@[simp] theorem offset_cons_succ (l : List Char) (ls : List (List Char)) (i n : Nat) :
    offset (l :: ls) ⟨i + 1, n⟩ = l.length + offset ls ⟨i, n⟩ := by simp [offset, Nat.add_assoc]

theorem offset_of_getElem? (h : ls[p.line]? = some l) :
    p.offset ls = ((ls.take p.line).map List.length).sum + min p.character l.length := by
  rw [offset, List.getD_eq_getElem?_getD, h, Option.getD_some]

end Position

namespace Range

open Position

variable {ls : List (List Char)}

/-! ## Sums of line lengths -/

theorem sum_take_add_lengthBetween {i j : Nat} (h : i ≤ j) (ls : List (List Char)) :
    ((ls.take i).map List.length).sum + lengthBetween ls i j = ((ls.take j).map List.length).sum := by
  have hsplit := List.take_append_drop i (ls.take j)
  rw [List.take_take, Nat.min_eq_left h] at hsplit
  rw [lengthBetween, ← List.sum_eq_foldr, ← List.sum_append, ← List.map_append, hsplit]

theorem sum_take_succ {i : Nat} {l : List Char} (h : ls[i]? = some l) :
    ((ls.take (i + 1)).map List.length).sum = ((ls.take i).map List.length).sum + l.length := by
  rw [List.take_add_one, h]
  simp

/-! ## Lengths -/

/-- A range has no length if and only if one of its lines does not exist. -/
theorem length?_eq_none_iff (r : Range) (text : String) :
    r.length? text = none ↔ (Text.lines text.toList).length ≤ max r.first.line r.last.line := by
  unfold length?
  generalize Text.lines text.toList = ls
  dsimp only
  split
  · next a b ha hb =>
    have hfirst := (List.getElem?_eq_some_iff.1 ha).1
    have hlast := (List.getElem?_eq_some_iff.1 hb).1
    split <;> simp <;> omega
  · next h =>
    refine iff_of_true rfl (Nat.le_of_not_lt fun hlines => ?_)
    obtain ⟨hfirst, hlast⟩ := Nat.max_lt.1 hlines
    exact h _ _ (List.getElem?_eq_getElem hfirst) (List.getElem?_eq_getElem hlast)

/-- The length of a range is what its end has before it more than its start. -/
theorem length?_add_offset {r : Range} {text : String} (hle : r.first ≤ r.last)
    (hlast : r.last.line < (Text.lines text.toList).length) :
    ∃ n, r.length? text = some n ∧
      r.first.offset (Text.lines text.toList) + n = r.last.offset (Text.lines text.toList) := by
  unfold length?
  generalize Text.lines text.toList = ls at *
  have hfirst : r.first.line < ls.length := Nat.lt_of_le_of_lt (line_le hle) hlast
  have ha := List.getElem?_eq_getElem hfirst
  have hb := List.getElem?_eq_getElem hlast
  rw [offset_of_getElem? ha, offset_of_getElem? hb]
  simp only [ha, hb]
  rw [le_def] at hle
  split
  · next hline =>
    refine ⟨_, rfl, ?_⟩
    simp only [hline, slice, List.length_drop, List.length_take] at *
    omega
  · next hline =>
    -- The lines before the last one are those before the first, the first and those between.
    have hlt : r.first.line + 1 ≤ r.last.line := by omega
    have hsum := sum_take_add_lengthBetween hlt ls
    rw [sum_take_succ ha] at hsum
    refine ⟨_, rfl, ?_⟩
    simp only [List.length_drop, List.length_take]
    omega

/-- **The length of a range is the difference of the offsets of its ends.** So it is never negative, and the lengths of
    two ranges that meet add up. -/
theorem length?_is_difference (text : String) :
    (∀ r : Range, r.length? text = none ↔ (Text.lines text.toList).length ≤ max r.first.line r.last.line) ∧
    (∀ r : Range, max r.first.line r.last.line < (Text.lines text.toList).length → r.first ≤ r.last →
      ∃ n : Nat, r.length? text = some n ∧
        (n : Int) = r.last.offset (Text.lines text.toList) - r.first.offset (Text.lines text.toList)) ∧
    ∀ p m q : Position, p ≤ m → m ≤ q → q.line < (Text.lines text.toList).length →
      ∃ a b : Nat, length? ⟨p, m⟩ text = some a ∧ length? ⟨m, q⟩ text = some b ∧
        length? ⟨p, q⟩ text = some (a + b) := by
  refine ⟨fun r => length?_eq_none_iff r text, fun r hlines hle => ?_, fun p m q hpm hmq hq => ?_⟩
  · obtain ⟨n, hn, hsum⟩ := length?_add_offset hle (Nat.lt_of_le_of_lt (Nat.le_max_right _ _) hlines)
    exact ⟨n, hn, by omega⟩
  · obtain ⟨a, ha, hsum⟩ := length?_add_offset (r := ⟨p, m⟩) hpm (Nat.lt_of_le_of_lt (line_le hmq) hq)
    obtain ⟨b, hb, hsum'⟩ := length?_add_offset (r := ⟨m, q⟩) hmq hq
    obtain ⟨c, hc, hsum''⟩ := length?_add_offset (r := ⟨p, q⟩) (le_trans hpm hmq) hq
    dsimp only at hsum hsum' hsum''
    exact ⟨a, b, ha, hb, hc.trans (congrArg some (by omega))⟩

/-- The two parts of a range over three lines add up to it. -/
theorem parts_of_three_lines_add_up :
    (⟨0, 1⟩ : Position) ≤ ⟨1, 9⟩ ∧ (⟨1, 9⟩ : Position) ≤ ⟨2, 1⟩ ∧ 2 < (Text.lines "abc\ndef\nghi".toList).length ∧
      ∃ a b : Nat, length? ⟨⟨0, 1⟩, ⟨1, 9⟩⟩ "abc\ndef\nghi" = some a ∧
        length? ⟨⟨1, 9⟩, ⟨2, 1⟩⟩ "abc\ndef\nghi" = some b ∧
        length? ⟨⟨0, 1⟩, ⟨2, 1⟩⟩ "abc\ndef\nghi" = some (a + b) :=
  ⟨by decide, by decide, by decide,
    (length?_is_difference "abc\ndef\nghi").2.2 ⟨0, 1⟩ ⟨1, 9⟩ ⟨2, 1⟩ (by decide) (by decide) (by decide)⟩

end Range

end LspWire
