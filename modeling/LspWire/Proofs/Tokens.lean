import LspWire.Json.Printer
import LspWire.Json.Reader
import LspWire.Proofs.Numbers

/-!
# Strings, words and tokens

A string is read back from how it is written, whatever its characters (`readString_written`). An integer is read back
from its digits exactly if there are not too many of them (`word?_intText`), and no other integer is read from a word
(`short_of_word?`). A token is read off the front of a text if what follows it ends it.
-/

namespace LspWire.Json

/-! ## Strings -/

theorem hexValue?_hexDigit : ∀ d < 16, hexValue? (Text.hexDigit d) = some d := by decide

/-- Four hexadecimal digits are read as the number that they write. -/
theorem unit?_hex {n : Nat} (h : n < 0x10000) : ∃ a b c d, Text.hex 4 n = [a, b, c, d] ∧ unit? a b c d = some n := by
  refine ⟨_, _, _, _, rfl, ?_⟩
  have digit := fun k => hexValue?_hexDigit (n / k % 16) (by omega)
  simp only [unit?, digit]
  show some (((n / 4096 % 16 * 16 + n / 256 % 16) * 16 + n / 16 % 16) * 16 + n / 1 % 16) = some n
  congr 1
  omega

theorem readString_escape {c e : Char} (cs : List Char) (hu : c ≠ 'u') (h : escape? c = some e) :
    readString none ('\\' :: c :: cs) = keep e (readString none cs) := by
  rw [readString]
  · rw [h]
  · exact fun a b c' d cs' hc => absurd hc hu

theorem readString_unit {n : Nat} {a b c d : Char} (cs : List Char) (h : unit? a b c d = some n) (hn : n < 0xd800) :
    readString none ('\\' :: 'u' :: a :: b :: c :: d :: cs) = keep (Char.ofNat n) (readString none cs) := by
  have hhigh : isHighSurrogate n = false := by simp [isHighSurrogate]; omega
  have hlow : isLowSurrogate n = false := by simp [isLowSurrogate]; omega
  simp [readString, h, hhigh, hlow]

theorem readString_self {c : Char} (cs : List Char) (hq : c ≠ '"') (hb : c ≠ '\\') (hc : ¬ c < ' ') :
    readString none (c :: cs) = keep c (readString none cs) := by
  rw [readString]
  · rw [if_neg hc]
  · exact fun h => hq h
  · exact fun a b c' d cs' h => absurd h hb
  · exact fun c' cs' h => absurd h hb

/-- A character is read as itself from how it is written inside a string. -/
theorem readString_escaped (c : Char) (cs : List Char) :
    readString none (escaped c ++ cs) = keep c (readString none cs) := by
  unfold escaped
  split
  · next h => rw [beq_iff_eq.1 h]; exact readString_escape cs (by decide) rfl
  split
  · next h => rw [beq_iff_eq.1 h]; exact readString_escape cs (by decide) rfl
  split
  · next h => rw [beq_iff_eq.1 h]; exact readString_escape cs (by decide) rfl
  split
  · next h => rw [beq_iff_eq.1 h]; exact readString_escape cs (by decide) rfl
  split
  · next h => rw [beq_iff_eq.1 h]; exact readString_escape cs (by decide) rfl
  split
  · next h => rw [beq_iff_eq.1 h]; exact readString_escape cs (by decide) rfl
  split
  · next h => rw [beq_iff_eq.1 h]; exact readString_escape cs (by decide) rfl
  split
  · next hc =>
    have hlt : c.toNat < 32 := hc
    obtain ⟨a, b, c', d, hhex, hunit⟩ := unit?_hex (n := c.toNat) (by omega)
    rw [hhex]
    exact (readString_unit cs hunit (by omega)).trans (by rw [Char.ofNat_toNat])
  · next hq hb _ _ _ _ _ hc => exact readString_self cs (by simpa using hq) (by simpa using hb) hc

/-- A string is read from how it is written, up to its closing quote. -/
theorem readString_written (s rest : List Char) :
    readString none (s.flatMap escaped ++ '"' :: rest) = some (s, rest) := by
  induction s with
  | nil => rw [List.flatMap_nil, List.nil_append, readString]
  | cons c s ih => rw [List.flatMap_cons, List.append_assoc, readString_escaped, ih]; rfl

/-! ## Digits -/

theorem isDigit_eq (c : Char) : isDigit c = c.isDigit := by
  simp [isDigit, Char.isDigit, Char.le_def]

theorem isDigit_digits {n : Nat} {c : Char} (h : c ∈ Double.digits n) : isDigit c = true := by
  rw [isDigit_eq]
  exact Nat.isDigit_of_mem_toDigits (by decide) (by decide) h

theorem ne_of_isDigit {c d : Char} (hc : isDigit c = true) (hd : isDigit d = false) : c ≠ d := by
  intro h
  rw [h, hd] at hc
  cases hc

theorem digits_ne_nil (n : Nat) : Double.digits n ≠ [] := Nat.toDigits_ne_nil

theorem exists_digits (n : Nat) : ∃ c cs, Double.digits n = c :: cs ∧ isDigit c = true := by
  obtain ⟨c, cs, h⟩ := List.exists_cons_of_ne_nil (digits_ne_nil n)
  exact ⟨c, cs, h, isDigit_digits (n := n) (h ▸ List.mem_cons_self)⟩

theorem ofDigits_digits (n : Nat) : ofDigits (Double.digits n) = n := by
  have h := Nat.ofDigitChars_ten_toDigits (n := n)
  rw [Nat.ofDigitChars_eq_foldl] at h
  simpa only [ofDigits, Double.digits, Nat.mul_comm] using h

theorem digits_injective : Function.Injective Double.digits := fun m n h => by
  rw [← ofDigits_digits m, ← ofDigits_digits n, h]

theorem minus_digits_ne (m n : Nat) : '-' :: Double.digits m ≠ Double.digits n := fun h =>
  absurd (isDigit_digits (n := n) (h ▸ List.mem_cons_self)) (by decide)

/-- The digits of a number do not begin with a zero before others. -/
theorem head_digits (n : Nat) : (Double.digits n).length = 1 ∨ (Double.digits n).headD '1' ≠ '0' := by
  by_cases h : n < 10
  · left
    rw [Double.digits, Nat.toDigits_of_lt_base h]
    rfl
  · right
    induction n using Nat.strongRecOn with
    | _ n ih =>
      rw [Double.digits, Nat.toDigits_of_base_le (by decide) (by omega)]
      by_cases hd : n / 10 < 10
      · rw [Nat.toDigits_of_lt_base hd]
        simp
        omega
      · have hhead := ih (n / 10) (by omega) hd
        obtain ⟨c, cs, hcs, -⟩ := exists_digits (n / 10)
        rw [hcs] at hhead
        rw [Double.digits] at hcs
        rw [hcs]
        exact hhead

theorem foldl_digits_lt : ∀ {cs : List Char} (n : Nat), cs.all isDigit = true →
    cs.foldl (fun n c => n * 10 + (c.toNat - '0'.toNat)) n < (n + 1) * Nat.pow 10 cs.length
  | [], n, _ => by simp
  | c :: cs, n, h => by
    rw [List.all_cons, Bool.and_eq_true, isDigit, Bool.and_eq_true, decide_eq_true_iff, decide_eq_true_iff] at h
    have hc : c.toNat ≤ '9'.toNat := h.1.2
    have hdigit : c.toNat - '0'.toNat < 10 := by
      rw [show '9'.toNat = 57 from rfl] at hc
      rw [show '0'.toNat = 48 from rfl]
      omega
    have ih := foldl_digits_lt (n * 10 + (c.toNat - '0'.toNat)) h.2
    have hpow : (n * 10 + (c.toNat - '0'.toNat) + 1) * Nat.pow 10 cs.length ≤ (n + 1) * 10 * Nat.pow 10 cs.length :=
      Nat.mul_le_mul_right _ (by omega)
    rw [List.foldl_cons, List.length_cons, Nat.pow_eq, Nat.pow_succ', ← Nat.mul_assoc]
    exact Nat.lt_of_lt_of_le ih hpow

/-- Digits write a number below the power of ten of their count. -/
theorem ofDigits_lt {cs : List Char} (h : cs.all isDigit = true) : ofDigits cs < Nat.pow 10 cs.length := by
  simpa [ofDigits] using foldl_digits_lt 0 h

/-! ## Words -/

/-- Whether an integer has few enough digits to be read. -/
def Short (n : Int) : Prop := n.natAbs < Nat.pow 10 mostDigits

instance : DecidablePred Short := fun n => inferInstanceAs (Decidable (n.natAbs < Nat.pow 10 mostDigits))

theorem length_digits_le_iff {n k : Nat} (hk : 0 < k) : (Double.digits n).length ≤ k ↔ n < Nat.pow 10 k :=
  Nat.length_toDigits_le_iff (by decide) hk

theorem isWhole_digits {n : Nat} : isWhole (Double.digits n) = true ↔ n < Nat.pow 10 mostDigits := by
  have hall : (Double.digits n).all isDigit = true := List.all_eq_true.2 fun c => isDigit_digits
  have hhead : ((Double.digits n).length == 1 || (Double.digits n).headD '1' != '0') = true := by
    simpa only [Bool.or_eq_true, beq_iff_eq, bne_iff_ne] using head_digits n
  rw [← length_digits_le_iff (k := mostDigits) (by decide), isWhole, hall, hhead]
  simp [digits_ne_nil n]

theorem unsigned?_digits (negative : Bool) (n : Nat) : unsigned? negative (Double.digits n) =
    if n < Nat.pow 10 mostDigits then some (.int (if negative then -(n : Int) else n)) else none := by
  have htake : (Double.digits n).takeWhile isDigit = Double.digits n := by
    rw [← List.append_nil (Double.digits n), List.takeWhile_append_of_pos fun c => isDigit_digits, List.takeWhile_nil]
  have hdrop : (Double.digits n).dropWhile isDigit = [] := by
    rw [← List.append_nil (Double.digits n), List.dropWhile_append_of_pos fun c => isDigit_digits, List.dropWhile_nil]
  simp only [unsigned?, htake, hdrop, ofDigits_digits]
  by_cases h : n < Nat.pow 10 mostDigits
  · rw [if_neg (by simp [isWhole_digits.2 h]), if_pos h]
  · rw [if_pos (by simp [Bool.eq_false_iff.2 (mt isWhole_digits.1 h)]), if_neg h]

/-- Digits without a sign stand for what they write. -/
theorem word?_digits (n : Nat) : word? (Double.digits n) = unsigned? false (Double.digits n) := by
  obtain ⟨c, cs, hcs, hc⟩ := exists_digits n
  have hname : c ≠ 'n' ∧ c ≠ 't' ∧ c ≠ 'f' ∧ c ≠ 'N' ∧ c ≠ 'I' ∧ c ≠ '-' := by
    refine ⟨?_, ?_, ?_, ?_, ?_, ?_⟩ <;> exact ne_of_isDigit hc rfl
  rw [hcs]
  simp [word?, hname]

/-- Digits after a minus sign stand for the negative of what they write. -/
theorem word?_minus_digits (n : Nat) : word? ('-' :: Double.digits n) = unsigned? true (Double.digits n) := by
  obtain ⟨c, cs, hcs, hc⟩ := exists_digits n
  have hI : c ≠ 'I' := ne_of_isDigit hc rfl
  rw [hcs]
  simp [word?, hI]

/-- **An integer is read back from its text exactly if it is short.** -/
theorem word?_intText (n : Int) : word? (intText n) = if Short n then some (.int n) else none := by
  have hword : word? (intText n) = if n.natAbs < Nat.pow 10 mostDigits then some (.int n) else none := by
    unfold intText
    split
    · rw [word?_minus_digits, unsigned?_digits, if_pos rfl, show -(n.natAbs : Int) = n by omega]
    · rw [word?_digits, unsigned?_digits, if_neg Bool.false_ne_true, show (n.natAbs : Int) = n by omega]
  exact hword

/-- Without a sign, an integer is read only if it is short. -/
theorem short_of_unsigned? {negative : Bool} {cs : List Char} {j : Json} (h : unsigned? negative cs = some j) {n : Int}
    (hn : .inl n ∈ j.numbers) : Short n := by
  simp only [unsigned?] at h
  split at h
  · cases h
  next hw =>
  simp only [isWhole, Bool.and_eq_true, decide_eq_true_eq, Bool.not_eq_true', Bool.not_eq_false] at hw
  have hlt : ofDigits (cs.takeWhile isDigit) < Nat.pow 10 mostDigits := by
    refine Nat.lt_of_lt_of_le (ofDigits_lt hw.1.1.2) ?_
    rw [Nat.pow_eq, Nat.pow_eq]
    exact Nat.pow_le_pow_right (by decide) hw.1.2
  split at h
  · cases h
    cases List.mem_singleton.1 hn
    rw [Short]
    split <;> simpa using hlt
  · -- what has a fraction or an exponent is no integer
    split at h
    · split at h
      · cases h
      · obtain ⟨e, -, rfl⟩ := Option.map_eq_some_iff.1 h
        cases List.mem_singleton.1 hn
    · obtain ⟨e, -, rfl⟩ := Option.map_eq_some_iff.1 h
      cases List.mem_singleton.1 hn

/-- An integer that is read from a word is short. -/
theorem short_of_word? {cs : List Char} {j : Json} (h : word? cs = some j) {n : Int} (hn : .inl n ∈ j.numbers) :
    Short n := by
  unfold word? at h
  repeat' split at h
  all_goals first
    | exact short_of_unsigned? h hn
    | cases h; simp [numbers] at hn

/-! ## Tokens -/

theorem not_endsWord_of_isDigit {c : Char} (h : isDigit c = true) : endsWord c = false := by
  have hne : ∀ d, isDigit d = false → c ≠ d := fun d => ne_of_isDigit h
  refine Bool.eq_false_iff.2 fun he => ?_
  simp only [endsWord, isSpace, Token.mark?, Bool.or_eq_true, beq_iff_eq] at he
  simp [hne ' ' rfl, hne '\t' rfl, hne '\n' rfl, hne '\r' rfl, hne '"' rfl, hne '[' rfl, hne ']' rfl,
    hne '\x7b' rfl, hne '\x7d' rfl, hne ':' rfl, hne ',' rfl] at he

theorem intText_ne_nil (n : Int) : intText n ≠ [] := by
  unfold intText
  split
  · exact List.cons_ne_nil _ _
  · exact digits_ne_nil _

/-- No two integers have one text. -/
theorem intText_injective : Function.Injective intText := fun m n h => by
  unfold intText at h
  split at h <;> split at h
  · have := digits_injective (List.cons.inj h).2
    omega
  · exact absurd h (minus_digits_ne _ _)
  · exact absurd h.symm (minus_digits_ne _ _)
  · have := digits_injective h
    omega

theorem not_endsWord_intText {n : Int} {c : Char} (h : c ∈ intText n) : endsWord c = false := by
  unfold intText at h
  split at h
  · rcases List.mem_cons.1 h with rfl | h
    · rfl
    · exact not_endsWord_of_isDigit (isDigit_digits h)
  · exact not_endsWord_of_isDigit (isDigit_digits h)

/-- A text before which a word ends. -/
def EndsWord (rest : List Char) : Prop := ∀ c ∈ rest.head?, endsWord c = true

theorem tokens_mark {c : Char} {t : Token} (cs : List Char) (h : Token.mark? c = some t) (hs : isSpace c = false) :
    tokens (c :: cs) = (tokens cs).map (t :: ·) := by
  rw [tokens, hs, h]
  rfl

theorem takeWhile_word {w rest : List Char} (hw : ∀ d ∈ w, endsWord d = false) (hr : EndsWord rest) :
    (w ++ rest).takeWhile (fun d => !endsWord d) = w := by
  rw [List.takeWhile_append_of_pos fun d hd => by rw [hw d hd]; rfl]
  cases rest with
  | nil => simp
  | cons d rest => rw [List.takeWhile_cons_of_neg (by simp [hr d rfl]), List.append_nil]

theorem dropWhile_word {w rest : List Char} (hw : ∀ d ∈ w, endsWord d = false) (hr : EndsWord rest) :
    (w ++ rest).dropWhile (fun d => !endsWord d) = rest := by
  rw [List.dropWhile_append_of_pos fun d hd => by rw [hw d hd]; rfl]
  cases rest with
  | nil => simp
  | cons d rest => rw [List.dropWhile_cons_of_neg (by simp [hr d rfl])]

/-- A word is read up to where it ends. -/
theorem tokens_word {w rest : List Char} (hne : w ≠ []) (hw : ∀ d ∈ w, endsWord d = false) (hr : EndsWord rest) :
    tokens (w ++ rest) = (word? w).bind fun j => (tokens rest).map (.word j :: ·) := by
  obtain ⟨c, ds, rfl⟩ := List.exists_cons_of_ne_nil hne
  rw [List.forall_mem_cons] at hw
  have hc := hw.1
  simp only [endsWord, Bool.or_eq_false_iff] at hc
  rw [List.cons_append, tokens, hc.1.1]
  cases hm : Token.mark? c with
  | some t =>
    rw [hm] at hc
    cases hc.1.2
  | none =>
    simp only [Bool.false_eq_true, if_false, hc.2, takeWhile_word hw.2 hr, dropWhile_word hw.2 hr]
    cases word? (c :: ds) <;> rfl

/-- A string is read back from its text, whatever comes after it. -/
theorem tokens_string (s : String) (rest : List Char) :
    tokens (stringText s ++ rest) = (tokens rest).map (.text s :: ·) := by
  have hread := readString_written s.toList rest
  rw [stringText, List.cons_append, List.append_assoc, List.singleton_append, tokens, show isSpace '"' = false from rfl,
    show Token.mark? '"' = none from rfl]
  simp only [Bool.false_eq_true, if_false, beq_self_eq_true, if_true]
  split
  · next h => rw [hread] at h; cases h
  · next h => rw [hread] at h; cases h; rw [String.ofList_toList]

/-- The numbers in a token. -/
def Token.numbers : Token → List (Int ⊕ Double)
  | .word j => j.numbers
  | _ => []

theorem mark?_numbers {c : Char} {t : Token} (h : Token.mark? c = some t) : t.numbers = [] := by
  unfold Token.mark? at h
  repeat' split at h
  all_goals cases h
  all_goals rfl

/-- The integers in the tokens of a text are short. -/
theorem short_of_tokens (cs : List Char) : ∀ {ts : List Token}, tokens cs = some ts →
    ∀ t ∈ ts, ∀ n, .inl n ∈ t.numbers → Short n := by
  fun_induction tokens cs with
  | case1 =>
    intro ts h t ht
    cases h
    cases ht
  | case2 c cs _ ih => exact ih
  | case3 c cs _ m hm ih =>
    intro ts h
    obtain ⟨us, hus, rfl⟩ := Option.map_eq_some_iff.1 h
    refine List.forall_mem_cons.2 ⟨fun n hn => ?_, ih hus⟩
    rw [mark?_numbers hm] at hn
    cases hn
  | case4 | case6 => exact fun h => by cases h
  | case5 c cs _ _ _ s rest _ _ ih =>
    intro ts h
    obtain ⟨us, hus, rfl⟩ := Option.map_eq_some_iff.1 h
    exact List.forall_mem_cons.2 ⟨fun n hn => absurd hn List.not_mem_nil, ih hus⟩
  | case7 c cs _ _ _ j hj _ ih =>
    intro ts h
    obtain ⟨us, hus, rfl⟩ := Option.map_eq_some_iff.1 h
    exact List.forall_mem_cons.2 ⟨fun n hn => short_of_word? hj hn, ih hus⟩

end LspWire.Json
