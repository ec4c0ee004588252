import LspWire.Json.Basic

/-!
# Tokens of a JSON text

The text of a value is a sequence of marks, strings and words, with space, tab and line breaks between them. A word is a
number or one of the names `null`, `true`, `false`, `NaN`, `Infinity` and `-Infinity`; it ends where a mark, a string or
white space begins. A number has at most 4300 digits before its point. A string holds no character below U+0020, and an
escaped surrogate only as half of a pair.
-/

namespace LspWire.Json

/-- A token: one of the six marks, a string, or a word that stands for a value. -/
inductive Token where
  | openArray
  | closeArray
  | openObject
  | closeObject
  | colon
  | comma
  | text (s : String)
  | word (j : Json)

/-- White space between tokens. -/
def isSpace (c : Char) : Bool :=
  c == ' ' || c == '\t' || c == '\n' || c == '\r'

/-- The mark that a character is. -/
def Token.mark? (c : Char) : Option Token :=
  if c == '[' then some .openArray
  else if c == ']' then some .closeArray
  else if c == '\x7b' then some .openObject
  else if c == '\x7d' then some .closeObject
  else if c == ':' then some .colon
  else if c == ',' then some .comma
  else none

/-- Whether a word ends before a character. -/
def endsWord (c : Char) : Bool :=
  isSpace c || (Token.mark? c).isSome || c == '"'

/-! ## Strings -/

/-- The value of a hexadecimal digit. -/
def hexValue? (c : Char) : Option Nat :=
  if '0' ≤ c ∧ c ≤ '9' then some (c.toNat - '0'.toNat)
  else if 'a' ≤ c ∧ c ≤ 'f' then some (c.toNat - 'a'.toNat + 10)
  else if 'A' ≤ c ∧ c ≤ 'F' then some (c.toNat - 'A'.toNat + 10)
  else none

/-- The code unit that four hexadecimal digits write. -/
def unit? (a b c d : Char) : Option Nat :=
  match hexValue? a, hexValue? b, hexValue? c, hexValue? d with
  | some a, some b, some c, some d => some (((a * 16 + b) * 16 + c) * 16 + d)
  | _, _, _, _ => none

/-- The code units that open a surrogate pair. -/
def isHighSurrogate (n : Nat) : Bool := 0xd800 ≤ n && n < 0xdc00

/-- The code units that close a surrogate pair. -/
def isLowSurrogate (n : Nat) : Bool := 0xdc00 ≤ n && n < 0xe000

/-- The character of a surrogate pair. -/
def ofSurrogates (high low : Nat) : Char :=
  Char.ofNat (0x10000 + (high - 0xd800) * 0x400 + (low - 0xdc00))

/-- The character of a two-character escape. -/
def escape? (c : Char) : Option Char :=
  if c == '"' || c == '\\' || c == '/' then some c
  else if c == 'b' then some '\x08'
  else if c == 'f' then some '\x0c'
  else if c == 'n' then some '\n'
  else if c == 'r' then some '\r'
  else if c == 't' then some '\t'
  else none

/-- Puts a character before the contents that were read. -/
def keep (c : Char) : Option (List Char × List Char) → Option (List Char × List Char)
  | none => none
  | some (s, cs) => some (c :: s, cs)

/-- The contents of a string, read after its opening quote, and what follows its closing quote. The first argument is
    the code unit of a surrogate pair whose second half has to come next. -/
def readString : Option Nat → List Char → Option (List Char × List Char)
  | _, [] => none
  | none, '"' :: cs => some ([], cs)
  | high, '\\' :: 'u' :: a :: b :: c :: d :: cs =>
    match unit? a b c d, high with
    | none, _ => none
    | some n, none =>
      if isHighSurrogate n then readString (some n) cs
      else if isLowSurrogate n then none
      else keep (Char.ofNat n) (readString none cs)
    | some n, some h => if isLowSurrogate n then keep (ofSurrogates h n) (readString none cs) else none
  | none, '\\' :: c :: cs =>
    match escape? c with
    | none => none
    | some e => keep e (readString none cs)
  | none, c :: cs => if c < ' ' then none else keep c (readString none cs)
  | some _, _ :: _ => none

/-! ## Words -/

/-- Whether a character is a decimal digit. -/
def isDigit (c : Char) : Bool := '0' ≤ c && c ≤ '9'

/-- The number that decimal digits write. -/
def ofDigits (cs : List Char) : Nat :=
  cs.foldl (fun n c => n * 10 + (c.toNat - '0'.toNat)) 0

/-- The number of digits that a number has before the point at most. -/
def mostDigits : Nat := 4300

/-- Whether digits can stand before the point: at least one, not too many, and no zero before others. -/
def isWhole (cs : List Char) : Bool :=
  !cs.isEmpty && cs.all isDigit && cs.length ≤ mostDigits && (cs.length == 1 || cs.headD '1' != '0')

/-- The exponent after its mark: an optional sign and at least one digit. -/
def exponent? (cs : List Char) : Option Int :=
  let read (ds : List Char) : Option Nat := if !ds.isEmpty && ds.all isDigit then some (ofDigits ds) else none
  match cs with
  | '-' :: ds => (read ds).map fun n => -(n : Int)
  | '+' :: ds => (read ds).map fun n => (n : Int)
  | ds => (read ds).map fun n => (n : Int)

/-- The number that a word without its sign writes. -/
def unsigned? (negative : Bool) (cs : List Char) : Option Json :=
  let whole := cs.takeWhile isDigit
  if !isWhole whole then none
  else
    match cs.dropWhile isDigit with
    | [] => some (.int (if negative then -(ofDigits whole : Int) else ofDigits whole))
    | rest =>
      let (fraction, rest) : Option (List Char) × List Char :=
        match rest with
        | '.' :: r => (some (r.takeWhile isDigit), r.dropWhile isDigit)
        | r => (none, r)
      if fraction == some [] then none
      else
        let exponent : Option Int :=
          match rest with
          | [] => some 0
          | c :: r => if c == 'e' || c == 'E' then exponent? r else none
        let fraction := fraction.getD []
        exponent.map fun e =>
          .float (Double.ofDecimal negative (ofDigits (whole ++ fraction)) (e - fraction.length))

/-- The value that a word stands for. -/
def word? (cs : List Char) : Option Json :=
  if cs == ['n', 'u', 'l', 'l'] then some .null
  else if cs == ['t', 'r', 'u', 'e'] then some (.bool true)
  else if cs == ['f', 'a', 'l', 's', 'e'] then some (.bool false)
  else if cs == ['N', 'a', 'N'] then some (.float .nan)
  else if cs == "Infinity".toList then some (.float (.infinite false))
  else if cs == "-Infinity".toList then some (.float (.infinite true))
  else
    match cs with
    | '-' :: ds => unsigned? true ds
    | ds => unsigned? false ds

/-! ## The token sequence -/

theorem eq_of_keep {c : Char} {x : Option (List Char × List Char)} {s r : List Char} (h : keep c x = some (s, r)) :
    ∃ t, x = some (t, r) := by
  match x, h with
  | some (t, _), rfl => exact ⟨t, rfl⟩

theorem length_readString (high : Option Nat) (cs : List Char) :
    ∀ {s r : List Char}, readString high cs = some (s, r) → r.length < cs.length := by
  fun_induction readString high cs with
  | case1 => intro s r h; cases h
  | case2 cs => intro s r h; cases h; simp
  | case3 | case5 | case8 | case9 | case11 | case13 => intro s r h; cases h
  | case4 a b c d cs n _ _ ih => intro s r h; have := ih h; simp only [List.length_cons]; omega
  | case6 a b c d cs n _ _ _ ih | case7 a b c d cs n h' _ _ ih | case10 c cs _ e _ ih | case12 c cs _ _ _ _ ih =>
    intro s r h
    obtain ⟨t, ht⟩ := eq_of_keep h
    have := ih ht
    simp only [List.length_cons]
    omega

/-- The tokens of a text, or nothing where it is not a sequence of tokens. -/
def tokens (cs : List Char) : Option (List Token) :=
  match cs with
  | [] => some []
  | c :: cs =>
    if isSpace c then tokens cs
    else
      match Token.mark? c with
      | some t => (tokens cs).map (t :: ·)
      | none =>
        if c == '"' then
          match h : readString none cs with
          | none => none
          | some (s, rest) =>
            have := length_readString none cs h
            (tokens rest).map (.text (String.ofList s) :: ·)
        else
          match word? (c :: cs.takeWhile fun d => !endsWord d) with
          | none => none
          | some j =>
            have := (List.dropWhile_sublist (fun d => !endsWord d) (l := cs)).length_le
            (tokens (cs.dropWhile fun d => !endsWord d)).map (.word j :: ·)
termination_by cs.length

end LspWire.Json
