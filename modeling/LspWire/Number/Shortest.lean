import LspWire.Number.Double

/-!
# The shortest decimal text of a number

The text of a binary64 number has the fewest significant digits that read back as that number, and of those digits the
nearest to it. Digits are found in exact integer arithmetic: for 1, 2, … 17 digits the two neighbours of the value on
that decimal grid are tested against the interval of reals that round to it, ends included when the significand is even.

How the digits are laid out is a `Layout`: which magnitudes are written positionally, and the form of the exponent.
-/

namespace LspWire

namespace Double

/-- `c · 10^g`. -/
structure Decimal where
  c : Nat
  g : Int
deriving DecidableEq, Repr

/-- The least `k`, from a lower estimate up, with `num / den < 10^k`. -/
def magnitudeFrom (num den : Nat) : Nat → Int → Int
  | 0, k => k
  | fuel + 1, k =>
    let below := if 0 ≤ k then num < den * Nat.pow 10 k.toNat else num * Nat.pow 10 (-k).toNat < den
    if below then k else magnitudeFrom num den fuel (k + 1)

/-- The number of digits before the point of `m · 2^q`, negative or zero for a value below one. -/
def magnitude (m : Nat) (q : Int) : Int :=
  let estimate := (((m.log2 : Int) + q) * 30103) / 100000 - 1
  magnitudeFrom (m * Nat.pow 2 q.toNat) (Nat.pow 2 (-q).toNat) 4 estimate

/-- The decimal on the grid of `10^g` that reads back as `m · 2^q`, if the grid has one. -/
def onGrid? (m : Nat) (q g : Int) : Option Nat :=
  let below := if m = Nat.pow 2 52 ∧ leastExponent < q then 1 else 2
  -- in quarters of the last place, and with both sides cleared of fractions
  let a := Nat.pow 10 g.toNat * Nat.pow 2 (2 - q).toNat
  let b := Nat.pow 2 (q - 2).toNat * Nat.pow 10 (-g).toNat
  let lo := (4 * m - below) * b
  let mid := 4 * m * b
  let hi := (4 * m + 2) * b
  let within (c : Nat) : Bool :=
    if m % 2 = 0 then lo ≤ c * a && c * a ≤ hi else lo < c * a && c * a < hi
  let c := mid / a
  let down := mid - c * a
  let up := (c + 1) * a - mid
  match within c && c != 0, within (c + 1) with
  | true, true =>
    if down < up then some c else if up < down then some (c + 1) else some (c + c % 2)
  | true, false => some c
  | false, true => some (c + 1)
  | false, false => none

/-- The first grid, from `n` digits on, that has a decimal for `m · 2^q`. -/
def decimalFrom (m : Nat) (q k : Int) : Nat → Int → Decimal
  | 0, n => ⟨((onGrid? m q (k - n)).getD 0), k - n⟩
  | fuel + 1, n =>
    match onGrid? m q (k - n) with
    | some c => ⟨c, k - n⟩
    | none => decimalFrom m q k fuel (n + 1)

/-- Moves trailing zeros into the exponent. -/
def Decimal.trimmed (d : Decimal) : Nat → Decimal
  | 0 => d
  | fuel + 1 => if d.c ≠ 0 ∧ d.c % 10 = 0 then trimmed ⟨d.c / 10, d.g + 1⟩ fuel else d

/-- The shortest decimal that reads back as `m · 2^q`. -/
def shortest (m : Nat) (q : Int) : Decimal :=
  (decimalFrom m q (magnitude m q) 17 1).trimmed 20

/-! ## Layouts -/

/-- A way to lay out digits: positional when the point stands after more than `lowest` and at most `highest` digits,
    else scientific with a signed exponent of at least `exponentDigits` digits. -/
structure Layout where
  lowest : Int
  highest : Int
  exponentDigits : Nat

/-- The digits of a number. -/
def digits (n : Nat) : List Char := Nat.toDigits 10 n

/-- Zeros before a text up to a length. -/
def padLeft (n : Nat) (cs : List Char) : List Char :=
  List.replicate (n - cs.length) '0' ++ cs

/-- Digits with the point after `point` of them; there is at least one digit on both sides. -/
def positional (ds : List Char) (point : Int) : List Char :=
  if point ≤ 0 then '0' :: '.' :: (List.replicate (-point).toNat '0' ++ ds)
  else if (ds.length : Int) ≤ point then ds ++ List.replicate (point.toNat - ds.length) '0' ++ ['.', '0']
  else ds.take point.toNat ++ '.' :: ds.drop point.toNat

/-- Digits with the point after the first and an exponent. -/
def scientific (l : Layout) (ds : List Char) (point : Int) : List Char :=
  let e := point - 1
  let sign := if e < 0 then '-' else '+'
  let significand := match ds with
    | [d] => [d]
    | d :: rest => d :: '.' :: rest
    | [] => []
  significand ++ 'e' :: sign :: padLeft l.exponentDigits (digits e.natAbs)

/-- The text of `m · 2^q`, without sign. -/
def Layout.unsigned (l : Layout) (m : Nat) (q : Int) : List Char :=
  if m = 0 then ['0', '.', '0']
  else
    let d := shortest m q
    let ds := digits d.c
    let point := (ds.length : Int) + d.g
    if l.lowest < point ∧ point ≤ l.highest then positional ds point else scientific l ds point

/-- The text of a finite number; the empty text for the others. -/
def Layout.finite (l : Layout) : Double → List Char
  | .finite negative m q => if negative then '-' :: l.unsigned m q else l.unsigned m q
  | _ => []

end Double

end LspWire
