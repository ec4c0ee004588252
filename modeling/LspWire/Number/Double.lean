/-!
# Binary64 numbers

A number of the 64-bit binary format as a value: not a number, an infinity, or `± m · 2^q`. A finite value has
`m < 2^53`, and `2^52 ≤ m` unless `q` is the least exponent, so two finite values other than the zeros are the same
number exactly when they are the same term. Ratios round to the nearest value, a tie to the even significand.
-/

namespace LspWire

/-- A binary64 number. -/
inductive Double where
  | nan
  | infinite (negative : Bool)
  | finite (negative : Bool) (m : Nat) (q : Int)
deriving DecidableEq, Repr, Inhabited

namespace Double

/-- The least exponent, that of the subnormal numbers. -/
def leastExponent : Int := -1074

/-- The greatest exponent. -/
def greatestExponent : Int := 971

/-- Zero with a sign. -/
def zero (negative : Bool) : Double := .finite negative 0 leastExponent

/-- `num / den` to the nearest integer, a half to the even neighbour. -/
def roundDiv (num den : Nat) : Nat :=
  let d := num / den
  let r := num % den
  if 2 * r < den then d else if den < 2 * r then d + 1 else d + d % 2

/-- `num / den / 2^q` as a ratio of natural numbers. -/
def scaled (num den : Nat) (q : Int) : Nat × Nat :=
  if 0 ≤ q then (num, den * Nat.pow 2 q.toNat) else (num * Nat.pow 2 (-q).toNat, den)

/-- The value nearest to `± num / den`; beyond the greatest value an infinity. -/
def ofRatio (negative : Bool) (num den : Nat) : Double :=
  if num = 0 then zero negative
  else
    let low : Int := (num.log2 : Int) - (den.log2 : Int) - 53
    let s := scaled num den low
    let q := max leastExponent (if s.1 < Nat.pow 2 53 * s.2 then low else low + 1)
    let t := scaled num den q
    let m := roundDiv t.1 t.2
    let (m, q) := if m = Nat.pow 2 53 then (Nat.pow 2 52, q + 1) else (m, q)
    if greatestExponent < q then .infinite negative else .finite negative m q

/-- The value nearest to `± n · 10^e`. Exponents far outside the format's range are not computed with. -/
def ofDecimal (negative : Bool) (n : Nat) (e : Int) : Double :=
  if n = 0 then zero negative
  else if 400 < e then .infinite negative
  else if e + (n.log2 : Int) + 1 < -400 then zero negative
  else if 0 ≤ e then ofRatio negative (n * Nat.pow 10 e.toNat) 1
  else ofRatio negative n (Nat.pow 10 (-e).toNat)

/-- The value nearest to an integer; beyond the greatest value an infinity. -/
def ofInt (n : Int) : Double := ofRatio (n < 0) n.natAbs 1

/-- Whether a number is neither an infinity nor not a number. -/
def isFinite : Double → Bool
  | .finite .. => true
  | _ => false

/-- Equality as numbers: both zeros are equal, and not a number equals nothing. -/
def same : Double → Double → Bool
  | .finite s m q, .finite s' m' q' => (m == 0 && m' == 0) || (s == s' && m == m' && q == q')
  | .infinite s, .infinite s' => s == s'
  | _, _ => false

/-- Whether a number is the integer `n`. -/
def isInt (x : Double) (n : Int) : Bool :=
  match x with
  | .finite s m q =>
    let signed : Int := if s then -(m : Int) else m
    if 0 ≤ q then signed * Nat.pow 2 q.toNat == n else signed == n * Nat.pow 2 (-q).toNat
  | _ => false

/-- Whether a number lies between two integers, ends included. -/
def isBetween (lo hi : Int) : Double → Bool
  | .finite s m q =>
    let signed : Int := (if s then -(m : Int) else m) * Nat.pow 2 q.toNat
    let unit : Int := Nat.pow 2 (-q).toNat
    lo * unit ≤ signed && signed ≤ hi * unit
  | _ => false

end Double

end LspWire
