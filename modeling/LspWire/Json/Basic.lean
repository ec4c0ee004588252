import LspWire.Number.Double

/-!
# JSON values

A JSON value with its members in written order. Numbers keep the distinction of the text: one without point and exponent
is an exact integer, every other one is binary64. A member list may repeat a key; the last value of a key counts,
at the place where the key came first (`merge`, `Json.merged`).
-/

namespace LspWire

/-! ## Association lists with repeated keys -/

namespace Members

variable {α β : Type}

/-- The last value of a key. -/
def find? (key : String) : List (String × α) → Option α
  | [] => none
  | (k, a) :: ms =>
    match find? key ms with
    | some b => some b
    | none => if k = key then some a else none

/-- Whether a key occurs. -/
def has (key : String) (ms : List (String × α)) : Bool :=
  ms.any fun m => m.1 == key

/-- Sets the value of a key, at its place if it has one and at the end if not. -/
def put (key : String) (a : α) : List (String × α) → List (String × α)
  | [] => [(key, a)]
  | (k, b) :: ms => if k = key then (k, a) :: ms else (k, b) :: put key a ms

/-- One member for each key: the place of the first and the value of the last. -/
def merge (ms : List (String × α)) : List (String × α) :=
  ms.foldl (fun acc m => put m.1 m.2 acc) []

theorem sizeOf_find? [SizeOf α] {key : String} {a : α} :
    ∀ {ms : List (String × α)}, find? key ms = some a → sizeOf a < sizeOf ms
  | [], h => by simp [find?] at h
  | (k, b) :: ms, h => by
    simp only [find?] at h
    split at h
    · next c hc =>
      have : sizeOf a < sizeOf ms := sizeOf_find? (hc.trans h)
      simp only [List.cons.sizeOf_spec, Prod.mk.sizeOf_spec]
      omega
    · split at h
      · cases h
        simp only [List.cons.sizeOf_spec, Prod.mk.sizeOf_spec]
        omega
      · cases h

end Members

/-! ## Values -/

/-- A JSON value. -/
inductive Json where
  | null
  | bool (b : Bool)
  | int (n : Int)
  | float (x : Double)
  | str (s : String)
  | arr (items : List Json)
  | obj (members : List (String × Json))
deriving Inhabited

namespace Json

/-- Whether a value is `null` or a number that has no JSON form, for which `null` is written. -/
def isVoid : Json → Bool
  | .null => true
  | .float x => !x.isFinite
  | _ => false

mutual

/-- The value with repeated keys merged at every depth. -/
def merged : Json → Json
  | .arr items => .arr (mergedItems items)
  | .obj members => .obj (Members.merge (mergedMembers members))
  | j => j

/-- Merges the keys in every element. -/
def mergedItems : List Json → List Json
  | [] => []
  | j :: js => merged j :: mergedItems js

/-- Merges the keys in every member's value. -/
def mergedMembers : List (String × Json) → List (String × Json)
  | [] => []
  | (k, j) :: ms => (k, merged j) :: mergedMembers ms

end

mutual

/-- The value with `null` for every number that is not finite. -/
def settled : Json → Json
  | .float x => if x.isFinite then .float x else .null
  | .arr items => .arr (settledItems items)
  | .obj members => .obj (settledMembers members)
  | j => j

/-- Settles every element. -/
def settledItems : List Json → List Json
  | [] => []
  | j :: js => settled j :: settledItems js

/-- Settles every member's value. -/
def settledMembers : List (String × Json) → List (String × Json)
  | [] => []
  | (k, j) :: ms => (k, settled j) :: settledMembers ms

end

/-! ## Equality

Two values are equal when they hold the same numbers, texts and elements; numbers compare by value, so that `1`, `1.0`
and `true` are equal, and objects compare without regard to order.
-/

/-- A boolean or number as what it is compared by: an integer or a binary64 value. -/
def number? : Json → Option (Int ⊕ Double)
  | .bool b => some (.inl (if b then 1 else 0))
  | .int n => some (.inl n)
  | .float x => some (.inr x)
  | _ => none

/-- Equality of numbers by value. -/
def sameNumber : Int ⊕ Double → Int ⊕ Double → Bool
  | .inl a, .inl b => a == b
  | .inl a, .inr y => y.isInt a
  | .inr x, .inl b => x.isInt b
  | .inr x, .inr y => x.same y

mutual

/-- Equality by value, for values without repeated keys. -/
def same : Json → Json → Bool
  | .null, .null => true
  | .str s, .str t => s == t
  | .arr xs, .arr ys => sameItems xs ys
  | .obj ms, .obj ns => ms.length == ns.length && sameMembers ms ns
  | a, b =>
    match number? a, number? b with
    | some x, some y => sameNumber x y
    | _, _ => false

/-- Equality of lists, element by element. -/
def sameItems : List Json → List Json → Bool
  | [], [] => true
  | x :: xs, y :: ys => same x y && sameItems xs ys
  | _, _ => false

/-- Whether each member has an equal partner under its key. -/
def sameMembers : List (String × Json) → List (String × Json) → Bool
  | [], _ => true
  | (k, j) :: ms, ns =>
    (match Members.find? k ns with
      | some j' => same j j'
      | none => false) && sameMembers ms ns

end

end Json

end LspWire
