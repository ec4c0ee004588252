import LspWire.Schema.Ty

/-!
# Issues of a decode

What can be wrong with a JSON value at a type, and where. A location leads from the root by keys and indexes; where a
union chose an arm it holds the label of that arm as well, which is no part of the value.
-/

namespace LspWire

/-- A step of a location. -/
inductive Step where
  /-- The value under a key. -/
  | key (k : String)
  /-- The element at an index. -/
  | index (i : Int)
  /-- The arm of a union. -/
  | arm (label : String)
  /-- A key of a map as a value of its own. -/
  | mapKey
deriving DecidableEq, Repr

/-- The shapes that a JSON value can be expected to have. -/
inductive Shape where
  | record (c : Class)
  | map
  | taggedObject
  | list
  | tuple
  | null
  | boolean
  | integer
  | number
  | string
  | uriString
deriving DecidableEq

/-- What is wrong with a value. -/
inductive Cause where
  /-- The text is not JSON. -/
  | notJson
  /-- A required field or element is absent. -/
  | missing
  | expected (shape : Shape)
  /-- A pair with more than two elements. -/
  | tooLong (length : Nat)
  /-- The key of a tag is absent. -/
  | tagAbsent (key : String)
  /-- A tag that names no arm. -/
  | tagUnknown (key : String) (tag : Json) (known : List String)
  /-- A provider that is neither options nor a boolean that is allowed. -/
  | notOptions
  | below (lo : Int)
  | above (hi : Int)
  | notInt32 (n : Int)
  | notFlags (n : Int)
  | badUri (problem : Uri.Problem)
  /-- Not one of a few texts. -/
  | notAmong (texts : List String)

/-- A problem of a value: what is wrong, and where. -/
structure Issue where
  cause : Cause
  location : List Step

/-- The kinds of problems. -/
inductive IssueKind where
  | structural
  | missingField
  | invalidPrimitive
  | discriminatorMismatch
deriving DecidableEq, Repr

/-- The name of a kind. -/
def IssueKind.name : IssueKind → String
  | .structural => "structural"
  | .missingField => "missingField"
  | .invalidPrimitive => "invalidPrimitive"
  | .discriminatorMismatch => "discriminatorMismatch"

/-- The kind of a problem. -/
def Cause.kind : Cause → IssueKind
  | .notJson | .expected _ | .tooLong _ => .structural
  | .missing => .missingField
  | .tagAbsent _ | .tagUnknown .. | .notOptions | .notAmong _ => .discriminatorMismatch
  | .below _ | .above _ | .notInt32 _ | .notFlags _ | .badUri _ => .invalidPrimitive

/-- The issue as seen from one step further out. -/
def Issue.within (s : Step) (i : Issue) : Issue := { i with location := s :: i.location }

/-! ## Outcomes -/

/-- A result, or every problem that was found. -/
abbrev Outcome (α : Type) := Except (List Issue) α

namespace Outcome

variable {α β : Type}

/-- One problem, here. -/
def fail (c : Cause) : Outcome α := .error [⟨c, []⟩]

/-- The outcome as seen from one step further out. -/
def within (s : Step) : Outcome α → Outcome α
  | .ok a => .ok a
  | .error is => .error (is.map (Issue.within s))

/-- Both results, or the problems of both. -/
def both : Outcome α → Outcome β → Outcome (α × β)
  | .ok a, .ok b => .ok (a, b)
  | .ok _, .error js => .error js
  | .error is, .ok _ => .error is
  | .error is, .error js => .error (is ++ js)

/-- Applies a function to the result. -/
def map (f : α → β) : Outcome α → Outcome β
  | .ok a => .ok (f a)
  | .error is => .error is

/-- The first result, or the problems of both. -/
def orElse : Outcome α → Outcome α → Outcome α
  | .ok a, _ => .ok a
  | .error _, .ok b => .ok b
  | .error is, .error js => .error (is ++ js)

end Outcome

end LspWire
