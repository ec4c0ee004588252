import LspWire.Issue.Basic

/-!
# Paths

A path names a place in a JSON value: `$`, then `.key` for a member and `[index]` for an element. It is made from a
location by following it in the value. A step that leads nowhere from an object is left out unless it is the last, and
so is a name where there is no object; that drops the labels of unions. Once a step has left the value, or if the value
is not known, every step is written.
-/

namespace LspWire

namespace Step

/-- The text of a step that is not an index. -/
def name? : Step → Option String
  | .key k => some k
  | .index _ => none
  | .arm label => some label
  | .mapKey => some "[key]"

/-- A step on its own, as a list of steps shows it. -/
def shown : Step → String
  | .key k => k
  | .index i => String.ofList (Json.intText i)
  | .arm label => label
  | .mapKey => "[key]"

/-- A step in a path. -/
def inPath : Step → String
  | .index i => "[" ++ String.ofList (Json.intText i) ++ "]"
  | s => "." ++ s.shown

end Step

/-- The element at an index that may be out of bounds. -/
def elementAt? (items : List Json) (i : Int) : Option Json :=
  if 0 ≤ i then items[i.toNat]? else none

/-- The steps of a location that a path keeps, from a value on. -/
def keptSteps : Option Json → List Step → List Step
  | none, ss => ss
  | some _, [] => []
  | some j, s :: ss =>
    match s.name?, j with
    | some k, .obj ms =>
      match Members.find? k ms with
      | some v => s :: keptSteps (some v) ss
      | none => if ss.isEmpty then [s] else keptSteps (some j) ss
    | some _, _ => keptSteps (some j) ss
    | none, .arr items =>
      match s with
      | .index i => s :: keptSteps (elementAt? items i) ss
      | _ => s :: ss
    | none, _ => s :: ss

/-- The text of a path: `$`, and one step after the other. -/
def pathText (steps : List Step) : String := "$" ++ String.join (steps.map Step.inPath)

/-- The path of a location in a value, if the value is known. -/
def path (data : Option Json) (location : List Step) : String := pathText (keptSteps data location)

end LspWire
