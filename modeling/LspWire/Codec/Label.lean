import LspWire.Schema.Ty

/-!
# Labels of types

The label by which a location names the arm of an untagged union.
-/

namespace LspWire.Ty

mutual

/-- The label of a type. -/
def label : Ty → String
  | .any => "any"
  | .null => "none"
  | .bool => "bool"
  | .integer => "int"
  | .bounded .. => "constrained-int"
  | .float => "float"
  | .str => "str"
  | .uri | .intEnum _ | .openEnum _ | .watchKind => "function-plain[_validate()]"
  | .closedEnum e => e.constants.name
  | .literal s => "literal[" ++ Text.quoted s ++ "]"
  | .list t => "list[" ++ label t ++ "]"
  | .pair a b => "tuple[" ++ label a ++ ", " ++ label b ++ "]"
  | .map .text t => "dict[str," ++ label t ++ "]"
  | .map .uri t => "dict[function-plain[_validate()]," ++ label t ++ "]"
  | .record c => c.name
  | .optional t => "nullable[" ++ label t ++ "]"
  | .oneOf arms => "union[" ++ ",".intercalate (labels arms) ++ "]"
  | .tagged _ arms => "tagged-union[" ++ ",".intercalate (armLabels arms) ++ "]"
  | .provider boolean p r =>
    "tagged-union[" ++ (if boolean then "bool," else "") ++ p.name ++ "," ++ r.name ++ "]"
  | .switch _ t => "nullable[" ++ label t ++ "]"

/-- The labels of types. -/
def labels : List Ty → List String
  | [] => []
  | t :: ts => label t :: labels ts

/-- The labels of tagged types. -/
def armLabels : List (String × Ty) → List String
  | [] => []
  | (_, t) :: ts => label t :: armLabels ts

end

end LspWire.Ty
