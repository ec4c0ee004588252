import LspWire.Uri.Reference
import LspWire.Text.Quoted

/-!
# URI references

A URI reference keeps its text exactly as it was written; only the characters of its components are checked. A component
is made of the characters its class allows and of `%` with two hexadecimal digits, and may end in one line feed. The
components are tested in order, and the first that fails is the problem.
-/

namespace LspWire

namespace Uri

/-! ## Character classes -/

/-- The ASCII letters. -/
def isLetter (c : Char) : Bool := ('a' ≤ c && c ≤ 'z') || ('A' ≤ c && c ≤ 'Z')

/-- The ASCII digits. -/
def isDigit (c : Char) : Bool := '0' ≤ c && c ≤ '9'

/-- The hexadecimal digits, in either case. -/
def isHex (c : Char) : Bool := isDigit c || ('a' ≤ c && c ≤ 'f') || ('A' ≤ c && c ≤ 'F')

/-- The unreserved characters. -/
def isUnreserved (c : Char) : Bool := isLetter c || isDigit c || ['-', '.', '_', '~'].contains c

/-- The sub-delimiters. -/
def isSubDelimiter (c : Char) : Bool := ['!', '$', '&', '\'', '(', ')', '*', '+', ',', ';', '='].contains c

/-- The characters of a scheme after its first letter. -/
def isSchemeChar (c : Char) : Bool := isLetter c || isDigit c || ['+', '.', '-'].contains c

/-- The characters of an authority. -/
def isAuthorityChar (c : Char) : Bool := isUnreserved c || isSubDelimiter c || [':', '@', '[', ']'].contains c

/-- The characters of a path. -/
def isPathChar (c : Char) : Bool := isUnreserved c || isSubDelimiter c || [':', '@', '/'].contains c

/-- The characters of a query or a fragment. -/
def isFragmentChar (c : Char) : Bool := isPathChar c || c == '?'

/-! ## Components -/

/-- Whether a component is made of allowed characters and percent triplets, with at most one line feed at its end. -/
def consistsOf (allowed : Char → Bool) : List Char → Bool
  | [] => true
  | ['\n'] => true
  | '%' :: a :: b :: cs => isHex a && isHex b && consistsOf allowed cs
  | c :: cs => allowed c && consistsOf allowed cs

/-- Whether a text is a scheme: a letter, then scheme characters, with at most one line feed at the end. -/
def isScheme : List Char → Bool
  | [] => false
  | c :: cs => isLetter c && (match cs.reverse with
    | '\n' :: ds => ds.all isSchemeChar
    | ds => ds.all isSchemeChar)

/-- The name of a component. -/
inductive Part where
  | scheme
  | authority
  | path
  | query
  | fragment
deriving DecidableEq, Repr

/-- A component as messages call it. -/
def Part.name : Part → String
  | .scheme => "scheme"
  | .authority => "authority"
  | .path => "path"
  | .query => "query"
  | .fragment => "fragment"

/-- A component whose text is not allowed. -/
structure Problem where
  part : Part
  text : String
deriving DecidableEq, Repr

/-- A problem in words. -/
def Problem.reason (p : Problem) : String :=
  "invalid " ++ p.part.name ++ " " ++ Text.quoted p.text

/-- The problem of a component that fails its test. -/
def check (part : Part) (ok : List Char → Bool) : Option (List Char) → Option Problem
  | none => none
  | some cs => if ok cs then none else some ⟨part, String.ofList cs⟩

/-- The first component with a problem. -/
def Parts.problem? (p : Parts) : Option Problem :=
  (check .scheme isScheme p.scheme).or <|
  (check .authority (consistsOf isAuthorityChar) p.authority).or <|
  (check .path (consistsOf isPathChar) (some p.path)).or <|
  (check .query (consistsOf isFragmentChar) p.query).or <|
  check .fragment (consistsOf isFragmentChar) p.fragment

end Uri

/-- A URI reference: a text whose components have no problem. -/
structure Uri where
  text : String
  valid : (Uri.split text.toList).problem? = none
deriving DecidableEq

namespace Uri

/-- A text that is not a URI reference, with its problem. -/
structure Invalid where
  text : String
  problem : Problem
deriving DecidableEq, Repr

/-- The message about a text that is not a URI reference. -/
def Invalid.message (e : Invalid) : String :=
  "invalid URI " ++ Text.quoted e.text ++ ": " ++ e.problem.reason

/-- Reads a text as a URI reference. -/
def parse (text : String) : Except Invalid Uri :=
  match h : (split text.toList).problem? with
  | none => .ok ⟨text, h⟩
  | some p => .error ⟨text, p⟩

/-- The components. -/
def parts (u : Uri) : Parts := split u.text.toList

/-- Whether there is a scheme; without one the reference is relative. -/
def isAbsolute (u : Uri) : Bool := u.parts.scheme.isSome

/-- A reference as messages show it. -/
def shown (u : Uri) : String := "Uri(" ++ Text.quoted u.text ++ ")"

end Uri

end LspWire
