/-!
# Components of a URI reference

A reference is `[scheme ":"] ["//" authority] path ["?" query] ["#" fragment]`. Every text splits in this way: the
scheme ends at the first colon if no `/`, `?` or `#` comes before it and it is not empty, the authority at the next `/`,
`?` or `#`, the path at the next `?` or `#`, the query at the next `#`. `Parts.join` puts the components together again.
-/

namespace LspWire.Uri

/-- The five components; the path is always there. -/
structure Parts where
  scheme : Option (List Char)
  authority : Option (List Char)
  path : List Char
  query : Option (List Char)
  fragment : Option (List Char)
deriving DecidableEq, Repr

/-- The part of a text before the first of some characters. -/
def before (stops : List Char) (cs : List Char) : List Char :=
  cs.takeWhile fun c => !stops.contains c

/-- The part of a text from the first of some characters on. -/
def from? (stops : List Char) (cs : List Char) : List Char :=
  cs.dropWhile fun c => !stops.contains c

/-- The scheme and what follows its colon. -/
def splitScheme (cs : List Char) : Option (List Char) × List Char :=
  match before [':', '/', '?', '#'] cs, from? [':', '/', '?', '#'] cs with
  | c :: s, ':' :: rest => (some (c :: s), rest)
  | _, _ => (none, cs)

/-- The authority after two slashes, and what follows it. -/
def splitAuthority : List Char → Option (List Char) × List Char
  | '/' :: '/' :: cs => (some (before ['/', '?', '#'] cs), from? ['/', '?', '#'] cs)
  | cs => (none, cs)

/-- The query after its mark, and what follows it. -/
def splitQuery : List Char → Option (List Char) × List Char
  | '?' :: cs => (some (before ['#'] cs), from? ['#'] cs)
  | cs => (none, cs)

/-- The fragment after its mark. -/
def splitFragment : List Char → Option (List Char)
  | '#' :: cs => some cs
  | _ => none

/-- The components of a text. -/
def split (cs : List Char) : Parts :=
  let s := splitScheme cs
  let a := splitAuthority s.2
  let q := splitQuery (from? ['?', '#'] a.2)
  ⟨s.1, a.1, before ['?', '#'] a.2, q.1, splitFragment q.2⟩

/-- The text with these components. -/
def Parts.join (p : Parts) : List Char :=
  (match p.scheme with | some s => s ++ [':'] | none => []) ++
  (match p.authority with | some a => '/' :: '/' :: a | none => []) ++
  p.path ++
  (match p.query with | some q => '?' :: q | none => []) ++
  (match p.fragment with | some f => '#' :: f | none => [])

end LspWire.Uri
