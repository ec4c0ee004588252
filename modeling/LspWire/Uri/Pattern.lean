import LspWire.Uri.Basic

/-!
# Patterns

Regular expressions as they are matched by backtracking: from the start of the text on, of two alternatives the first
that lets the rest match, and of a repetition as much as lets the rest match. What a group matches is kept. The end of
a text is also right before a line feed that ends it.

`referencePattern` is the expression of RFC 3986, appendix B, which splits a URI reference. The others say which
characters a component may have.
-/

namespace LspWire.Uri

/-- A regular expression whose groups are named by components. -/
inductive Pattern where
  /-- A character of a class. -/
  | char (allowed : Char → Bool)
  | seq (p q : Pattern)
  | alt (p q : Pattern)
  /-- Once if possible. -/
  | opt (p : Pattern)
  /-- As often as possible. -/
  | star (p : Pattern)
  | group (part : Part) (p : Pattern)
  /-- The end of the text. -/
  | atEnd

/-- What the groups have matched. -/
abbrev Captures := Part → Option (List Char)

namespace Captures

/-- Nothing. -/
def none : Captures := fun _ => .none

/-- The captures with what a group has matched. -/
def set (g : Captures) (part : Part) (cs : List Char) : Captures := fun q => if q = part then some cs else g q

/-- The captures with what a group has matched, if it has. -/
def put (g : Captures) (part : Part) : Option (List Char) → Captures
  | .none => g
  | some cs => g.set part cs

end Captures

namespace Pattern

/-- Matches the start of a text and goes on with the rest; fails if no way of matching lets it go on. -/
def run (p : Pattern) (g : Captures) (cs : List Char) (next : Captures → List Char → Option Captures) :
    Option Captures :=
  match p with
  | .char allowed =>
    match cs with
    | c :: cs => if allowed c then next g cs else none
    | [] => none
  | .seq p q => p.run g cs fun g cs => q.run g cs next
  | .alt p q => (p.run g cs next).or (q.run g cs next)
  | .opt p => (p.run g cs next).or (next g cs)
  | .star p =>
    (p.run g cs fun g rest => if rest.length < cs.length then (Pattern.star p).run g rest next else none).or (next g cs)
  | .group part p => p.run g cs fun g rest => next (g.set part (cs.take (cs.length - rest.length))) rest
  | .atEnd => if cs = [] ∨ cs = ['\n'] then next g cs else none
termination_by (sizeOf p, cs.length)

/-- What the groups match in the first match at the start of a text. -/
def match? (p : Pattern) (cs : List Char) : Option Captures := p.run .none cs fun g _ => some g

/-- Whether there is a match at the start of a text. -/
def accepts (p : Pattern) (cs : List Char) : Bool := (p.match? cs).isSome

/-! ## The patterns of a URI reference -/

/-- One given character. -/
def one (c : Char) : Pattern := .char (· == c)

/-- Any character but some. -/
def noneOf (stops : List Char) : Pattern := .char fun c => !stops.contains c

/-- Once or more. -/
def plus (p : Pattern) : Pattern := .seq p (.star p)

/-- A component: all characters up to some. -/
def upTo (part : Part) (stops : List Char) : Pattern := .group part (.star (noneOf stops))

/-- The components of a URI reference. -/
def reference : Pattern :=
  .seq (.opt (.seq (.group .scheme (plus (noneOf [':', '/', '?', '#']))) (one ':'))) <|
  .seq (.opt (.seq (one '/') (.seq (one '/') (upTo .authority ['/', '?', '#'])))) <|
  .seq (upTo .path ['?', '#']) <|
  .seq (.opt (.seq (one '?') (upTo .query ['#']))) <|
  .seq (.opt (.seq (one '#') (upTo .fragment []))) .atEnd

/-- A letter, then scheme characters. -/
def scheme : Pattern := .seq (.char isLetter) (.seq (.star (.char isSchemeChar)) .atEnd)

/-- Characters of a class and percent triplets. -/
def component (allowed : Char → Bool) : Pattern :=
  .seq (.star (.alt (.char allowed) (.seq (one '%') (.seq (.char isHex) (.char isHex))))) .atEnd

end Pattern

/-- The pattern of a component's text. -/
def Part.pattern : Part → Pattern
  | .scheme => .scheme
  | .authority => .component isAuthorityChar
  | .path => .component isPathChar
  | .query => .component isFragmentChar
  | .fragment => .component isFragmentChar

/-- The components as what groups have matched. -/
def Parts.captures (p : Parts) : Captures
  | .scheme => p.scheme
  | .authority => p.authority
  | .path => some p.path
  | .query => p.query
  | .fragment => p.fragment

end LspWire.Uri
