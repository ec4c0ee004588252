import LspWire.Uri.Basic
import Mathlib.Computability.Language

/-!
# The grammar of RFC 3986

The productions of RFC 3986, appendix A, as languages: `+` is a choice, `*` a concatenation, `∗` a repetition and `^` a
repetition of a given length. Letters of literals and hexadecimal digits are taken in either case, as in any ABNF.
-/

namespace LspWire.Uri.Grammar

open scoped Computability

/-! ## Parts of productions -/

/-- One character of a class. -/
def chars (allowed : Char → Bool) : Language Char := {cs | ∃ c, allowed c = true ∧ cs = [c]}

/-- A character between two others, in the order of code points. -/
def between (a b : Char) : Language Char := chars fun c => a ≤ c && c ≤ b

/-- A given text. -/
def lit (cs : List Char) : Language Char := {ds | ds = cs}

/-- Once or not at all. -/
def optional (l : Language Char) : Language Char := 1 + l

/-- Once or more. -/
def many (l : Language Char) : Language Char := l * l∗

/-! ## Characters -/

def pctEncoded : Language Char := lit ['%'] * (chars isHex * chars isHex)

/-- A character of a registered name. -/
def regChar : Language Char := chars isUnreserved + pctEncoded + chars isSubDelimiter

def pchar : Language Char := regChar + lit [':'] + lit ['@']

/-! ## Schemes and authorities -/

def scheme : Language Char := chars isLetter * (chars isLetter + chars isDigit + lit ['+'] + lit ['-'] + lit ['.'])∗

def decOctet : Language Char :=
  chars isDigit + between '1' '9' * chars isDigit + lit ['1'] * chars isDigit ^ 2 +
  lit ['2'] * (between '0' '4' * chars isDigit) + lit ['2', '5'] * between '0' '5'

def ipv4Address : Language Char := decOctet * (lit ['.'] * decOctet) ^ 3

def h16 : Language Char := chars isHex * optional (chars isHex) ^ 3

def ls32 : Language Char := h16 * (lit [':'] * h16) + ipv4Address

/-- Pieces of an address, each with its colon. -/
def pieces (n : Nat) : Language Char := (h16 * lit [':']) ^ n

/-- No pieces before a double colon, or one with others and their colons before it. -/
def piecesUpTo (n : Nat) : Language Char := optional (optional (h16 * lit [':']) ^ n * h16)

def ipv6Address : Language Char :=
  pieces 6 * ls32 +
  lit [':', ':'] * (pieces 5 * ls32) +
  piecesUpTo 0 * (lit [':', ':'] * (pieces 4 * ls32)) +
  piecesUpTo 1 * (lit [':', ':'] * (pieces 3 * ls32)) +
  piecesUpTo 2 * (lit [':', ':'] * (pieces 2 * ls32)) +
  piecesUpTo 3 * (lit [':', ':'] * (pieces 1 * ls32)) +
  piecesUpTo 4 * (lit [':', ':'] * ls32) +
  piecesUpTo 5 * (lit [':', ':'] * h16) +
  piecesUpTo 6 * lit [':', ':']

def ipvFuture : Language Char :=
  (lit ['v'] + lit ['V']) * (many (chars isHex) *
    (lit ['.'] * many (chars isUnreserved + chars isSubDelimiter + lit [':'])))

def ipLiteral : Language Char := lit ['['] * ((ipv6Address + ipvFuture) * lit [']'])

def host : Language Char := ipLiteral + ipv4Address + regChar∗

def userinfo : Language Char := (regChar + lit [':'])∗

def authority : Language Char :=
  optional (userinfo * lit ['@']) * (host * optional (lit [':'] * (chars isDigit)∗))

/-! ## Paths -/

def segment : Language Char := pchar∗

def segmentNz : Language Char := many pchar

def segmentNzNc : Language Char := many (regChar + lit ['@'])

def pathAbempty : Language Char := (lit ['/'] * segment)∗

def pathAbsolute : Language Char := lit ['/'] * optional (segmentNz * pathAbempty)

def pathNoscheme : Language Char := segmentNzNc * pathAbempty

def pathRootless : Language Char := segmentNz * pathAbempty

def pathEmpty : Language Char := 1

/-! ## References -/

/-- What a query and a fragment are made of. -/
def query : Language Char := (pchar + lit ['/'] + lit ['?'])∗

/-- A query and a fragment, each with its mark, or without one. -/
def ending : Language Char := optional (lit ['?'] * query) * optional (lit ['#'] * query)

def hierPart : Language Char := lit ['/', '/'] * (authority * pathAbempty) + pathAbsolute + pathRootless + pathEmpty

def relativePart : Language Char := lit ['/', '/'] * (authority * pathAbempty) + pathAbsolute + pathNoscheme + pathEmpty

def uri : Language Char := scheme * (lit [':'] * (hierPart * ending))

def relativeRef : Language Char := relativePart * ending

def uriReference : Language Char := uri + relativeRef

end LspWire.Uri.Grammar
