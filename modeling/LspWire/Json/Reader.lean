import LspWire.Json.Token

/-!
# Reading a JSON text

The value of a token sequence is built with a stack of the arrays and objects that are still open, so the reader goes
once through the tokens. A text has a value when its tokens have one and nothing follows it.
-/

namespace LspWire.Json

/-- An open container: the elements of an array in reverse, or the members of an object in reverse with the key that
    waits for its value. -/
inductive Frame where
  | array (done : List Json)
  | object (done : List (String × Json)) (key : String)

/-- What the next token may be. -/
inductive Expecting where
  /-- A value. -/
  | value
  /-- The first element of an array, or its end. -/
  | element
  /-- The first key of an object, or its end. -/
  | firstKey
  /-- A key of an object with these members. -/
  | key (done : List (String × Json))
  /-- The colon after a key of an object with these members. -/
  | colon (done : List (String × Json)) (key : String)
  /-- A comma or the end of the innermost container, after a value in it. -/
  | separator (j : Json)

/-- Reads the rest of a token sequence. -/
def run : Expecting → List Frame → List Token → Option Json
  | .separator j, [], [] => some j
  | _, _, [] => none
  | .value, fs, .text s :: ts => run (.separator (.str s)) fs ts
  | .value, fs, .word j :: ts => run (.separator j) fs ts
  | .value, fs, .openArray :: ts => run .element (.array [] :: fs) ts
  | .value, fs, .openObject :: ts => run .firstKey fs ts
  | .element, fs, .text s :: ts => run (.separator (.str s)) fs ts
  | .element, fs, .word j :: ts => run (.separator j) fs ts
  | .element, fs, .openArray :: ts => run .element (.array [] :: fs) ts
  | .element, fs, .openObject :: ts => run .firstKey fs ts
  | .element, _ :: fs, .closeArray :: ts => run (.separator (.arr [])) fs ts
  | .firstKey, fs, .text k :: ts => run (.colon [] k) fs ts
  | .firstKey, fs, .closeObject :: ts => run (.separator (.obj [])) fs ts
  | .key done, fs, .text k :: ts => run (.colon done k) fs ts
  | .colon done k, fs, .colon :: ts => run .value (.object done k :: fs) ts
  | .separator j, .array done :: fs, .comma :: ts => run .value (.array (j :: done) :: fs) ts
  | .separator j, .array done :: fs, .closeArray :: ts => run (.separator (.arr (j :: done).reverse)) fs ts
  | .separator j, .object done k :: fs, .comma :: ts => run (.key ((k, j) :: done)) fs ts
  | .separator j, .object done k :: fs, .closeObject :: ts =>
    run (.separator (.obj ((k, j) :: done).reverse)) fs ts
  | _, _, _ :: _ => none

/-- The value of a text, repeated keys kept. -/
def ofText? (s : String) : Option Json :=
  match tokens s.toList with
  | some ts => run .value [] ts
  | none => none

/-- The value of a text in UTF-8. -/
def ofBytes? (bytes : ByteArray) : Option Json :=
  match String.fromUTF8? bytes with
  | some s => ofText? s
  | none => none

end LspWire.Json
