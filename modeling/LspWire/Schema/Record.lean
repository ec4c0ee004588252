import LspWire.Schema.Ty

/-!
# Record declarations

A record has fields in a fixed order, which is the order they are read, reported and written in. A record may take over
the fields of others: those of the last one come first, its own last, and a field that is declared again keeps its first
place with its last declaration.
-/

namespace LspWire

/-- A field of a record. -/
structure Field where
  /-- The name of the field, under which it is read as well. -/
  name : String
  /-- The key that the field is written under. -/
  wire : String
  ty : Ty
  /-- The value of the field when its key is absent; a field without one is required. -/
  absent : Option Value
  /-- Whether the field is written even if it is `null`. -/
  keepsNull : Bool

/-- The declaration of a record. -/
structure Record where
  cls : Class
  /-- The classes whose fields it has. -/
  ancestors : List Class
  fields : List Field
  /-- Whether members that are no fields are kept. -/
  keepsExtra : Bool

namespace Schema

/-! ## Fields -/

/-- A field that has to be there. -/
def required (name : String) (ty : Ty) : Field := ⟨name, name, ty, none, false⟩

/-- A field that may be `null` or absent. -/
def optional (name : String) (ty : Ty) : Field := ⟨name, name, .optional ty, some .null, false⟩

/-- A field with one text, taken for granted when absent. -/
def tag (name text : String) : Field := ⟨name, name, .literal text, some (.str text), false⟩

/-- A field that is written even if it is `null`. -/
def nullable (f : Field) : Field := { f with keepsNull := true }

/-- A field whose key is not its name. -/
def renamed (wire : String) (f : Field) : Field := { f with wire := wire }

/-- The tags of a client, for which older clients write a boolean: `true` stands for no tag in particular. -/
def tagSupportOrFlag : Field :=
  ⟨"tagSupport", "tagSupport",
    .switch (.record .tagSupportOfDiagnosticTag [("valueSet", .list [])] []) (.record .tagSupportOfDiagnosticTag),
    some .null, false⟩

/-! ## Registration options -/

/-- The keys whose presence makes options registration options. -/
def registrationKeys : List String := ["documentSelector", "id"]

/-- Whether one of them is a field. -/
def hasRegistrationKey (fields : List Field) : Bool := fields.any fun f => registrationKeys.contains f.name

/-! ## Records -/

/-- Declares a field, at its place if there is one of its name and at the end if not. -/
def putField (f : Field) : List Field → List Field
  | [] => [f]
  | g :: fs => if g.name = f.name then f :: fs else g :: putField f fs

/-- The fields of declarations in sequence. -/
def mergeFields (fs : List Field) : List Field := fs.foldl (fun acc f => putField f acc) []

/-- A record with its fields. -/
def record (cls : Class) (fields : List Field) : Record := ⟨cls, [.anyRecord], fields, false⟩

/-- A record that keeps the members that are no fields. -/
def openRecord (cls : Class) (fields : List Field) : Record := ⟨cls, [.anyRecord], fields, true⟩

/-- A record with the fields of others and its own. -/
def extend (cls : Class) (bases : List Record) (own : List Field) : Record :=
  ⟨cls, bases.flatMap fun b => b.cls :: b.ancestors,
    mergeFields ((bases.reverse.flatMap fun b => b.fields) ++ own), false⟩

end Schema

end LspWire
