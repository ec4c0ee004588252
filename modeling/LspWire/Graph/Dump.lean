import LspWire.Codec.View
import LspWire.Codec.Decode
import LspWire.Text.Blank

/-!
# Index dumps

A dump is a sequence of lines, each the JSON text of one entry: a vertex or an edge. Blank lines are skipped. Reading
stops at the first line that is not an entry.
-/

namespace LspWire

namespace Graph

/-- Reads one line of a dump. -/
def decodeEntry (line : String) : Except (List Report) Value := decodeText Schema.entry line

/-- The entries of the lines before the first that does not read, and the problems of that line. -/
def readLines : List String → List Value × Option (List Report)
  | [] => ([], none)
  | l :: ls =>
    if Text.isBlankLine l then readLines ls
    else
      match decodeEntry l with
      | .ok v =>
        let r := readLines ls
        (v :: r.1, r.2)
      | .error rs => ([], some rs)

/-- The line of an entry, without line feed. -/
def entryText (v : Value) : String := v.toText

/-- The text of a dump: a line for each entry. -/
def dump (vs : List Value) : String := String.join (vs.map fun v => entryText v ++ "\n")

/-- The range of a range vertex. -/
def range? : Value → Option Value
  | .record .rangeVertex fields _ =>
    match Members.find? "start" fields, Members.find? "end" fields with
    | some s, some e => some (.record .range [("start", s), ("end", e)] [])
    | _, _ => none
  | _ => none

end Graph

end LspWire
