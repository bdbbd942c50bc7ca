import TableSketch.Text.Blank
import TableSketch.Text.Pieces

/-!
# The entries of a block

A body is cut into lines at line feeds and semicolons. A line with a colon is an
entry: the key stands before its first colon, the value behind it. Blanks around
the key and around every further colon of the value do not count, so that
`a :  b : c` and `a:b:c` are one entry.

The entry `shape: sql_table` is the directive that makes a block a table. Every
other entry with a key and a value declares a column.
-/

namespace TableSketch

/-- A key and a value. -/
structure Entry where
  key : List Char
  value : List Char
  deriving DecidableEq, Repr

namespace Entry

/-- Reads a line; a line without a colon is no entry. -/
def ofLine? (line : List Char) : Option Entry :=
  match (Text.pieces (· == ':') line).map Text.trim with
  | [] | [_] => none
  | key :: values => some ⟨key, Text.trim (Text.rejoin ':' values)⟩

/-- The entry that makes a block a table. -/
def directive : Entry :=
  ⟨"shape".toList, "sql_table".toList⟩

/-- Whether an entry declares a column. -/
def isColumn (e : Entry) : Bool :=
  e != directive && !e.key.isEmpty && !e.value.isEmpty

end Entry

/-- Lines end at line feeds and at semicolons. -/
def isLineEnd (c : Char) : Bool :=
  c == '\n' || c == ';'

/-- The entries of a body, in order. -/
def entries (body : List Char) : List Entry :=
  (Text.pieces isLineEnd body).filterMap fun line => Entry.ofLine? (Text.trim line)

end TableSketch
