import TableSketch.Ddl
import TableSketch.Preview
import TableSketch.Schema.Document
import TableSketch.Schema.Duplicates
import TableSketch.Sketch.Tables

/-!
# Working on a schema

A session holds the tables collected so far and the flags. Sketches are read one
after the other, their tables going behind those that are there; tables can be
extended, duplicates resolved, and the whole schema written out as a document and
read in again.
-/

namespace TableSketch

/-- The tables and flags at hand. -/
structure Session where
  tables : List Table := []
  flags : Flags := {}
  deriving Repr

namespace Session

/-- Reads a sketch and puts its tables behind the others. -/
def addSketch (s : Session) (mode : ScanMode) (text : String) : Session :=
  { s with tables := s.tables ++ TableSketch.tables mode text }

/-- The position that an index names; a negative one counts from the end. -/
def position? (s : Session) (index : Int) : Option Nat :=
  let n := s.tables.length
  let i := if index < 0 then index + n else index
  if 0 ≤ i ∧ i < n then some i.toNat else none

/-- Puts columns behind those of the table at an index, and also gives the table as it was. -/
def extendTable? (s : Session) (index : Int) (more : List Column) : Option (Session × Table) := do
  let i ← s.position? index
  let old ← s.tables[i]?
  some ({ s with tables := s.tables.set i (old.extend more) }, old)

/-- Forgets the tables, but not the flags. -/
def clearTables (s : Session) : Session :=
  { s with tables := [] }

/-- Stores a flag. -/
def setFlag (s : Session) (name : String) (value : Json) : Session :=
  { s with flags := s.flags.set name value }

/-- Resolves duplicate tables. -/
def resolveDuplicates (s : Session) (p : DuplicatePolicy) : Session :=
  { s with tables := TableSketch.resolveDuplicates p s.tables }

/-- The document of the session. -/
def document (s : Session) : SchemaDocument :=
  .ofTables s.tables s.flags

/-- The session of a document. -/
def ofDocument (d : SchemaDocument) : Session :=
  ⟨d.tables.map (·.table), d.flags⟩

/-- Writes the document and reads it in again. -/
def reload? (s : Session) : Option Session :=
  match Json.read? s.document.text with
  | some j => (SchemaDocument.ofJson j).toOption.map ofDocument
  | none => none

end Session

end TableSketch
