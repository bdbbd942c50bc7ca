import TableSketch.Json.Reader
import TableSketch.Json.Writer
import TableSketch.Schema.Basic
import TableSketch.Schema.Flags
import TableSketch.Validation

/-!
# Schema documents

The form in which a schema leaves the program and comes back: a JSON document that
lists the tables, each with its columns and a truth value that tells whether it is
flagged for vector search.

Reading is lenient in three ways: fields that are not asked for are passed over,
`tables`, `columns` and `vector_search` may be left out, and a truth value may also
be given as one of the numbers 0 and 1 or as a word such as `yes` or `off`.
-/

namespace TableSketch

/-- A table with its flag. -/
structure FlaggedTable where
  table : Table
  flagged : Bool
  deriving DecidableEq, Repr

/-- A schema with a flag for each table. -/
structure SchemaDocument where
  tables : List FlaggedTable
  deriving DecidableEq, Repr

namespace SchemaDocument

/-- The document of tables whose flags are stored under their names. -/
def ofTables (ts : List Table) (flags : Flags) : SchemaDocument :=
  ⟨ts.map fun t => ⟨t, flags.marks t.name⟩⟩

/-- One flag for each table name, the last table of a name counting. -/
def flags (d : SchemaDocument) : Flags :=
  d.tables.foldl (fun fs t => fs.set t.table.name (.bool t.flagged)) {}

/-! ## Writing -/

/-- The object of a column. -/
def columnJson (c : Column) : Json :=
  .obj [("name", .str c.name), ("type", .str c.type)]

/-- The object of a table. -/
def tableJson (t : FlaggedTable) : Json :=
  .obj [("name", .str t.table.name), ("columns", .arr (t.table.columns.map columnJson)),
    ("vector_search", .bool t.flagged)]

/-- The document as a JSON value. -/
def toJson (d : SchemaDocument) : Json :=
  .obj [("tables", .arr (d.tables.map tableJson))]

/-- The text of the document. -/
def text (d : SchemaDocument) : String :=
  d.toJson.pretty

/-! ## Reading -/

/-- The words that stand for truth values. -/
def truthWords : List (String × Bool) :=
  [("0", false), ("off", false), ("f", false), ("false", false), ("n", false), ("no", false),
    ("1", true), ("on", true), ("t", true), ("true", true), ("y", true), ("yes", true)]

/-- Reads a string. -/
def checkString (place : List Step) : Json → Checked String
  | .str s => .ok s
  | _ => .fail place .notAString

/-- Reads the truth value of a whole number; those of more than 64 bits are no truth values at
all. -/
def checkTruthNumber (place : List Step) (i : Int) : Checked Bool :=
  if i = 0 then .ok false
  else if i = 1 then .ok true
  else if -(Nat.pow 2 63 : Int) ≤ i ∧ i < (Nat.pow 2 63 : Int) then .fail place .unreadableBool
  else .fail place .notABool

/-- The whole number that a number of the double format is, if it is one. -/
def wholeNumber? : Binary64 → Option Int
  | .finite negative m e =>
    let magnitude : Option Nat :=
      if 0 ≤ e then some (m * Nat.pow 2 e.toNat)
      else if m % Nat.pow 2 (-e).toNat = 0 then some (m / Nat.pow 2 (-e).toNat)
      else none
    magnitude.map fun n => if negative then -(n : Int) else n
  | _ => none

/-- Reads a truth value. -/
def checkBool (place : List Step) : Json → Checked Bool
  | .bool b => .ok b
  | .int i => checkTruthNumber place i
  | .real r =>
    match wholeNumber? r with
    | some i => if i.natAbs < Nat.pow 2 63 then checkTruthNumber place i else .fail place .notABool
    | none => .fail place .notABool
  | .str s =>
    match truthWords.lookup (String.ofList (s.toList.map Char.toLower)) with
    | some b => .ok b
    | none => .fail place .unreadableBool
  | _ => .fail place .notABool

/-- Reads a list, each item at its own place. -/
def checkList {α : Type} (item : List Step → Json → Checked α) (place : List Step) :
    Json → Checked (List α)
  | .arr items => .all (items.mapIdx fun i j => item (place ++ [.item i]) j)
  | _ => .fail place .notAList

/-- Reads a field of an object; `absent` is the outcome for an object without it. -/
def checkField {α : Type} (j : Json) (place : List Step) (name : String)
    (check : List Step → Json → Checked α) (absent : List Step → Checked α) : Checked α :=
  let place := place ++ [.field name]
  match j.field? name with
  | some v => check place v
  | none => absent place

/-- A field that must be there. -/
def required {α : Type} (place : List Step) : Checked α :=
  .fail place .missing

/-- A field that may be left out. -/
def optional {α : Type} (a : α) (_ : List Step) : Checked α :=
  .ok a

/-- Reads a column. -/
def checkColumn (place : List Step) (j : Json) : Checked Column :=
  match j with
  | .obj _ =>
    (Checked.both (checkField j place "name" checkString required)
      (checkField j place "type" checkString required)).map fun (n, t) => ⟨n, t⟩
  | _ => .fail place .notAnObject

/-- Reads a table. -/
def checkTable (place : List Step) (j : Json) : Checked FlaggedTable :=
  match j with
  | .obj _ =>
    (Checked.both (checkField j place "name" checkString required)
      (Checked.both (checkField j place "columns" (checkList checkColumn) (optional []))
        (checkField j place "vector_search" checkBool (optional false)))).map
      fun (n, cs, v) => ⟨⟨n, cs⟩, v⟩
  | _ => .fail place .notAnObject

/-- Reads a document. -/
def ofJson (j : Json) : Checked SchemaDocument :=
  match j with
  | .obj _ =>
    (checkField j [] "tables" (checkList checkTable) (optional [])).map SchemaDocument.mk
  | _ => .fail [] .notAnObject

end SchemaDocument

end TableSketch
