import TableSketch.Schema.Flags
import TableSketch.Schema.Basic
import TableSketch.Text.Case

/-!
# The data definition of a schema

Every table becomes one `CREATE TABLE` statement, statements being separated by a
blank line. Names are written as declared, types in upper case. A flagged table
gets one more column, `embedding`, of the blob type that holds a vector of 32-bit
floating-point numbers.
-/

namespace TableSketch.Ddl

/-- The name of the column for vectors. -/
def embeddingColumn : String := "embedding"

/-- The dimension of vectors unless another one is asked for. -/
def defaultDimension : Int := 768

/-- The type of vectors of a dimension. -/
def embeddingType (dim : Int) : String :=
  "F32_BLOB(" ++ toString dim ++ ")"

/-- The line of a column. -/
def columnLine (c : Column) : String :=
  "  " ++ c.name ++ " " ++ Text.upper c.type

/-- The lines of a table's columns, the one for vectors last. -/
def columnLines (t : Table) (flagged : Bool) (dim : Int) : List String :=
  t.columns.map columnLine ++
    if flagged then ["  " ++ embeddingColumn ++ " " ++ embeddingType dim] else []

/-- The statement of one table. -/
def tableStatement (t : Table) (flagged : Bool) (dim : Int) : String :=
  "CREATE TABLE " ++ t.name ++ " (\n" ++ ",\n".intercalate (columnLines t flagged dim) ++ "\n);"

/-- What is written for a schema without tables. -/
def emptyScript : String :=
  "-- No valid tables found.\n-- Use shape: sql_table"

/-- The statements of a schema. -/
def script (ts : List Table) (flags : Flags) (dim : Int) : String :=
  if ts.isEmpty then emptyScript
  else "\n\n".intercalate (ts.map fun t => tableStatement t (flags.marks t.name) dim)

end TableSketch.Ddl
