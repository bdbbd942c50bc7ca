import TableSketch.Ddl

/-!
# The preview of a schema

A Markdown page: a summary that counts tables and flagged tables, and then a
section per table that lists its columns with their types in upper case. The page
ends with a line feed.
-/

namespace TableSketch.Preview

/-- The lines of the summary, a blank one behind each of its two parts. -/
def summary (ts : List Table) (flags : Flags) : List String :=
  ["# Schema Preview", "", "- Tables: " ++ toString ts.length,
    "- Vector search: " ++ toString (ts.countP fun t => flags.marks t.name), ""]

/-- The line of a column. -/
def columnLine (c : Column) : String :=
  "- `" ++ c.name ++ "`: " ++ Text.upper c.type

/-- The line of the column for vectors. -/
def embeddingLine (dim : Int) : String :=
  "- `" ++ Ddl.embeddingColumn ++ "`: " ++ Ddl.embeddingType dim ++ " (vector)"

/-- The lines of a table, with a blank one at the end. -/
def tableLines (t : Table) (flagged : Bool) (dim : Int) : List String :=
  ("## " ++ t.name) :: t.columns.map columnLine ++
    (if flagged then [embeddingLine dim] else []) ++ [""]

/-- The lines below the summary. -/
def sections (ts : List Table) (flags : Flags) (dim : Int) : List String :=
  if ts.isEmpty then ["No valid tables defined.", ""]
  else ts.flatMap fun t => tableLines t (flags.marks t.name) dim

/-- The page. -/
def markdown (ts : List Table) (flags : Flags) (dim : Int) : String :=
  "\n".intercalate (summary ts flags ++ sections ts flags dim)

end TableSketch.Preview
