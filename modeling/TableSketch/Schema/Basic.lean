/-!
# Tables and columns

A schema is a list of tables in the order in which they were declared. Names may
repeat, both among tables and among the columns of one table: what to do about
that is a separate decision (`TableSketch.Schema.Duplicates`).
-/

namespace TableSketch

/-- A declared column: its name and its type, both as written. -/
structure Column where
  name : String
  type : String
  deriving DecidableEq, Repr

/-- A table: its name and its columns in the order of their declaration. -/
structure Table where
  name : String
  columns : List Column := []
  deriving DecidableEq, Repr

/-- The table with more columns behind its own. -/
def Table.extend (t : Table) (more : List Column) : Table :=
  { t with columns := t.columns ++ more }

@[simp]
theorem Table.columns_extend (t : Table) (more : List Column) :
    (t.extend more).columns = t.columns ++ more := rfl

end TableSketch
