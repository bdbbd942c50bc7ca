import TableSketch.Schema.Basic
import TableSketch.Text.Quoted

/-!
# Tables of one name

A sketch may describe a table several times. Three policies say what that means:
every description is a table (`keep`), the first one counts (`first`), or the later
ones add their columns to it (`merge`). Under `first` and `merge` a table stands
where its name first occurred.

A policy is chosen by its name; `DuplicatePolicy.ofName?` refuses any other name.
-/

namespace TableSketch

/-- What to do with several tables of one name. -/
inductive DuplicatePolicy where
  | keep
  | first
  | merge
  deriving DecidableEq, Repr

namespace DuplicatePolicy

/-- The policies in the order in which they are offered. -/
def all : List DuplicatePolicy :=
  [keep, first, merge]

/-- The name of a policy. -/
def name : DuplicatePolicy → String
  | keep => "keep"
  | first => "first"
  | merge => "merge"

/-- The policy of a name. -/
def ofName? (s : String) : Option DuplicatePolicy :=
  all.find? (·.name == s)

/-- The wording of the complaint about a name that is no policy's. -/
def unknownMessage (s : String) : String :=
  "unknown duplicate policy: " ++ Text.quoted s ++ " (expected one of " ++
    ", ".intercalate (all.map name) ++ ")"

theorem ofName?_name (p : DuplicatePolicy) : ofName? p.name = some p := by
  cases p <;> rfl

end DuplicatePolicy

/-- Adds a table to tables of distinct names: `join` makes one table of two with the same name,
and a new name goes to the end. -/
def addTable (join : Table → Table → Table) : List Table → Table → List Table
  | [], t => [t]
  | s :: ts, t => if s.name = t.name then join s t :: ts else s :: addTable join ts t

/-- How a policy joins a table and a later one of the same name. -/
def DuplicatePolicy.join (p : DuplicatePolicy) (s t : Table) : Table :=
  match p with
  | .merge => s.extend t.columns
  | _ => s

/-- The tables under a policy. -/
def resolveDuplicates (p : DuplicatePolicy) (ts : List Table) : List Table :=
  match p with
  | .keep => ts
  | p => ts.foldl (addTable p.join) []

end TableSketch
