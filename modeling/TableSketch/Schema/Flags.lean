import TableSketch.Json.Basic

/-!
# Vector flags

Flags mark tables for vector search by their names. A flag may hold any JSON value;
a table is flagged when the value stored under its name counts as set
(`Json.isSet`). Names without an entry are not flagged.
-/

namespace TableSketch

/-- The values stored under table names. -/
structure Flags where
  entries : List (String × Json) := []
  deriving Repr

namespace Flags

/-- The value stored under a name. -/
def get? (fs : Flags) (name : String) : Option Json :=
  fs.entries.lookup name

/-- Whether the table of that name is flagged. -/
def marks (fs : Flags) (name : String) : Bool :=
  match fs.get? name with
  | some v => v.isSet
  | none => false

/-- Stores a value; a name that has one keeps its place. -/
def set (fs : Flags) (name : String) (v : Json) : Flags :=
  if (fs.entries.map Prod.fst).contains name then
    ⟨fs.entries.map fun e => if e.1 == name then (name, v) else e⟩
  else ⟨fs.entries ++ [(name, v)]⟩

/-- The flags of an object's fields, the later field of a name counting. -/
def ofFields (fields : List (String × Json)) : Flags :=
  fields.foldl (fun fs e => fs.set e.1 e.2) {}

/-- Flags that are set for the given names and for no others. -/
def ofNames (names : List String) : Flags :=
  names.foldl (fun fs n => fs.set n (.bool true)) {}

end Flags

end TableSketch
