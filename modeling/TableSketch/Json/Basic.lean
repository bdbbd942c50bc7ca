import TableSketch.Number.Binary64

/-!
# JSON values

Whole numbers and numbers with a fraction or an exponent stay apart, because some
readers treat them differently. The fields of an object keep their order; when a
name is given twice the later value counts.
-/

namespace TableSketch

/-- A JSON value. -/
inductive Json where
  | null
  | bool (b : Bool)
  | int (i : Int)
  | real (r : Binary64)
  | str (s : String)
  | arr (items : List Json)
  | obj (fields : List (String × Json))
  deriving Repr

namespace Json

/-- The value of a field of an object; nothing for a missing field and for other values. -/
def field? (j : Json) (name : String) : Option Json :=
  match j with
  | .obj fields => fields.reverse.lookup name
  | _ => none

/-- Whether a value counts as set: everything does but `null`, `false`, zero and what is empty. -/
def isSet : Json → Bool
  | .null => false
  | .bool b => b
  | .int i => i != 0
  | .real (.finite _ m _) => m != 0
  | .real _ => true
  | .str s => s != ""
  | .arr items => !items.isEmpty
  | .obj fields => !fields.isEmpty

end Json

end TableSketch
