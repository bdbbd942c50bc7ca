/-!
# File trees

A file tree without links, as a value: what stands at each location below its root.
A location is the list of names that lead to it. The root is always a directory;
`FileTree.WellFormed` says what holds of every tree that operations build from the
empty one, that a location has at most one node and that whatever is there stands in
directories.
-/

namespace TableSketch

/-- The names that lead from the root to a place. -/
abbrev Location := List String

/-- What stands at a location. -/
inductive Node where
  | dir
  | file (content : List UInt8)
  deriving DecidableEq, Repr

/-- The nodes below the root. -/
structure FileTree where
  entries : List (Location × Node) := []
  deriving DecidableEq, Repr

namespace FileTree

/-- What stands at a location. -/
def node? (t : FileTree) (l : Location) : Option Node :=
  if l.isEmpty then some .dir else t.entries.lookup l

/-- Puts a node at a location, in the place of the one that is there. -/
def put (t : FileTree) (l : Location) (n : Node) : FileTree :=
  if (t.entries.map Prod.fst).contains l then
    ⟨t.entries.map fun e => if e.1 == l then (l, n) else e⟩
  else ⟨t.entries ++ [(l, n)]⟩

/-- Removes what stands at a location. -/
def remove (t : FileTree) (l : Location) : FileTree :=
  ⟨t.entries.filter fun e => e.1 != l⟩

/-- Makes directories on the way from `here` along `names`, where nothing stands yet. -/
def makeDirsFrom (t : FileTree) (here : Location) : List String → FileTree
  | [] => t
  | n :: names =>
    let there := here ++ [n]
    (if (t.node? there).isNone then t.put there .dir else t).makeDirsFrom there names

/-- Makes a directory and all directories on the way to it, where nothing stands yet. -/
def makeDirs (t : FileTree) (l : Location) : FileTree :=
  t.makeDirsFrom [] l

/-- Writes a file, with the directories on the way to it. -/
def plant (t : FileTree) (l : Location) (content : List UInt8) : FileTree :=
  (t.makeDirs l.dropLast).put l (.file content)

/-- The files of a tree. -/
def files (t : FileTree) : List (Location × List UInt8) :=
  t.entries.filterMap fun
    | (l, .file content) => some (l, content)
    | (_, .dir) => none

/-- The files that are new or have another content than in an earlier tree. -/
def changesSince (t earlier : FileTree) : List (Location × List UInt8) :=
  t.files.filter fun f => earlier.node? f.1 != some (.file f.2)

/-- What is left of a location below a directory. -/
def below? (dir l : Location) : Option Location :=
  match dir, l with
  | [], l => some l
  | _ :: _, [] => none
  | d :: ds, n :: ns => if d = n then below? ds ns else none

/-- The files at any depth below a directory, as seen from it. -/
def filesBelow (t : FileTree) (dir : Location) : List Location :=
  t.files.filterMap fun f => below? dir f.1

/-- Every location has one node, is not the root, and stands in a directory. -/
structure WellFormed (t : FileTree) : Prop where
  distinct : (t.entries.map Prod.fst).Nodup
  inDirs : ∀ e ∈ t.entries, e.1 ≠ [] ∧ t.node? e.1.dropLast = some .dir

end FileTree

end TableSketch
