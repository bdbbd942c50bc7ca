import TableSketch.Storage.Basic

/-!
# Finding schema files

A path to a file stands for that file, whatever its suffix. A path to a directory
stands for all files at any depth below it that have one of the suffixes, in the
order of paths. Directories with certain names are passed over wherever they occur
below the path; the path's own parts do not count, and neither does a file's name.

What stands below a directory is told from the tree, without following a path to it. So
it is assumed that all paths from there on are short enough to be followed
(`Storage.maxPathBytes`), and that nothing forbids to look into a directory.
-/

namespace TableSketch

/-- Which files are found. -/
structure Discovery where
  /-- The suffixes, compared with a file's suffix in lower case. -/
  suffixes : List String := [sketchSuffix]
  /-- The names of directories that are passed over. -/
  skipped : List String := [".git", "node_modules", ".venv", "__pycache__"]
  deriving DecidableEq, Repr

namespace Discovery

/-- Whether a file below a directory counts, by the names that lead to it. -/
def accepts (d : Discovery) (l : Location) : Bool :=
  d.suffixes.contains (Text.lower (Path.suffix ⟨.relative, l⟩)) &&
    !l.dropLast.any d.skipped.contains

/-- The files below a directory that count, in order. -/
def filesBelow (d : Discovery) (t : FileTree) (dir : Location) : List Location :=
  ((t.filesBelow dir).filter d.accepts).mergeSort Path.before

/-- The schema files that a path stands for. -/
def find (d : Discovery) (s : Storage) (p : Path) : Except StorageError (List Path) := do
  match ← s.find p with
  | some (.file _) => return [p]
  | some .dir =>
    return (d.filesBelow s.tree (← s.locate p)).map fun parts =>
      { p with parts := p.parts ++ parts }
  | none => return []

end Discovery

end TableSketch
