import TableSketch.Watch.Watcher

/-!
# Changes by comparison

Where nobody announces changes, two looks at a file tree tell what happened to the
files in between: which are new, which have another content, and which are gone.
-/

namespace TableSketch

/-- The announcement of a change to a file. -/
def ChangeEvent.at (kind : String) (l : Location) : ChangeEvent :=
  { source := (Path.mk .root l).text, kind := kind }

/-- The word for what happened to a file that is there, if anything did. -/
def FileTree.change? (before : FileTree) (l : Location) (content : List UInt8) : Option String :=
  match before.node? l with
  | some (.file earlier) => if earlier = content then none else some "modified"
  | _ => some "created"

/-- What happened to the files below a directory between two looks at the tree. -/
def FileTree.events (dir : Location) (before after : FileTree) : List ChangeEvent :=
  let observed (f : Location × List UInt8) : Bool := (below? dir f.1).isSome
  let there := (after.files.filter observed).filterMap fun f =>
    (before.change? f.1 f.2).map (ChangeEvent.at · f.1)
  let gone := (before.files.filter observed).filter fun f => (after.node? f.1).isNone
  there ++ gone.map fun f => ChangeEvent.at "deleted" f.1

end TableSketch
