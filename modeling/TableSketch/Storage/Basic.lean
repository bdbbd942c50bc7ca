import TableSketch.Storage.FileTree
import TableSketch.Storage.Path
import TableSketch.Text.Newline
import TableSketch.Text.Utf8

/-!
# Storage

A file tree together with what gives paths a meaning in it: the working directory
and the home directories. A path is followed name by name, so everything on its way
has to be a directory, also in front of a `..`. Names and paths have a greatest length
in bytes; that one is exceeded is an error of its own, even when it is only asked
whether something is there.

Operations that change the tree report an error beside the storage, because what
was done before an error stays done: a directory made on the way to a file that
cannot be written is there afterwards.
-/

namespace TableSketch

/-- Why a path cannot be used. -/
inductive StorageError where
  /-- Nothing is there. -/
  | notFound
  /-- A file stands where the path goes on. -/
  | notADirectory
  /-- Something stands where a directory is to be made. -/
  | alreadyThere
  /-- A directory stands where a file is to be written. -/
  | isADirectory
  /-- A name on the way or the whole path is too long. -/
  | nameTooLong
  /-- A name holds the character that ends names. -/
  | terminatorInName
  deriving DecidableEq, Repr

/-- A file tree, the place from which relative paths start, and the home directories: the own one
and those of the accounts. -/
structure Storage where
  tree : FileTree := {}
  workingDir : Location := []
  home : Path := ⟨.root, []⟩
  homes : List (String × Path) := []
  deriving DecidableEq, Repr

namespace Storage

/-- The most bytes of a name. -/
def maxNameBytes : Nat := 255

/-- The most bytes of a path. -/
def maxPathBytes : Nat := 4095

/-- The home directory of an account; without a name it is the own one. -/
def home? (s : Storage) (account : String) : Option Path :=
  if account.isEmpty then some s.home else s.homes.lookup account

/-- Goes one part further from a location. -/
def enter (t : FileTree) (here : Location) (part : String) : Except StorageError Location :=
  match t.node? here with
  | none => .error .notFound
  | some (.file _) => .error .notADirectory
  | some .dir =>
    if maxNameBytes < part.utf8ByteSize then .error .nameTooLong
    else .ok (if part = ".." then here.dropLast else here ++ [part])

/-- Follows parts from a location. -/
def follow (t : FileTree) : Location → List String → Except StorageError Location
  | here, [] => .ok here
  | here, part :: parts =>
    match enter t here part with
    | .ok there => follow t there parts
    | .error e => .error e

/-- Where a path starts. -/
def start (s : Storage) (p : Path) : Location :=
  if p.anchor = .relative then s.workingDir else []

/-- The location of a path; whether anything is there is another question. -/
def locate (s : Storage) (p : Path) : Except StorageError Location :=
  if p.hasTerminator then .error .terminatorInName
  else if maxPathBytes < p.text.utf8ByteSize then .error .nameTooLong
  else follow s.tree (s.start p) p.parts

/-- What stands at a path, if anything does. A name that is too long is an error. -/
def find (s : Storage) (p : Path) : Except StorageError (Option Node) :=
  match s.locate p with
  | .ok l => .ok (s.tree.node? l)
  | .error .nameTooLong => .error .nameTooLong
  | .error _ => .ok none

/-- Whether anything stands at a path. -/
def isThere (s : Storage) (p : Path) : Except StorageError Bool :=
  (s.find p).map Option.isSome

/-- Whether a file stands at a path. -/
def isFile (s : Storage) (p : Path) : Except StorageError Bool :=
  (s.find p).map fun
    | some (.file _) => true
    | _ => false

/-- Whether a directory stands at a path. -/
def isDir (s : Storage) (p : Path) : Except StorageError Bool :=
  (s.find p).map (· == some .dir)

/-- Parts from a location on without following them: `..` takes back the part in front. -/
def fold (here : Location) (parts : List String) : Location :=
  parts.foldl (fun l part => if part = ".." then l.dropLast else l ++ [part]) here

/-- The place that a path denotes, whether anything is there or not. -/
def place (s : Storage) (p : Path) : Location :=
  fold (s.start p) p.parts

/-- The place that a path denotes, if it can name anything. -/
def resolve (s : Storage) (p : Path) : Except StorageError Location :=
  if p.hasTerminator then .error .terminatorInName else .ok (s.place p)

/-! ## Changes -/

/-- Makes one directory. -/
def makeDir (s : Storage) (p : Path) : Except StorageError Storage :=
  match s.locate p with
  | .error e => .error e
  | .ok l =>
    match s.tree.node? l with
    | some _ => .error .alreadyThere
    | none => .ok { s with tree := s.tree.put l .dir }

/-- Accepts that something is there already, provided that it is a directory. -/
def settle (s : Storage) (p : Path) (e : StorageError) : Storage × Except StorageError Unit :=
  match s.isDir p with
  | .ok true => (s, .ok ())
  | .ok false => (s, .error e)
  | .error e => (s, .error e)

/-- Makes a directory and those missing on the way to it. The parts come last first: only when
nothing is there to make the directory in, the parts in front of it are made. -/
def makeDirsRev (s : Storage) (anchor : Anchor) :
    List String → Storage × Except StorageError Unit
  | [] => s.settle ⟨anchor, []⟩ .alreadyThere
  | part :: front =>
    let p : Path := ⟨anchor, (part :: front).reverse⟩
    match s.makeDir p with
    | .ok s' => (s', .ok ())
    | .error .notFound =>
      match makeDirsRev s anchor front with
      | (s', .error e) => (s', .error e)
      | (s', .ok ()) =>
        match s'.makeDir p with
        | .ok s'' => (s'', .ok ())
        | .error e => s'.settle p e
    | .error e => s.settle p e

/-- Makes a directory and those missing on the way to it. -/
def makeDirs (s : Storage) (p : Path) : Storage × Except StorageError Unit :=
  s.makeDirsRev p.anchor p.parts.reverse

/-- Writes a file into a directory that is there. -/
def writeFile (s : Storage) (p : Path) (content : List UInt8) : Except StorageError Storage :=
  match s.locate p with
  | .error e => .error e
  | .ok l =>
    match s.tree.node? l with
    | some .dir => .error .isADirectory
    | _ => .ok { s with tree := s.tree.put l (.file content) }

/-- Writes a text as UTF-8, making the directories on the way. -/
def saveText (s : Storage) (p : Path) (text : String) : Storage × Except StorageError Unit :=
  match s.makeDirs p.parent with
  | (s', .error e) => (s', .error e)
  | (s', .ok ()) =>
    match s'.writeFile p (Text.encode text.toList) with
    | .ok s'' => (s'', .ok ())
    | .error e => (s', .error e)

/-! ## Reading -/

/-- The text of a sketch from its bytes: what is no UTF-8 is dropped, and line ends are unified. -/
def sketchText (content : List UInt8) : String :=
  String.ofList (Text.unifyNewlines (Text.decodeLossy content))

/-- The text of the sketch at a path. -/
def readSketch (s : Storage) (p : Path) : Except StorageError String :=
  match s.locate p with
  | .error e => .error e
  | .ok l =>
    match s.tree.node? l with
    | none => .error .notFound
    | some .dir => .error .isADirectory
    | some (.file content) => .ok (sketchText content)

end Storage

end TableSketch
