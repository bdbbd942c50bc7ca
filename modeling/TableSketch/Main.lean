import TableSketch.CommandLine.Program
import TableSketch.Watch.Polling

/-!
# The program at work

Here the file system, the environment and the console meet the library: what a
command looks at is read into a `Storage`, the command runs on it, and the files
that have changed are written back. `watch` looks again once a second.
-/

namespace TableSketch.Main

/-- The text of the path of a location. -/
def pathText (l : Location) : String :=
  (Path.mk .root l).text

/-- Adds what stands at a location, without what is below it. -/
def addNode (l : Location) (t : FileTree) : IO FileTree := do
  let p := (← IO.currentDir) / pathText l
  if ← p.isDir then return t.makeDirs l
  else if ← p.pathExists then return t.plant l (← IO.FS.readBinFile p).toList
  else return t

/-- Adds what stands at a location with all below it, apart from the directories that are passed
over when schema files are looked for. -/
partial def addAll (l : Location) (t : FileTree) : IO FileTree := do
  let t ← addNode l t
  let p := (← IO.currentDir) / pathText l
  if ← p.isDir then
    (← p.readDir).foldlM (fun t e =>
      if ({} : Discovery).skipped.contains e.fileName then return t
      else addAll (l ++ [e.fileName]) t) t
  else return t

/-- Adds what a command can see on the way of a path and behind it. -/
def addPath (s : Storage) (p : Path) : IO Storage := do
  let p := (Path.expandHome? s.home? p).getD p
  let stops := (List.range p.parts.length).map fun n => s.place { p with parts := p.parts.take n }
  let tree ← stops.foldlM (fun t l => addNode l t) s.tree
  return { s with tree := ← addAll (s.place p) tree }

/-- A storage with what stands on the way of paths and behind them. -/
def look (empty : Storage) (paths : List Path) : IO Storage := do
  paths.foldlM addPath { empty with tree := ← addNode empty.workingDir {} }

/-- Writes back what has changed since an earlier tree. -/
def save (earlier later : FileTree) : IO Unit := do
  for (l, node) in later.entries do
    if earlier.node? l != some node then
      match node with
      | .dir => IO.FS.createDirAll (pathText l)
      | .file content => IO.FS.writeBinFile (pathText l) (ByteArray.mk content.toArray)

/-- The variables of the environment. -/
def environment : IO (List (String × String)) := do
  let content ← try IO.FS.readBinFile "/proc/self/environ" catch _ => pure .empty
  let entries := Text.pieces (· == '\x00') (Text.decodeLossy content.toList)
  return entries.filterMap fun entry =>
    match Arguments.cutValue entry with
    | (name, some v) => some (String.ofList name, String.ofList v)
    | (_, none) => none

/-- The content of a file, if there is one. -/
def fileContent? (p : Path) : IO (Option (List UInt8)) := do
  try return some (← IO.FS.readBinFile p.text).toList catch _ => return none

/-- The home directories of the accounts. -/
def homes : IO (List (String × Path)) := do
  let content := (← fileContent? (.ofString "/etc/passwd")).getD []
  return (Text.pieces (· == '\n') (Text.decodeLossy content)).filterMap fun line =>
    match Text.pieces (· == ':') line with
    | name :: fields =>
      (fields[4]?).map fun home => (String.ofList name, Path.ofString (String.ofList home))
    | [] => none

/-- Complains on the standard error stream. -/
def complain (failure : CommandFailure) : IO Unit :=
  match failure with
  | .usage (.noSuchOption name) => IO.eprintln ("no such option: " ++ name)
  | .usage (.badOption name) => IO.eprintln ("wrong use of option: " ++ name)
  | .usage .missingOperand => IO.eprintln "an operand is missing"
  | .usage .badUsage => IO.eprintln "wrong use of the command line"
  | .work f => IO.eprintln (f.message?.getD "the command failed")

/-- Shows what was printed and, if it is on, the log. -/
def tell (d : Desk) (log : LogState) : IO Unit := do
  (← IO.getStdout).putStr d.printed
  (← IO.getStdout).flush
  if log.verbose then d.log.forM IO.eprintln

/-- Looks for changes once a second and lets the watcher react, until the program is ended. -/
partial def keepWatching (look : IO Storage) (dir : Location) (s : Scene Binary64)
    (log : LogState) : IO Unit := do
  IO.sleep 1000
  let earlier := s.desk.storage.tree
  let storage ← look
  let s := { s with desk := { s.desk with storage := storage, printed := "" } }
  let steps := (earlier.events dir storage.tree).map SceneStep.event
  let (s, reports) := s.run writeResults (.advance Loop.nap :: steps)
  save storage.tree s.desk.storage.tree
  tell { s.desk with log := reports.flatMap (·.2.messages) } log
  for (_, r) in reports do
    if let some f := r.failure then complain (.work f)
  keepWatching look dir s log

/-- Generates results and watches from then on; returns only if the first results fail. -/
def watch (look : IO Storage) (o : Order) (d : Desk) (log : LogState) : IO UInt32 := do
  let (started, d') := (Loop.start o).on d
  save d.storage.tree d'.storage.tree
  tell d' log
  match started with
  | .error f => complain (.work f); return 1
  | .ok (dir, _) =>
    keepWatching look (d'.storage.place dir) (Loop.scene o d') log
    return 0

/-- Tells which options there are. -/
def showHelp (options : List OptionSpec) : IO Unit := do
  IO.println "options:"
  options.forM fun o => IO.println ("  " ++ o.name ++ (if o.takesValue then " VALUE" else ""))

/-- Runs a command. -/
def execute (c : Command) (d : Desk) (log : LogState) : IO UInt32 := do
  if let .help command := c then showHelp ((command.map CommandName.options).getD Program.options)
  let look := look d.storage (c.paths d.settings)
  let d := { d with storage := ← look }
  if let some order := c.watchOrder? then
    if let .ok true := d.storage.isThere order.path then return ← watch look order d log
  let input ← if c.readsInput then (← IO.getStdin).readBinToEnd else pure .empty
  let (outcome, d') := c.run { input := input.toList } d
  save d.storage.tree d'.storage.tree
  tell d' log
  if let some f := outcome.failure then complain f
  return (Program.exitStatus outcome).toUInt32

/-- Runs a command line under the settings of its surroundings. -/
def start (args : List String) : IO UInt32 := do
  let vars ← environment
  let here := Path.ofString (← IO.currentDir).toString
  let home := ((vars.lookup "HOME").map Path.ofString).getD here
  let columns := ((vars.lookup "COLUMNS").bind String.toNat?).getD 80
  match Settings.load vars (← fileContent? Settings.fileName) with
  | .error (.badVariable f) => IO.eprintln (f.message?.getD "a variable has no name"); return 1
  | .error .notUtf8 => IO.eprintln "the file with settings is no UTF-8"; return 1
  | .error (.badValues issues) =>
    IO.eprintln (toString issues.length ++ " settings are not acceptable")
    return 1
  | .ok settings =>
    match Program.read args {} with
    | (.error e, _) => complain e; return (Program.exitStatus { failure := some e }).toUInt32
    | (.ok c, log) =>
      let storage : Storage := { workingDir := here.parts, home := home, homes := ← homes }
      let platform : Platform := { unifiesInput := false }
      execute c { storage, settings, platform, columns } log

end TableSketch.Main

/-- The program. -/
def main (args : List String) : IO UInt32 :=
  TableSketch.Main.start args
