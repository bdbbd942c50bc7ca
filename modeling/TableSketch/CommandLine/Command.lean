import TableSketch.CommandLine.Arguments
import TableSketch.Schema.Document
import TableSketch.Watch.Loop

/-!
# Commands

The five commands of the program. `sql`, `prompt` and `preview` read one schema, from
a file or from the standard input, and print what it says; `generate` writes result
files, and `watch` does so again on every change. Instead of its work, a command that
is asked for help tells how it is used; how this page is drawn is not told here.
-/

namespace TableSketch

/-- The command names. -/
inductive CommandName where
  | sql
  | prompt
  | preview
  | generate
  | watch
  deriving DecidableEq, Repr

/-- A command with its operand and options. -/
inductive Command where
  | sql (schema : String) (vector : List String) (out : Option String)
  | prompt (schema : String) (vector : List String)
  | preview (schema : String) (vector : List String) (asJson : Bool)
  | generate (path : String) (vector : List String) (outDir : Option String)
  | watch (path : String) (vector : List String) (outDir : Option String)
  /-- Tells how to use a command, or the program. -/
  | help (command : Option CommandName)
  deriving DecidableEq, Repr

/-- Why a command fails: by its use, or at its work. -/
inductive CommandFailure where
  | usage (e : UsageError)
  | work (f : Failure)
  deriving DecidableEq, Repr

namespace CommandName

/-- The word for a command. -/
def word : CommandName → String
  | sql => "sql"
  | prompt => "prompt"
  | preview => "preview"
  | generate => "generate"
  | watch => "watch"

/-- The command of a word. -/
def ofWord? (s : String) : Option CommandName :=
  [sql, prompt, preview, generate, watch].find? (·.word == s)

/-- The option that flags a table; it can be given several times. -/
def vectorOption : OptionSpec := { name := "--vector", takesValue := true }

/-- The options of a command. -/
def options : CommandName → List OptionSpec
  | sql =>
    [vectorOption, { name := "--out", letter := some 'o', takesValue := true }, .help]
  | prompt => [vectorOption, .help]
  | preview => [vectorOption, { name := "--json" }, .help]
  | generate | watch => [vectorOption, { name := "--out-dir", takesValue := true }, .help]

/-- The arguments that are taken for paths. -/
def pathTexts (c : CommandName) (a : Arguments) : List String :=
  match c with
  | sql => (a.value? "--out").toList
  | prompt | preview => []
  | generate | watch => (a.value? "--out-dir").toList ++ a.operands.take 1

/-- The command that arguments spell out. Every command has one operand. A path that can name
nothing fails before the operands are counted. -/
def command (c : CommandName) (a : Arguments) : Except CommandFailure Command :=
  if (c.pathTexts a).any fun s => (Path.ofString s).hasTerminator then
    .error (.work (.storage .terminatorInName))
  else
    match a.operands with
    | [] => .error (.usage .missingOperand)
    | _ :: _ :: _ => .error (.usage .badUsage)
    | [operand] =>
      let vector := a.values "--vector"
      .ok <| match c with
      | sql => .sql operand vector (a.value? "--out")
      | prompt => .prompt operand vector
      | preview => .preview operand vector (a.has "--json")
      | generate => .generate operand vector (a.value? "--out-dir")
      | watch => .watch operand vector (a.value? "--out-dir")

/-- Reads the arguments behind the word for a command. Whoever asks for help gets it, whatever else
the arguments say, as long as they can be sorted out. -/
def read (c : CommandName) (args : List String) : Except CommandFailure Command :=
  match Arguments.read c.options false args with
  | .ok a => if a.wantsHelp then .ok (.help c) else c.command a
  | .error e => .error (.usage e)

end CommandName

/-- A run of a command from outside: the standard input, and what happens while it watches. -/
structure Surroundings where
  input : List UInt8 := []
  script : List (List (SceneStep Binary64)) := []

/-- What comes of a command. -/
structure CommandOutcome where
  failure : Option CommandFailure := none
  /-- What the watch loop did, if the command came to it. -/
  trace : List LoopEvent := []

namespace Work

/-- The text of the standard input. -/
def readInput (input : List UInt8) : Work String := do
  match (← get).platform.inputText? input with
  | some text => pure text
  | none => throw .notUtf8

/-- Text without the sequences that steer a terminal: escape, an opening bracket, parameters, and
one letter. -/
def dropSteering : Nat → List Char → List Char
  | 0, cs => cs
  | _, [] => []
  | fuel + 1, '\x1b' :: '[' :: cs =>
    let isParameter := fun c : Char => c.isDigit || c == ';' || c == '?'
    match cs.dropWhile isParameter with
    | c :: after =>
      if c.isAlpha then dropSteering fuel after else '\x1b' :: dropSteering fuel ('[' :: cs)
    | [] => '\x1b' :: '[' :: cs
  | fuel + 1, c :: cs => c :: dropSteering fuel cs

/-- Prints text and ends the line; sequences that steer a terminal are left out. -/
def echo (s : String) : Work Unit :=
  let cs := s.toList
  put (String.ofList (dropSteering (cs.length + 1) cs ++ ['\n']))

/-- Prints the tables of a schema as boxed tables. -/
def showTable (flags : Flags) (t : Table) : Work Unit := do
  let plain (s : String) : Console.Printed := .ofChars s.toList
  let cell (s : String) : Work Console.Printed :=
    match Console.printed s with
    | .ok p => pure p
    | .error f => throw (.badMarkup f)
  let names ← t.columns.mapM fun c => cell c.name
  let types ← t.columns.mapM fun c => cell (Text.upper c.type)
  let dim := (← get).settings.dimension
  let extra := if flags.marks t.name then
    [(plain Ddl.embeddingColumn, plain (Ddl.embeddingType dim))] else []
  let grid : Console.Grid :=
    ⟨← cell t.name, (plain "column", plain "type"), names.zip types ++ extra⟩
  match grid.drawFault? (← get).columns with
  | some f => throw (.badMarkup f)
  | none => putLines (grid.lines (← get).columns)

end Work

/-- The path for an option's value, if the option was given. -/
def pathOption (o : Option String) : Option Path :=
  o.map Path.ofString

namespace Command

/-- The text of the schema that an operand names. -/
def readSchema (input : List UInt8) (schema : String) : Work String := do
  if schema == "-" then Work.readInput input
  else
    let p ← Work.expandHome (Path.ofString schema)
    if ← Work.ask (·.isFile p) then Work.readSketch p
    else throw (.badOperand "SCHEMA" ("스키마 파일이 없습니다: " ++ schema))

/-- The tables of the schema that an operand names. -/
def loadTables (input : List UInt8) (schema : String) : Work (List Table) := do
  Work.tablesOf (← readSchema input schema)

/-- What the arguments of `generate` and `watch` order. -/
def order (path : String) (vector : List String) (outDir : Option String) : Order :=
  { path := .ofString path, outputDir := pathOption outDir, flags := Flags.ofNames vector }

/-- Complains if there is nothing at the path of an order. -/
def requirePath (complaint : String) (o : Order) : Work Unit := do
  if !(← Work.ask (·.isThere o.path)) then
    throw (.badOperand "PATH" (complaint ++ o.path.text))

/-- The data definition of tables under the settings. -/
def scriptOf (ts : List Table) (vector : List String) : Work String := do
  pure (Ddl.script ts (Flags.ofNames vector) (← get).settings.dimension)

/-- Writes the data definition to a file and reports it. -/
def saveScript (script out : String) : Work Unit := do
  let p := Path.ofString out
  Work.store (·.saveText p (script ++ "\n"))
  Work.say ("[bold green]SQL:[/bold green] " ++ p.text)

/-- Prints the tables, or that there are none. -/
def showTables (ts : List Table) (flags : Flags) : Work Unit :=
  if ts.isEmpty then Work.say "[yellow]No valid tables defined.[/yellow]"
  else ts.forM (Work.showTable flags)

/-- Generates results and tells where they are. -/
def generateResults (o : Order) : Work Unit := do
  let _ ← Work.generate o
  let settings := (← get).settings
  Work.say ("[bold green]Done. Output under[/bold green] " ++ (o.base settings).text)

/-- Watches, and ends as the loop ends. -/
def watchPath (o : Order) (script : List (List (SceneStep Binary64))) : Work (List LoopEvent) :=
  fun d =>
    let (outcome, d) := Loop.run o script d
    if outcome.failure = .interrupted then (.ok outcome.trace, d)
    else (.error outcome.failure, d)

/-- Does a command; the result is what the watch loop did. -/
def work (s : Surroundings) : Command → Work (List LoopEvent)
  | .sql schema vector out => do
    let script ← scriptOf (← loadTables s.input schema) vector
    match out with
    | none => Work.echo script
    | some out => saveScript script out
    pure []
  | .prompt schema vector => do
    let script ← scriptOf (← loadTables s.input schema) vector
    Work.echo (Prompt.ofScript script)
    pure []
  | .preview schema vector asJson => do
    let ts ← loadTables s.input schema
    let flags := Flags.ofNames vector
    if asJson then Work.echo (SchemaDocument.ofTables ts flags).text
    else showTables ts flags
    pure []
  | .generate path vector outDir => do
    let o := order path vector outDir
    requirePath "경로가 없습니다: " o
    generateResults o
    pure []
  | .watch path vector outDir => do
    let o := order path vector outDir
    requirePath "watch는 로컬 경로에서 사용하세요: " o
    watchPath o s.script
  | .help _ => pure []

/-- The paths that a command looks at or writes to, so that they must be known before it runs. -/
def paths (settings : Settings) : Command → List Path
  | .sql schema _ out => .ofString schema :: (pathOption out).toList
  | .prompt schema _ | .preview schema .. => [.ofString schema]
  | .generate path _ outDir | .watch path _ outDir =>
    [.ofString path, (pathOption outDir).getD settings.outputDir]
  | .help _ => []

/-- What a command that watches generates. -/
def watchOrder? : Command → Option Order
  | .watch path vector outDir => some (order path vector outDir)
  | _ => none

/-- Whether a command reads the standard input. -/
def readsInput : Command → Bool
  | .sql schema .. | .prompt schema _ | .preview schema .. => schema == "-"
  | .generate .. | .watch .. | .help _ => false

/-- What comes of a command on a desk. -/
def run (c : Command) (s : Surroundings) (d : Desk) : CommandOutcome × Desk :=
  match (c.work s).on d with
  | (.ok trace, d) => ({ trace := trace }, d)
  | (.error f, d) => ({ failure := some (.work f) }, d)

end Command

end TableSketch
