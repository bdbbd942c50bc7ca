import TableSketch.Desk
import TableSketch.Preview
import TableSketch.Prompt
import TableSketch.Storage.Discovery

/-!
# Generating results

For every schema file found under a path three files are written into a directory of
its own below the output directory: the data definition, the preview and the prompt.
The directory is named like the schema file without its suffix; for files found
below a directory it keeps their place there.

Files are taken in the order in which they are found, each being read when its turn
comes. The first failure ends the run.
-/

namespace TableSketch

/-- The names of the three results in their directory. -/
structure ResultNames where
  script : String := "schema.sql"
  preview : String := "schema_preview.md"
  prompt : String := "prompt.md"
  deriving DecidableEq, Repr

/-- The three files written for a schema file. -/
structure Results where
  script : Path
  preview : Path
  prompt : Path
  deriving DecidableEq, Repr

/-- What is to be generated. -/
structure Order where
  path : Path
  /-- Where results go; the settings tell if this is left open. -/
  outputDir : Option Path := none
  flags : Flags := {}
  names : ResultNames := {}
  deriving Repr

namespace Order

/-- The directory below which results go. -/
def base (o : Order) (s : Settings) : Path :=
  o.outputDir.getD s.outputDir

end Order

/-- The directory for the results of a schema file. `root` is the path under which the file was
found, or nothing if the file was named itself. -/
def resultDir (base : Path) (root : Option Path) (file : Path) : Path :=
  match root with
  | none => base.child file.stem
  | some r =>
    (base.join ⟨.relative, (file.parts.drop r.parts.length).dropLast⟩).child file.stem

/-- The texts of the three results of a schema. -/
structure ResultTexts where
  script : String
  preview : String
  prompt : String
  deriving DecidableEq, Repr

/-- The texts for tables. The script and the prompt end with a line feed of their own. -/
def ResultTexts.ofTables (ts : List Table) (flags : Flags) (dim : Int) : ResultTexts :=
  let script := Ddl.script ts flags dim
  ⟨script ++ "\n", Preview.markdown ts flags dim, Prompt.ofScript script ++ "\n"⟩

/-- The paths of the three results in their directory. -/
def ResultNames.inDir (n : ResultNames) (dir : Path) : Results :=
  ⟨dir.child n.script, dir.child n.preview, dir.child n.prompt⟩

namespace Work

/-- Reads the sketch in a file. -/
def readSketch (p : Path) : Work String :=
  ask (·.readSketch p)

/-- Writes the results of one schema file and reports them. -/
def generateFile (o : Order) (root : Option Path) (file : Path) : Work Results := do
  let ts ← tablesOf (← readSketch file)
  let settings := (← get).settings
  let texts := ResultTexts.ofTables ts o.flags settings.dimension
  let results := o.names.inDir (resultDir (o.base settings) root file)
  store (·.saveText results.script texts.script)
  store (·.saveText results.preview texts.preview)
  store (·.saveText results.prompt texts.prompt)
  say ("[bold]" ++ file.name ++ "[/bold]: " ++ toString ts.length ++ " tables")
  say ("[bold green]SQL:[/bold green]    " ++ results.script.text)
  say ("[bold green]MD:[/bold green]     " ++ results.preview.text)
  say ("[bold green]Prompt:[/bold green] " ++ results.prompt.text)
  pure results

/-- Writes the results of all schema files under a path. -/
def generate (o : Order) : Work (List Results) := do
  let path ← expandHome o.path
  if !(← ask (·.isThere path)) then throw (.noSchema path)
  let files ← ask (Discovery.find {} · path)
  say ("Found [green]" ++ toString files.length ++ "[/green] schema files")
  let root := if ← ask (·.isFile path) then none else some path
  files.mapM (generateFile o root)

end Work

end TableSketch
