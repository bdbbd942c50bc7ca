import TableSketch.Ddl
import TableSketch.Number.Lenient
import TableSketch.Settings.EnvFile
import TableSketch.Sketch.Scan
import TableSketch.Schema.Duplicates
import TableSketch.Storage.Basic

/-!
# Settings

What a run of the program depends on beside its arguments. Settings come from
environment variables and from the file `.env` in the working directory, variables
first; the names of variables count in any case. All values that are not acceptable
are reported together.

`Settings` itself does not check: the policy for duplicate tables is kept by its
name and is looked up where it is applied.
-/

namespace TableSketch

/-- The name of a way to scan. -/
def ScanMode.name : ScanMode → String
  | .firstClose => "regex"
  | .balanced => "balanced"

/-- The way to scan of that name. -/
def ScanMode.ofName? (s : String) : Option ScanMode :=
  [ScanMode.firstClose, .balanced].find? (·.name == s)

/-- The settings of a run. -/
structure Settings where
  /-- Where results are written. -/
  outputDir : Path := .ofString "./out"
  /-- The dimension of vectors. -/
  dimension : Int := Ddl.defaultDimension
  scanMode : ScanMode := .firstClose
  /-- The name of the policy for tables of one name. -/
  duplicates : String := DuplicatePolicy.keep.name
  /-- How many seconds must pass without a change before results are written anew. -/
  debounce : Binary64 := .ofDecimal false 8 (-1)
  deriving DecidableEq, Repr

namespace Settings

/-- The variables that settings are read from, in the order of the settings. -/
def outputDirVariable : String := "INSTABASE_OUTPUT_DIR"

@[inherit_doc outputDirVariable]
def dimensionVariable : String := "INSTABASE_EMBEDDING_DIM"

@[inherit_doc outputDirVariable]
def scanModeVariable : String := "INSTABASE_SCAN_MODE"

@[inherit_doc outputDirVariable]
def duplicatesVariable : String := "INSTABASE_DUPLICATE_POLICY"

@[inherit_doc outputDirVariable]
def debounceVariable : String := "INSTABASE_WATCH_DEBOUNCE"

/-- The name of the file with settings. -/
def fileName : Path := .ofString ".env"

/-- Where settings are looked up: the environment and the values of the file. -/
structure Source where
  environment : List (String × String) := []
  file : List (String × Option String) := []
  deriving DecidableEq, Repr

/-- The last value of a variable, its name being taken in any case. -/
def lookupAnyCase {α : Type} (entries : List (String × α)) (key : String) : Option α :=
  (entries.reverse.find? fun e => Text.lower e.1 == Text.lower key).map Prod.snd

/-- The value of a variable. -/
def Source.value? (s : Source) (key : String) : Option String :=
  match lookupAnyCase s.environment key with
  | some v => some v
  | none => (lookupAnyCase s.file key).join

/-- Checks the value of a variable; without one, the setting keeps its default. -/
def Source.check {α : Type} (s : Source) (key : String) (default : α)
    (read : String → Except Fault α) : Checked α :=
  match s.value? key with
  | none => .ok default
  | some v =>
    match read v with
    | .ok a => .ok a
    | .error f => .fail [.field key] f

/-- Reads a dimension, which must be positive. -/
def readDimension (s : String) : Except Fault Int :=
  match Lenient.readInt s with
  | .ok i => if 0 < i then .ok i else .error .notGreater
  | .error f => .error f

/-- Reads a way to scan. -/
def readScanMode (s : String) : Except Fault ScanMode :=
  match ScanMode.ofName? s with
  | some m => .ok m
  | none => .error .notAChoice

/-- Reads the name of a policy. -/
def readDuplicates (s : String) : Except Fault String :=
  match DuplicatePolicy.ofName? s with
  | some p => .ok p.name
  | none => .error .notAChoice

/-- Reads a number of seconds, which must not be negative. -/
def readDebounce (s : String) : Except Fault Binary64 :=
  match Lenient.readNumber s with
  | .ok x => if 0 ≤ x then .ok x else .error .less
  | .error f => .error f

/-- The settings that a source gives. -/
def ofSource (s : Source) : Checked Settings :=
  let d : Settings := {}
  (Checked.both (s.check outputDirVariable d.outputDir fun v => .ok (.ofString v))
    (Checked.both (s.check dimensionVariable d.dimension readDimension)
      (Checked.both (s.check scanModeVariable d.scanMode readScanMode)
        (Checked.both (s.check duplicatesVariable d.duplicates readDuplicates)
          (s.check debounceVariable d.debounce readDebounce))))).map
    fun (o, n, m, p, b) => ⟨o, n, m, p, b⟩

/-- A text without the byte order mark that may stand in front of it. -/
def dropMark (text : List Char) : List Char :=
  match text with
  | '\ufeff' :: rest => rest
  | text => text

/-- Why there can be no variable of a name with a value. -/
inductive VariableFault where
  /-- The name or the value holds the character that ends them. -/
  | terminator
  /-- The name holds the sign that ends names. -/
  | equalsSign
  /-- The name is empty. -/
  | noName
  deriving DecidableEq, Repr

/-- The wording of a fault, for those that are put into words. -/
def VariableFault.message? : VariableFault → Option String
  | .terminator => some "embedded null byte"
  | .equalsSign => some "illegal environment variable name"
  | .noName => none

/-- What is wrong with a variable, if anything is. -/
def variableFault? (name value : String) : Option VariableFault :=
  if name.toList.contains '\x00' || value.toList.contains '\x00' then some .terminator
  else if name.toList.contains '=' then some .equalsSign
  else if name.isEmpty then some .noName
  else none

/-- The source of an environment and the bytes of a settings file; nothing if they are no UTF-8. -/
def source? (environment : List (String × String)) (file : Option (List UInt8)) : Option Source :=
  match file with
  | none => some ⟨environment, []⟩
  | some content =>
    (Text.decode? content).map fun text =>
      ⟨environment, EnvFile.values environment (Text.unifyNewlines (dropMark text))⟩

/-- Why there are no settings. -/
inductive LoadFault where
  | badVariable (f : VariableFault)
  /-- The settings file is no UTF-8. -/
  | notUtf8
  /-- Values are not acceptable. -/
  | badValues (issues : List Issue)
  deriving DecidableEq, Repr

/-- The settings of an environment and the bytes of a settings file. -/
def load (environment : List (String × String)) (file : Option (List UInt8)) :
    Except LoadFault Settings :=
  match environment.findSome? fun (name, value) => variableFault? name value with
  | some f => .error (.badVariable f)
  | none =>
    match source? environment file with
    | none => .error .notUtf8
    | some source =>
      match ofSource source with
      | .ok s => .ok s
      | .error issues => .error (.badValues issues)

end Settings

end TableSketch
