/-!
# Arguments of a command line

Arguments are options and operands in any order. An option has a long name (`--out`)
and perhaps a letter (`-o`). Options with a value take it behind an equals sign,
directly behind their letter, or from the next argument, whatever that looks like.
Letters can be put together behind one dash. Names are never abbreviated. Behind
`--` everything is an operand, and a dash alone is always one.
-/

namespace TableSketch

/-- What is wrong with a command line. -/
inductive UsageError where
  /-- There is no such option. -/
  | noSuchOption (name : String)
  /-- An option lacks its value, or has one that it does not take. -/
  | badOption (name : String)
  | missingOperand
  /-- Anything else: an operand too many, no command, or an unknown one. -/
  | badUsage
  deriving DecidableEq, Repr

/-- An option that a command knows. -/
structure OptionSpec where
  name : String
  letter : Option Char := none
  takesValue : Bool := false
  deriving DecidableEq, Repr

/-- The option that asks for help. -/
def OptionSpec.help : OptionSpec := { name := "--help" }

/-- Arguments that have been sorted out: the options as they came, with their values, and the
operands. -/
structure Arguments where
  options : List (String × String) := []
  operands : List String := []
  deriving DecidableEq, Repr

namespace Arguments

/-- Whether an option was given. -/
def has (a : Arguments) (name : String) : Bool :=
  (a.options.map Prod.fst).contains name

/-- The values of an option, in order. -/
def values (a : Arguments) (name : String) : List String :=
  (a.options.filter (·.1 == name)).map Prod.snd

/-- The last value of an option. -/
def value? (a : Arguments) (name : String) : Option String :=
  (a.values name).getLast?

/-- Whether help was asked for. -/
def wantsHelp (a : Arguments) : Bool :=
  a.has OptionSpec.help.name

/-- An argument cut at its first equals sign. -/
def cutValue (arg : List Char) : List Char × Option (List Char) :=
  match arg.dropWhile (· != '=') with
  | [] => (arg, none)
  | _ :: v => (arg.takeWhile (· != '='), some v)

/-- The options in an argument and whether the next argument belongs to them as a value. -/
abbrev Found := List (String × String) × Bool

/-- Reads the letters behind a dash. -/
def readLetters (specs : List OptionSpec) (next : Option String) :
    List Char → Except UsageError Found
  | [] => .ok ([], false)
  | c :: cs =>
    match specs.find? (·.letter == some c) with
    | none => .error (.noSuchOption (String.ofList ['-', c]))
    | some spec =>
      if spec.takesValue then
        match cs, next with
        | [], none => .error (.badOption spec.name)
        | [], some v => .ok ([(spec.name, v)], true)
        | cs, _ => .ok ([(spec.name, String.ofList cs)], false)
      else
        match readLetters specs next cs with
        | .ok (found, used) => .ok ((spec.name, "") :: found, used)
        | .error e => .error e

/-- Reads an argument that starts with a dash and has more behind it. -/
def readOption (specs : List OptionSpec) (arg : List Char) (next : Option String) :
    Except UsageError Found :=
  let (name, v) := cutValue arg
  match specs.find? (·.name.toList == name) with
  | some spec =>
    match spec.takesValue, v, next with
    | true, some v, _ => .ok ([(spec.name, String.ofList v)], false)
    | true, none, some v => .ok ([(spec.name, v)], true)
    | true, none, none => .error (.badOption spec.name)
    | false, some _, _ => .error (.badOption spec.name)
    | false, none, _ => .ok ([(spec.name, "")], false)
  | none =>
    match arg with
    | '-' :: '-' :: _ => .error (.noSuchOption (String.ofList name))
    | _ => readLetters specs next (arg.drop 1)

/-- Whether an argument holds options. -/
def isOption (arg : String) : Bool :=
  match arg.toList with
  | '-' :: _ :: _ => true
  | _ => false

/-- Arguments with more options in front. -/
def addOptions (found : List (String × String)) (a : Arguments) : Arguments :=
  { a with options := found ++ a.options }

/-- Arguments with one more operand in front. -/
def addOperand (arg : String) (a : Arguments) : Arguments :=
  { a with operands := arg :: a.operands }

/-- Sorts out arguments. With `leading`, the first operand ends the options, and it and all that
follows are operands. -/
def read (specs : List OptionSpec) (leading : Bool) : List String → Except UsageError Arguments
  | [] => .ok {}
  | arg :: rest =>
    if arg == "--" then .ok { operands := rest }
    else if isOption arg then
      match readOption specs arg.toList rest.head?, rest with
      | .error e, _ => .error e
      | .ok (found, true), _ :: rest => (read specs leading rest).map (addOptions found)
      | .ok (found, _), rest => (read specs leading rest).map (addOptions found)
    else if leading then .ok { operands := arg :: rest }
    else (read specs leading rest).map (addOperand arg)

end Arguments

end TableSketch
