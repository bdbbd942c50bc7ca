import TableSketch.CommandLine.Command

/-!
# The program

A command line names a command, behind options that hold for all commands. One of
them, `--verbose`, turns on the log; it takes effect as soon as the command is known,
even if the command's own arguments turn out to be wrong, and it lasts. The other one,
`--help`, tells how to use the program, whether a command is named or not.
-/

namespace TableSketch

/-- What lasts from one command line to the next: whether the log is on, and how many listeners it
has. -/
structure LogState where
  verbose : Bool := false
  listeners : Nat := 0
  deriving DecidableEq, Repr

/-- The log turned on; it gets a listener if it has none. -/
def LogState.turnOn (l : LogState) : LogState :=
  ⟨true, max 1 l.listeners⟩

/-- What comes of a command line. -/
structure ProgramOutcome where
  outcome : CommandOutcome
  desk : Desk
  log : LogState

namespace Program

/-- The options that hold for all commands. -/
def options : List OptionSpec :=
  [{ name := "--verbose", letter := some 'v' }, .help]

/-- What comes of words of which the first one names no command. A word that stands there because
of a `--` in front of it is taken for an option once more; otherwise the words are refused. -/
def readAgain (words : List String) : Except CommandFailure Command :=
  match Arguments.read options true words with
  | .error e => .error (.usage e)
  | .ok a => if a.wantsHelp then .ok (.help none) else .error (.usage .badUsage)

/-- The command that a command line spells out, and the log from then on. -/
def read (args : List String) (log : LogState) : Except CommandFailure Command × LogState :=
  match Arguments.read options true args with
  | .error e => (.error (.usage e), log)
  | .ok a =>
    if a.wantsHelp then (.ok (.help none), log)
    else
      match a.operands with
      | [] => (.error (.usage .badUsage), log)
      | word :: args =>
        match CommandName.ofWord? word with
        | none => (readAgain (word :: args), log)
        | some c => (c.read args, if a.has "--verbose" then log.turnOn else log)

/-- What comes of a command line on a desk. -/
def run (args : List String) (s : Surroundings) (d : Desk) (log : LogState) : ProgramOutcome :=
  match read args log with
  | (.error e, log) => ⟨{ failure := some e }, d, log⟩
  | (.ok c, log) =>
    let (outcome, d) := c.run s d
    ⟨outcome, d, log⟩

/-- The status with which a program ends. -/
def exitStatus (o : CommandOutcome) : Nat :=
  match o.failure with
  | some (.usage _) | some (.work (.badOperand ..)) => 2
  | some (.work _) => 1
  | none => if o.trace.isEmpty then 0 else 130

end Program

end TableSketch
