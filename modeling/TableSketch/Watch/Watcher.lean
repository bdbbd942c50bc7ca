import TableSketch.Generation

/-!
# Watching for changes

A watcher waits for changes that concern a path and calls for new results when it
has been quiet for a while. It is a machine with one piece of state, the instant at
which results become due: a relevant event sets it anew, the passing of that instant
or a flush clears it and calls for results, and a cancellation clears it without a
call. With a delay of zero or less every relevant event calls for results at once.

The machine works on any kind of instants that can be added and compared.
-/

namespace TableSketch

/-- A change in the file system, as it is announced. -/
structure ChangeEvent where
  /-- Where something changed; empty if that is not known. -/
  source : String
  /-- Where it was moved to. -/
  target : Option String := none
  isDirectory : Bool := false
  /-- The word for what happened. -/
  kind : String := "modified"
  deriving DecidableEq, Repr

/-- What waits for changes. -/
structure Watcher (τ : Type) where
  path : Path
  outputDir : Option Path := none
  flags : Flags := {}
  /-- How long it must be quiet. This is what its timers wait, for ever if they never come to their
  end. -/
  delay : τ
  /-- When results become due, if a change was seen. -/
  due : Option τ := none

/-- What a watcher does about something: messages for the log, and whether it calls for results, or
why it does not know what to do. -/
structure Reaction (τ : Type) where
  watcher : Watcher τ
  messages : List String := []
  calls : Bool := false
  failure : Option StorageError := none

namespace Watcher

variable {τ : Type}

/-- Whether a change is seen and results are due. -/
def pending (w : Watcher τ) : Bool :=
  w.due.isSome

/-- What is to be generated when the watcher calls. -/
def order (w : Watcher τ) : Order :=
  { path := w.path, outputDir := w.outputDir, flags := w.flags }

/-- Whether a path concerns the watcher. A watched file is concerned by paths that denote it,
anything else by all paths to sketches. -/
def concerns (w : Watcher τ) (s : Storage) (p : Path) : Except StorageError Bool := do
  if ← s.isFile w.path then return (← s.resolve p) == (← s.resolve w.path) else return p.isSketch

/-- The paths of an event that concern the watcher. -/
def hits (w : Watcher τ) (s : Storage) (e : ChangeEvent) : Except StorageError (List Path) :=
  if e.isDirectory then .ok []
  else
    ((([e.source] ++ e.target.toList).filter (· != "")).map Path.ofString).filterM (w.concerns s)

/-- The call for results, with its message. -/
def call (w : Watcher τ) (messages : List String) : Reaction τ :=
  { watcher := w, messages := messages ++ ["regenerating " ++ w.path.text], calls := true }

/-- The reaction to an event at an instant. -/
def onEvent [Add τ] [LE τ] [DecidableLE τ] [Zero τ] (w : Watcher τ) (s : Storage) (now : τ)
    (e : ChangeEvent) : Reaction τ :=
  match w.hits s e with
  | .error f => { watcher := w, failure := some f }
  | .ok hits =>
    match hits.getLast? with
    | none => { watcher := w }
    | some p =>
      let message := p.text ++ " changed (" ++ e.kind ++ ")"
      if w.delay ≤ 0 then w.call [message]
      else { watcher := { w with due := some (now + w.delay) }, messages := [message] }

/-- The reaction to an instant's being reached. -/
def onInstant [LE τ] [DecidableLE τ] (w : Watcher τ) (now : τ) : Reaction τ :=
  match w.due with
  | none => { watcher := w }
  | some t => if t ≤ now then { w with due := none }.call [] else { watcher := w }

/-- The reaction to a wish for results that are due. -/
def onFlush (w : Watcher τ) : Reaction τ :=
  if w.pending then { w with due := none }.call [] else { watcher := w }

/-- The reaction to a cancellation. -/
def onCancel (w : Watcher τ) : Reaction τ :=
  { watcher := { w with due := none } }

end Watcher

end TableSketch
