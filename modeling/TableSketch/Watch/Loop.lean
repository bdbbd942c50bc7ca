import TableSketch.Watch.Scene

/-!
# The watch loop

Results are generated once, and then again on every call of a watcher, until the
loop ends. An observer announces the changes: of a directory and all below it, or of
the directory that a watched file stands in. However the loop ends, the watcher is
cancelled first, and then the observer is stopped and waited for. An event that was
announced between the one and the other would make results due once more; it is
assumed that none comes there.

The loop sleeps for a second at a time. What happens between two sleeps is a round
of steps. The loop has no end of its own: some failure leaves the sleep behind the
last round, an interruption as a rule.
-/

namespace TableSketch

/-- What a round of steps comes to. -/
structure RoundReport where
  /-- The files that were written on the watcher's calls. -/
  changes : Changes
  /-- Whether results are due behind the round. -/
  pending : Bool
  /-- The last failure of a call. -/
  failure : Option Failure

/-- What the loop does, in order. -/
inductive LoopEvent where
  /-- The observer is given a directory, the first results having been written. -/
  | scheduled (dir : Path) (recursive : Bool) (changes : Changes)
  | started
  /-- The loop has slept; what the watcher did meanwhile, and what the round behind it came to. -/
  | slept (meanwhile : SceneReport) (round : Option RoundReport)
  | stopped (pending : Bool)
  | joined

/-- The outcome of a loop: what it did, and how it ended. -/
structure LoopOutcome where
  trace : List LoopEvent
  failure : Failure

namespace Loop

/-- How long the loop sleeps at a time, in seconds. -/
def nap : Binary64 := .ofInt 1

/-- Takes the steps of a round. `known` is the tree with all that was changed from outside. -/
def round (s : Scene Binary64) (known : FileTree) (failure : Option Failure) :
    List (SceneStep Binary64) → Scene Binary64 × RoundReport
  | [] => (s, ⟨s.desk.storage.tree.changesSince known, s.watcher.pending, failure⟩)
  | x :: xs =>
    let known := s.outside x known
    let (s, r) := s.step writeResults x
    round s known (r.failure <|> failure) xs

/-- Sleeps, and takes the next round, until there is none left. -/
def rounds (s : Scene Binary64) : List (List (SceneStep Binary64)) → Scene Binary64 × List LoopEvent
  | [] =>
    let (s, r) := s.step writeResults (.advance nap)
    (s, [.slept r none])
  | x :: xs =>
    let (s, r) := s.step writeResults (.advance nap)
    let (s, report) := round s s.desk.storage.tree none x
    let (s, events) := rounds s xs
    (s, .slept r (some report) :: events)

/-- Cancels the watcher, stops the observer and waits for it. -/
def shutDown (s : Scene Binary64) : Scene Binary64 × List LoopEvent :=
  let (s, _) := s.step writeResults .cancel
  (s, [.stopped s.watcher.pending, .joined])

/-- The watcher for an order, under the settings of a desk. -/
def watcher (o : Order) (d : Desk) : Watcher Binary64 :=
  { path := o.path
    outputDir := o.outputDir
    flags := o.flags
    delay := d.platform.timerWait d.settings.debounce }

/-- The directory that is observed, and whether all below it is. -/
def observed (p : Path) : Work (Path × Bool) := do
  return (if ← Work.ask (·.isFile p) then p.parent else p, ← Work.ask (·.isDir p))

/-- Generates the first results; then there is something to observe. -/
def start (o : Order) : Work (Path × Bool) := do
  let _ ← Work.generate o
  observed o.path

/-- The scene that is watched from then on. -/
def scene (o : Order) (d : Desk) : Scene Binary64 :=
  ⟨d, 0, watcher o d⟩

/-- Watches until the rounds are over and a failure ends the loop. Without first results nothing is
observed. -/
def run (o : Order) (script : List (List (SceneStep Binary64))) (d : Desk)
    (ending : Failure := .interrupted) : LoopOutcome × Desk :=
  match (start o).on d with
  | (.error f, d) => (⟨[], f⟩, d)
  | (.ok (dir, recursive), d') =>
    let changes := d'.storage.tree.changesSince d.storage.tree
    let (s, slept) := rounds (scene o d') script
    let (s, down) := shutDown s
    (⟨.scheduled dir recursive changes :: .started :: (slept ++ down), ending⟩, s.desk)

end Loop

end TableSketch
