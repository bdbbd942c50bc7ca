import TableSketch.Watch.Watcher

/-!
# A watcher at work

A scene is a watcher together with the desk that its results are written on and the
time. It takes one step after the other: events, the passing of time, flushes and
cancellations, and changes made to files from outside. `Scene.step` says what comes
of a step, the answer to the watcher's calls being left open, so that the calls of a
watcher can be studied without any files.

A call that fails leaves the watcher in the state in which the call was made.
-/

namespace TableSketch

/-- The files that a part of a run has changed. -/
abbrev Changes := List (Location × List UInt8)

/-- What happens to a scene. -/
inductive SceneStep (τ : Type) where
  | event (e : ChangeEvent)
  | advance (time : τ)
  | flush
  | cancel
  /-- Somebody writes a file. -/
  | write (p : Path) (content : List UInt8)
  /-- Somebody removes a file. -/
  | delete (p : Path)
  /-- Something that does not concern the watcher. -/
  | rest

/-- A watcher at work. -/
structure Scene (τ : Type) where
  desk : Desk
  now : τ
  watcher : Watcher τ

/-- What comes of a step. -/
structure SceneReport where
  /-- The messages of the step. -/
  messages : List String := []
  /-- Whether the watcher called for results. -/
  called : Bool := false
  /-- Whether it was the passing of time that made it call. -/
  byTime : Bool := false
  /-- How the call failed, or why it was not known whether to call. -/
  failure : Option Failure := none
  /-- The files that were written on the watcher's call. -/
  changes : Changes := []

namespace Scene

variable {τ : Type}

/-- Lets a reaction take its course; `answer` is what a call does. -/
def react (answer : Order → Work Unit) (s : Scene τ) (byTime : Bool) (r : Reaction τ) :
    Scene τ × SceneReport :=
  if r.calls then
    let desk := { s.desk with log := [] }
    let (result, desk) := (answer r.watcher.order).on desk
    let failure := match result with
      | .ok () => none
      | .error f => some f
    ({ s with desk := desk, watcher := r.watcher },
      { messages := r.messages ++ desk.log, called := true, byTime := byTime, failure := failure,
        changes := desk.storage.tree.changesSince s.desk.storage.tree })
  else
    ({ s with watcher := r.watcher },
      { messages := r.messages, failure := r.failure.map .storage })

/-- What a step changes in a tree from outside. -/
def outside (s : Scene τ) (x : SceneStep τ) (t : FileTree) : FileTree :=
  match x with
  | .write p content => t.plant (s.desk.storage.place p) content
  | .delete p => t.remove (s.desk.storage.place p)
  | _ => t

/-- What comes of a step. -/
def step [Add τ] [LE τ] [DecidableLE τ] [Zero τ] (answer : Order → Work Unit) (s : Scene τ) :
    SceneStep τ → Scene τ × SceneReport
  | .event e => s.react answer false (s.watcher.onEvent s.desk.storage s.now e)
  | .advance time =>
    let s := { s with now := s.now + time }
    s.react answer true (s.watcher.onInstant s.now)
  | .flush => s.react answer false s.watcher.onFlush
  | .cancel => s.react answer false s.watcher.onCancel
  | x => ({ s with desk.storage.tree := s.outside x s.desk.storage.tree }, {})

/-- What comes of steps one after the other: the last scene, and for each step its report with
the scene behind it. -/
def run [Add τ] [LE τ] [DecidableLE τ] [Zero τ] (answer : Order → Work Unit) (s : Scene τ) :
    List (SceneStep τ) → Scene τ × List (Scene τ × SceneReport)
  | [] => (s, [])
  | x :: xs =>
    let (s, r) := s.step answer x
    let (last, rs) := s.run answer xs
    (last, (s, r) :: rs)

end Scene

/-- Writes results and forgets which. -/
def writeResults (o : Order) : Work Unit :=
  discard (Work.generate o)

end TableSketch
