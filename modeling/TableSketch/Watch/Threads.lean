/-!
# A watcher among threads

The delay of a watcher is waited for by a timer, and each timer waits in a thread of
its own. `Watcher` says what comes of steps that are taken one after the other. Here
the steps are the smallest ones there are, so that those of different threads can mix:
what a thread does in one go while it holds the watcher's lock, and each thing that it
does without the lock.

The watcher holds the timer that was started last, until somebody takes it: the
timer's own thread when its time has come, a flush or a cancellation. A timer can be
cancelled while it waits, and not any more when its time has come. So there may be
threads of timers that nobody holds any more, on their way to a call.
-/

namespace TableSketch

/-- How far the thread of a timer is. -/
inductive TimerStage where
  | waiting
  /-- Its time has come. -/
  | expired
  /-- It has been in its locked section. -/
  | released
  /-- It has started the call. -/
  | called
  deriving DecidableEq, Repr

/-- A timer, with its thread. -/
structure Timer where
  stage : TimerStage := .waiting
  cancelled : Bool := false
  deriving DecidableEq, Repr

/-- How far a flush is that has taken a timer. -/
inductive FlushStage where
  | taken (timer : Nat)
  /-- It has cancelled the timer. -/
  | cancelled
  /-- It has been in its second locked section. -/
  | released
  /-- It has started the call. -/
  | called
  deriving DecidableEq, Repr

/-- How far a cancellation is that has taken a timer. -/
inductive CancelStage where
  | taken (timer : Nat)
  /-- It has cancelled the timer. -/
  | done
  deriving DecidableEq, Repr

/-- What matters about the past. -/
inductive Happening where
  /-- A relevant event started a timer. -/
  | armed (timer : Nat)
  /-- A cancellation took a timer. -/
  | withdrawn (timer : Nat)
  /-- A call was started. -/
  | called
  deriving DecidableEq, Repr

/-- A watcher with all threads that work on it. Timers, flushes and cancellations are known by
their numbers, in the order in which they came. -/
structure Threads where
  timers : List Timer := []
  /-- The timer that the watcher holds. -/
  held : Option Nat := none
  flushes : List FlushStage := []
  cancels : List CancelStage := []
  /-- What happened so far, the latest first. -/
  happened : List Happening := []
  deriving DecidableEq, Repr

/-- The smallest steps. -/
inductive ThreadStep where
  /-- A relevant event, in its locked section. -/
  | event
  /-- The time of a timer comes. -/
  | expire (timer : Nat)
  /-- The thread of a timer, in its locked section. -/
  | release (timer : Nat)
  /-- The thread of a timer starts the call. -/
  | call (timer : Nat)
  /-- A flush, in its first locked section. -/
  | flush
  | flushCancel (flush : Nat)
  /-- A flush, in its second locked section. -/
  | flushRelease (flush : Nat)
  | flushCall (flush : Nat)
  /-- A cancellation, in its locked section. -/
  | cancel
  | cancelTimer (cancel : Nat)
  deriving DecidableEq, Repr

namespace Threads

/-- The stage of a timer's thread. -/
def stage? (p : Threads) (t : Nat) : Option TimerStage :=
  p.timers[t]?.map Timer.stage

/-- Moves the thread of a timer to a stage. -/
def setStage (p : Threads) (t : Nat) (s : TimerStage) : Threads :=
  { p with timers := p.timers.modify t fun x => { x with stage := s } }

/-- Cancels a timer. -/
def stop (p : Threads) (t : Nat) : Threads :=
  { p with timers := p.timers.modify t fun x => { x with cancelled := true } }

/-- Starts a new timer and holds it. -/
def start (p : Threads) : Threads :=
  { p with
    timers := p.timers.concat {}
    held := some p.timers.length
    happened := .armed p.timers.length :: p.happened }

/-- Starts a new timer in the place of the one that is held, which is cancelled. -/
def arm (p : Threads) : Threads :=
  match p.held with
  | none => p.start
  | some t => (p.stop t).start

/-- What a thread does before a call: the thread of the timer that is held gives it up. `self` is
the timer whose thread it is, if it is the thread of one. -/
def giveUp (p : Threads) (self : Option Nat) : Threads :=
  { p with held := if p.held = self then none else p.held }

/-- Starts a call. -/
def startCall (p : Threads) : Threads :=
  { p with happened := .called :: p.happened }

/-- Takes the timer that is held for a flush. -/
def takeForFlush (p : Threads) : Threads :=
  match p.held with
  | none => p
  | some t => { p with held := none, flushes := p.flushes ++ [.taken t] }

/-- Takes the timer that is held for a cancellation. -/
def takeForCancel (p : Threads) : Threads :=
  match p.held with
  | none => p
  | some t =>
    { p with
      held := none
      cancels := p.cancels ++ [.taken t]
      happened := .withdrawn t :: p.happened }

/-- Moves a flush to a stage. -/
def setFlush (p : Threads) (f : Nat) (s : FlushStage) : Threads :=
  { p with flushes := p.flushes.set f s }

/-- Moves a cancellation to a stage. -/
def setCancel (p : Threads) (c : Nat) (s : CancelStage) : Threads :=
  { p with cancels := p.cancels.set c s }

/-- Takes a step, if it can be taken. -/
def step? (p : Threads) : ThreadStep → Option Threads
  | .event => some p.arm
  | .expire t => if p.timers[t]? = some {} then some (p.setStage t .expired) else none
  | .release t =>
    if p.stage? t = some .expired then some ((p.giveUp (some t)).setStage t .released) else none
  | .call t =>
    if p.stage? t = some .released then some (p.startCall.setStage t .called) else none
  | .flush => some p.takeForFlush
  | .flushCancel f =>
    match p.flushes[f]? with
    | some (.taken t) => some ((p.stop t).setFlush f .cancelled)
    | _ => none
  | .flushRelease f =>
    if p.flushes[f]? = some .cancelled then some ((p.giveUp none).setFlush f .released) else none
  | .flushCall f =>
    if p.flushes[f]? = some .released then some (p.startCall.setFlush f .called) else none
  | .cancel => some p.takeForCancel
  | .cancelTimer c =>
    match p.cancels[c]? with
    | some (.taken t) => some ((p.stop t).setCancel c .done)
    | _ => none

/-- Takes steps one after the other, if they can be taken. -/
def run? (p : Threads) : List ThreadStep → Option Threads
  | [] => some p
  | x :: xs => (p.step? x).bind fun q => q.run? xs

/-- The states that threads come into from the start. -/
inductive Reachable : Threads → Prop where
  | start : Reachable {}
  | step {p q : Threads} {x : ThreadStep} : Reachable p → p.step? x = some q → Reachable q

/-- Some thread is on its way to a call: that of a timer whose time has come, or a flush that has
taken a timer. -/
def OnItsWay (p : Threads) : Prop :=
  (∃ t, p.stage? t = some .expired ∨ p.stage? t = some .released) ∨ ∃ s ∈ p.flushes, s ≠ .called

end Threads

end TableSketch
