import TableSketch.Number.Binary64
import TableSketch.Text.Newline
import TableSketch.Text.Utf8

/-!
# The platform

Some things are left to the machine on which a run takes place: how the bytes of the
standard input become text, and how long a thread can wait. They are parameters of a
run, so that what holds of all runs holds on every machine.

It is assumed that the standard input is read as UTF-8 on every machine. Its line ends
are unified or kept as they are. Bytes that are no UTF-8 are refused, or something is
made of them. What is made of them is a `String`; a machine that keeps such bytes as lone
surrogates is left out, because there is no `String` with any.
-/

namespace TableSketch

/-- What is left to the machine. -/
structure Platform where
  /-- Whether the line ends of the standard input become line feeds, as those of files do. -/
  unifiesInput : Bool := true
  /-- What is made of a standard input that is no UTF-8, unless it is refused. -/
  malformedInput : List UInt8 → Option (List Char) := fun _ => none
  /-- The longest time that a thread can wait for, in seconds. -/
  longestWait : Binary64 := .ofInt 9223372036

namespace Platform

/-- The text of the standard input; nothing if it is refused. -/
def inputText? (p : Platform) (input : List UInt8) : Option String :=
  (Text.decode? input <|> p.malformedInput input).map fun cs =>
    String.ofList (if p.unifiesInput then Text.unifyNewlines cs else cs)

/-- How long a timer waits that is set to a delay. A thread that is to wait for longer than it can
ends at once and does nothing, so that its timer never comes to its end. -/
def timerWait (p : Platform) (delay : Binary64) : Binary64 :=
  if delay ≤ p.longestWait then delay else .infinite false

end Platform

end TableSketch
