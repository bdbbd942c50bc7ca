/-!
# UTF-8

`encode` writes characters as bytes. Reading is a machine over the bytes: it is
either ready for a character or awaits the remaining bytes of one (`DecodeState`).
Bytes that cannot belong to any character are dropped: a byte that can begin no
character by itself, and a begun character together with all of its bytes as soon
as a byte comes that cannot continue it. That byte is then read afresh, so broken
bytes never swallow a character next to them.

* `decodeLossy` forgets the dropped bytes;
* `decode?` refuses a text in which any byte is dropped.
-/

namespace TableSketch.Text

/-- The bytes of one character. -/
def encodeChar (c : Char) : List UInt8 :=
  let n := c.toNat
  if n < 0x80 then [n.toUInt8]
  else if n < 0x800 then [(0xC0 + n / 0x40).toUInt8, (0x80 + n % 0x40).toUInt8]
  else if n < 0x10000 then
    [(0xE0 + n / 0x1000).toUInt8, (0x80 + n / 0x40 % 0x40).toUInt8, (0x80 + n % 0x40).toUInt8]
  else
    [(0xF0 + n / 0x40000).toUInt8, (0x80 + n / 0x1000 % 0x40).toUInt8,
      (0x80 + n / 0x40 % 0x40).toUInt8, (0x80 + n % 0x40).toUInt8]

/-- The bytes of a text. -/
def encode (cs : List Char) : List UInt8 :=
  cs.flatMap encodeChar

/-- Where the reader stands. -/
inductive DecodeState where
  /-- Between characters. -/
  | ready
  /-- In a character: how many bytes are missing, the bits read so far, and the range in which
  the next byte must lie. -/
  | awaiting (missing bits low high : Nat)
  deriving DecidableEq, Repr

/-- The outcome of reading one byte. -/
structure DecodeStep where
  state : DecodeState
  /-- The character that the byte completes. -/
  char : Option Char := none
  /-- Whether bytes were dropped. -/
  dropped : Bool := false
  deriving DecidableEq, Repr

namespace DecodeState

/-- Reads the first byte of a character. The narrowed ranges of the second byte rule out
overlong forms, surrogates and code points beyond the last one. -/
def lead (b : Nat) : DecodeStep :=
  if b < 0x80 then { state := .ready, char := some (Char.ofNat b) }
  else if b < 0xC2 then { state := .ready, dropped := true }
  else if b < 0xE0 then { state := .awaiting 1 (b - 0xC0) 0x80 0xBF }
  else if b = 0xE0 then { state := .awaiting 2 0 0xA0 0xBF }
  else if b = 0xED then { state := .awaiting 2 0xD 0x80 0x9F }
  else if b < 0xF0 then { state := .awaiting 2 (b - 0xE0) 0x80 0xBF }
  else if b = 0xF0 then { state := .awaiting 3 0 0x90 0xBF }
  else if b < 0xF4 then { state := .awaiting 3 (b - 0xF0) 0x80 0xBF }
  else if b = 0xF4 then { state := .awaiting 3 4 0x80 0x8F }
  else { state := .ready, dropped := true }

/-- Reads one byte. -/
def step : DecodeState → Nat → DecodeStep
  | .ready, b => lead b
  | .awaiting missing bits low high, b =>
    if low ≤ b ∧ b ≤ high then
      let bits := bits * 0x40 + (b - 0x80)
      if missing ≤ 1 then { state := .ready, char := some (Char.ofNat bits) }
      else { state := .awaiting (missing - 1) bits 0x80 0xBF }
    else { lead b with dropped := true }

end DecodeState

/-- The characters read from a state on, and whether any byte was dropped. -/
def decodeFrom : DecodeState → List UInt8 → List Char × Bool
  | .ready, [] => ([], false)
  | .awaiting .., [] => ([], true)
  | s, b :: bs =>
    let now := s.step b.toNat
    let rest := decodeFrom now.state bs
    (now.char.toList ++ rest.1, now.dropped || rest.2)

/-- Reads a text and drops what is no character. -/
def decodeLossy (bs : List UInt8) : List Char :=
  (decodeFrom .ready bs).1

/-- Reads a text that is well formed as a whole. -/
def decode? (bs : List UInt8) : Option (List Char) :=
  match decodeFrom .ready bs with
  | (cs, false) => some cs
  | (_, true) => none

end TableSketch.Text
