/-!
# Binary floating-point numbers of 64 bits

The numbers of the IEEE 754 double format as exact values: a sign, a whole
mantissa and a power of two, or one of the special values. Rounding, addition and
comparison are done in whole-number arithmetic, so they can be reasoned about,
and they give what the hardware gives.

A finite number is kept in its one normal form: the mantissa has 53 bits, or the
exponent is the least one. `roundRatio` produces that form from any ratio, to
nearest with ties to the even mantissa; every other operation goes through it.
-/

namespace TableSketch

/-- A number of the double format. -/
inductive Binary64 where
  /-- The number `± mantissa * 2 ^ exponent`. -/
  | finite (negative : Bool) (mantissa : Nat) (exponent : Int)
  | infinite (negative : Bool)
  | nan
  deriving DecidableEq, Repr

namespace Binary64

/-- The exponent of the smallest numbers. -/
def minExponent : Int := -1074

/-- The exponent of the largest numbers. -/
def maxExponent : Int := 971

/-- Zero with a sign. -/
def zero (negative : Bool) : Binary64 :=
  .finite negative 0 minExponent

/-- The quotient rounded to nearest, a tie to the even neighbour. -/
def roundQuotient (num den : Nat) : Nat :=
  let q := num / den
  let r := num % den
  if 2 * r < den then q
  else if den < 2 * r then q + 1
  else if q % 2 = 0 then q else q + 1

/-- The quotient `num / den / 2 ^ e` as a ratio of whole numbers. -/
def scaled (num den : Nat) (e : Int) : Nat × Nat :=
  if 0 ≤ e then (num, den * Nat.pow 2 e.toNat) else (num * Nat.pow 2 (-e).toNat, den)

/-- The exponent of the last bit that is kept of `num / den`, which is not zero. -/
def lastBit (num den : Nat) : Int :=
  let e : Int := (Nat.log2 num : Int) - Nat.log2 den - 52
  let (n, d) := scaled num den e
  max (if n < d * Nat.pow 2 52 then e - 1 else e) minExponent

/-- The number nearest to `± num / den`. -/
def roundRatio (negative : Bool) (num den : Nat) : Binary64 :=
  if num = 0 then zero negative
  else
    let e := lastBit num den
    let (n, d) := scaled num den e
    let m := roundQuotient n d
    let (m, e) := if m = Nat.pow 2 53 then (Nat.pow 2 52, e + 1) else (m, e)
    if maxExponent < e then .infinite negative else .finite negative m e

/-- The number nearest to `± n * 2 ^ e`. -/
def roundDyadic (negative : Bool) (n : Nat) (e : Int) : Binary64 :=
  let (num, den) := if 0 ≤ e then (n * Nat.pow 2 e.toNat, 1) else (n, Nat.pow 2 (-e).toNat)
  roundRatio negative num den

/-- The number nearest to `± digits * 10 ^ e`. Values far outside of the range are settled by
their size alone, so that a huge exponent costs nothing. -/
def ofDecimal (negative : Bool) (digits : Nat) (e : Int) : Binary64 :=
  let size := (Nat.toDigits 10 digits).length + e
  if digits = 0 ∨ size < -330 then zero negative
  else if 330 < size then .infinite negative
  else if 0 ≤ e then roundRatio negative (digits * Nat.pow 10 e.toNat) 1
  else roundRatio negative digits (Nat.pow 10 (-e).toNat)

/-- The number nearest to a whole number. -/
def ofInt (i : Int) : Binary64 :=
  ofDecimal (decide (i < 0)) i.natAbs 0

instance : Zero Binary64 := ⟨zero false⟩

/-- The mantissa with its sign, at a smaller or equal exponent. -/
def signedAt (negative : Bool) (m : Nat) (e least : Int) : Int :=
  let n : Int := (m * Nat.pow 2 (e - least).toNat : Nat)
  if negative then -n else n

/-- The sum, rounded once. -/
def add : Binary64 → Binary64 → Binary64
  | .nan, _ | _, .nan => .nan
  | .infinite a, .infinite b => if a = b then .infinite a else .nan
  | .infinite a, .finite .. | .finite .., .infinite a => .infinite a
  | .finite a m e, .finite b n f =>
    let least := min e f
    let s := signedAt a m e least + signedAt b n f least
    if s = 0 then zero (a && b) else roundDyadic (decide (s < 0)) s.natAbs least

instance : Add Binary64 := ⟨add⟩

/-- The order of numbers; both zeros are equal and nothing compares with `nan`. -/
def ble : Binary64 → Binary64 → Bool
  | .nan, _ | _, .nan => false
  | .infinite a, .infinite b => a || !b
  | .infinite a, .finite .. => a
  | .finite .., .infinite b => !b
  | .finite a m e, .finite b n f =>
    let least := min e f
    signedAt a m e least ≤ signedAt b n f least

instance : LE Binary64 := ⟨fun x y => ble x y = true⟩

instance : DecidableLE Binary64 := fun x y => inferInstanceAs (Decidable (ble x y = true))

end Binary64

end TableSketch
