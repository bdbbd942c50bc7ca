import TableSketch.Number.Binary64

/-!
# Shortest decimal text

A number is written with the fewest digits that read back as the same number; of
several such decimals the one nearest to the number is taken. `Decimal.readsBack`
is reading itself, so that a written number reads back is true by construction of
the search.

The text is positional from `0.0001` up to below `10 ^ 16`, always with a digit
behind the point, and has an exponent of at least two digits everywhere else.
-/

namespace TableSketch.Binary64

/-- The digits of a decimal and the power of ten of the last of them. -/
structure Decimal where
  digits : Nat
  exponent : Int
  deriving DecidableEq, Repr

/-- Whether a decimal reads back as the number `mantissa * 2 ^ exponent`. -/
def Decimal.readsBack (d : Decimal) (mantissa : Nat) (exponent : Int) : Bool :=
  ofDecimal false d.digits d.exponent == .finite false mantissa exponent

/-- The quotient `num / den / 10 ^ e` as a ratio of whole numbers. -/
def scaledByTen (num den : Nat) (e : Int) : Nat × Nat :=
  if 0 ≤ e then (num, den * Nat.pow 10 e.toNat) else (num * Nat.pow 10 (-e).toNat, den)

/-- The power of ten of the first digit of `num / den`, which is not zero. -/
def firstDigit (num den : Nat) : Int :=
  let e : Int := ((Nat.toDigits 10 num).length : Int) - (Nat.toDigits 10 den).length
  let (n, d) := scaledByTen num den e
  if n < d then e - 1 else e

/-- The nearest decimal that has its last digit at `10 ^ e` and reads back, if there is one. Only
the two neighbours of the number on that grid can be the nearest. -/
def nearestOnGrid (m : Nat) (q : Int) (num den : Nat) (e : Int) : Option Decimal :=
  let (n, d) := scaledByTen num den e
  let low : Decimal := ⟨n / d, e⟩
  let high : Decimal := ⟨n / d + 1, e⟩
  let r := n % d
  match low.readsBack m q, high.readsBack m q with
  | true, true =>
    if 2 * r < d ∨ (2 * r = d ∧ low.digits % 2 = 0) then some low else some high
  | true, false => some low
  | false, true => some high
  | false, false => none

/-- The decimal with the fewest digits that reads back as `m * 2 ^ q`; 17 digits always do. -/
def shortest (m : Nat) (q : Int) : Decimal :=
  let (num, den) := if 0 ≤ q then (m * Nat.pow 2 q.toNat, 1) else (m, Nat.pow 2 (-q).toNat)
  let first := firstDigit num den
  ((List.range 17).findSome? fun (k : Nat) => nearestOnGrid m q num den (first - k)).getD ⟨0, 0⟩

/-- The digits of a decimal without the zeros at their end. -/
def Decimal.significant (d : Decimal) : List Char :=
  ((Nat.toDigits 10 d.digits).reverse.dropWhile (· == '0')).reverse

/-- The power of ten of the first digit. -/
def Decimal.leading (d : Decimal) : Int :=
  (Nat.toDigits 10 d.digits).length - 1 + d.exponent

/-- Digits with the point behind the first `whole` of them. -/
def pointed (digits : List Char) (whole : Nat) : List Char :=
  let padded := digits ++ List.replicate (whole - digits.length) '0'
  let fraction := padded.drop whole
  padded.take whole ++ '.' :: (if fraction.isEmpty then ['0'] else fraction)

/-- The text of a decimal that is not zero. -/
def Decimal.text (d : Decimal) : List Char :=
  let digits := d.significant
  let e := d.leading
  if e < -4 ∨ 16 ≤ e then
    let exponent := Nat.toDigits 10 e.natAbs
    let mantissa := if digits.length = 1 then digits else pointed digits 1
    mantissa ++ 'e' :: (if e < 0 then '-' else '+') ::
      (List.replicate (2 - exponent.length) '0' ++ exponent)
  else if e < 0 then '0' :: '.' :: (List.replicate ((-e).toNat - 1) '0' ++ digits)
  else pointed digits (e.toNat + 1)

/-- The text of a number. -/
def text : Binary64 → String
  | .nan => "nan"
  | .infinite negative => if negative then "-inf" else "inf"
  | .finite negative m q =>
    let body := if m = 0 then "0.0" else String.ofList (shortest m q).text
    if negative then "-" ++ body else body

end TableSketch.Binary64
