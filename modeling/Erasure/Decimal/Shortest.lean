/-
This file finds the decimal number with the fewest digits that reads back to a given
binary one. The numbers that read back to it form an interval, which reaches half way
to the two neighbours and contains its ends exactly if the significand is even. The
search lays ever finer decimal grids over the interval and takes the first that has a
point in it. If the two points next to the number both lie in the interval, the nearer
one is taken, and of two equally near ones the larger.
-/

import Erasure.Decimal.Binary

namespace Erasure

/-- The number `digits * 10 ^ exponent`. -/
structure DecimalMagnitude where
  /-- The digits, read as one integer. -/
  digits : Nat
  /-- The power of ten that the integer counts. -/
  exponent : Int
  deriving DecidableEq, Repr

/-- The numbers that read back to the same binary number, as integers over one unit: every
bound here counts the same fraction of `one`. -/
structure RoundingInterval where
  low : Nat
  center : Nat
  high : Nat
  /-- How many of these units the number one has. -/
  one : Nat
  /-- Whether the two ends belong to the interval. -/
  closed : Bool
  deriving DecidableEq, Repr

namespace RoundingInterval

/-- The interval of a binary number, counted in quarters of its last place, so that the half
way points are integers also below the least number of a binade. -/
def ofMagnitude (magnitude : BinaryMagnitude) : RoundingInterval :=
  let quarter := magnitude.exponent - 2
  let scale := Nat.pow 2 quarter.toNat
  let center := 4 * magnitude.significand
  { low := (center - if magnitude.leastOfBinade then 1 else 2) * scale
    center := center * scale
    high := (center + 2) * scale
    one := Nat.pow 2 (-quarter).toNat
    closed := magnitude.significand % 2 == 0 }

/-- The same interval in units of which `10 ^ exponent` has a whole number. -/
def refine (interval : RoundingInterval) (exponent : Int) : RoundingInterval :=
  let scale := Nat.pow 10 (-exponent).toNat
  { interval with
    low := interval.low * scale
    center := interval.center * scale
    high := interval.high * scale
    one := interval.one * scale }

/-- Whether a number, counted in the interval's unit, lies in the interval. -/
def contains (interval : RoundingInterval) (number : Nat) : Bool :=
  if interval.closed then
    interval.low ≤ number && number ≤ interval.high
  else
    interval.low < number && number < interval.high

/-- The multiple of `10 ^ exponent` in the interval that lies nearest to its number, as the
factor; nothing if no multiple lies there. Only the two multiples around the number need
to be looked at: if any is in the interval, then so is one of them. -/
def nearestOnGrid? (interval : RoundingInterval) (exponent : Int) : Option Nat :=
  let fine := interval.refine exponent
  let step := interval.one * Nat.pow 10 exponent.toNat
  let below := fine.center / step
  let above := below + 1
  match fine.contains (below * step), fine.contains (above * step) with
  | false, false => none
  | true, false => some below
  | false, true => some above
  | true, true =>
    if fine.center - below * step < above * step - fine.center then some below else some above

/-- The first grid with a point in the interval, of the given number of grids from a coarse one
down to ever finer ones. -/
def searchGrids (interval : RoundingInterval) : (grids : Nat) → (exponent : Int) →
    Option DecimalMagnitude
  | 0, _ => none
  | grids + 1, exponent =>
    match interval.nearestOnGrid? exponent with
    | some digits => some ⟨digits, exponent⟩
    | none => interval.searchGrids grids (exponent - 1)

end RoundingInterval

namespace BinaryMagnitude

/-- An exponent whose power of ten lies above the number: the binary length of the number times
a little more than the decimal logarithm of two. -/
def coarsestExponent (magnitude : BinaryMagnitude) : Int :=
  let length : Int := magnitude.significand.log2 + 1 + magnitude.exponent
  length * 30103 / 100000 + 1

/-- The decimal number with the fewest digits that reads back to this one. A grid of as many
digits as the significand has bits is fine enough, with a few to spare for the start. -/
def shortest (magnitude : BinaryMagnitude) : DecimalMagnitude :=
  let interval := RoundingInterval.ofMagnitude magnitude
  let grids := magnitude.significand.log2 + 5
  (interval.searchGrids grids magnitude.coarsestExponent).getD ⟨0, 0⟩

end BinaryMagnitude

end Erasure
