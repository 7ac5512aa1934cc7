/-
This file reads the bit patterns of binary floating point numbers. A format is given
by the widths of its fraction and exponent fields, and one reader serves every format:
it tells a pattern's class and, for a finite number, the significand and the power of
two that it stands for, in exact integers.
-/

namespace Erasure

/-- A binary floating point format, given by the widths of two of its three fields. -/
structure BinaryFormat where
  fractionBits : Nat
  /-- The number of bits of the exponent field, which lies above the fraction. -/
  exponentBits : Nat
  deriving DecidableEq, Repr

namespace BinaryFormat

/-- The format of 32 bits. -/
def single : BinaryFormat := ⟨23, 8⟩

/-- The format of 64 bits. -/
def double : BinaryFormat := ⟨52, 11⟩

end BinaryFormat

/-- The size of a finite number other than zero: `significand * 2 ^ exponent`. -/
structure BinaryMagnitude where
  /-- The significand, the hidden bit included. -/
  significand : Nat
  /-- The power of two that the significand counts. -/
  exponent : Int
  /-- Whether the number is the least of its binade, so that its lower neighbour is only half
  as far away as its upper one. -/
  leastOfBinade : Bool
  deriving DecidableEq, Repr

/-- What a bit pattern stands for. -/
inductive BinaryNumber
  | notANumber
  | infinite (negative : Bool)
  | zero (negative : Bool)
  | finite (negative : Bool) (magnitude : BinaryMagnitude)
  deriving DecidableEq, Repr

namespace BinaryFormat

/-- What a bit pattern of this format stands for. An exponent field of zeros marks zeros and
numbers without a hidden bit, one of ones the infinities and what is no number. -/
def read (format : BinaryFormat) (bits : Nat) : BinaryNumber :=
  let fraction := bits % Nat.pow 2 format.fractionBits
  let exponent := bits / Nat.pow 2 format.fractionBits % Nat.pow 2 format.exponentBits
  let negative := bits / Nat.pow 2 (format.fractionBits + format.exponentBits) % 2 == 1
  let bias : Int := Nat.pow 2 (format.exponentBits - 1) - 1
  if exponent = Nat.pow 2 format.exponentBits - 1 then
    if fraction = 0 then .infinite negative else .notANumber
  else if exponent = 0 then
    if fraction = 0 then
      .zero negative
    else
      .finite negative ⟨fraction, 1 - bias - format.fractionBits, false⟩
  else
    .finite negative
      ⟨Nat.pow 2 format.fractionBits + fraction, exponent - bias - format.fractionBits,
        fraction == 0 && exponent != 1⟩

end BinaryFormat

end Erasure
