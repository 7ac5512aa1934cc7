/-
This file holds the arithmetic of the catalogued functions. Integers wrap around and
division truncates. A float that is no number always has the same bits in a result.
-/

import Erasure.Native

namespace Erasure.Catalog

/-- The bits of every result that is no number. -/
def noNumberBits : UInt64 := 0x7ff8000000000000

/-- The bits of a float, of which all that are no numbers share one pattern. -/
def resultBits (number : Float) : UInt64 :=
  if number.isNaN then noNumberBits else number.toBits

/-- Twice a float. -/
def doubledBits (bits : UInt64) : UInt64 :=
  resultBits (Float.ofBits bits * 2.0)

/-- The product of two floats, of which the narrower one is widened first. -/
def productBits (narrow : UInt32) (wide : UInt64) : UInt64 :=
  resultBits ((Float32.ofBits narrow).toFloat * Float.ofBits wide)

/-- The quotient of two integers, or a failure that is made of the dividend. -/
def quotient (failure : Int32 → Failure) (dividend divisor : Int32) : Except Failure Int32 :=
  if divisor = 0 then .error (failure dividend) else .ok (dividend / divisor)

/-- The sum of two integers, which fails if it does not fit. -/
def checkedSum (left right : Int64) : Except Failure Int64 :=
  let sum := left + right
  if sum.toInt = left.toInt + right.toInt then .ok sum else .error .overflow

/-! ### Probes -/

/-- The number a probe takes a value for. What is not a primitive has a number of its own, a
tuple one for each length. -/
def weight : Value → Int64
  | .i32 number => number.toInt64
  | .i64 number => number
  | .f32 bits => bits.toUInt64.toInt64
  | .f64 bits => bits.toInt64
  | .bool truth => if truth then 1 else 0
  | .unit => -1
  | .ref _ => -2
  | .func _ => -3
  | .tuple items => -100 - Int64.ofNat items.length

/-- The number a probe makes of its arguments. -/
def probeSum (arguments : List Value) : Int64 :=
  arguments.foldl (fun sum argument => sum * 31 + weight argument) 17

/-- The result a probe makes of its number and its arguments. -/
def probeResult (sum : Int64) (arguments : List Value) : (type : ReturnType) → type.Carrier
  | .native .i32 => sum.toInt32
  | .native .i64 => sum
  | .native .f32 => sum.toUInt64.toUInt32
  | .native .f64 => sum.toUInt64
  | .native .bool => sum % 2 != 0
  | .native .generic => Value.tuple arguments
  | .nothing => ()

end Erasure.Catalog
