/-
This file defines values, the uniform form everything takes when it crosses a call
through a contract. A number or truth value is held as it is, floating point numbers by
their bit patterns. References and functions are objects: a value holds the address of
the object and not what it refers to, so that two values are equal exactly if they are
the same all through, floats bit for bit and objects by identity.
-/

import Erasure.Kind

namespace Erasure

/-- Where an object lives. Functions and references are addressed separately. -/
abbrev Address := Nat

/-- The uniform form of everything that crosses a call through a contract. -/
inductive Value
  | i32 (number : Int32)
  | i64 (number : Int64)
  /-- A floating point number of 32 bits, by its bit pattern. -/
  | f32 (bits : UInt32)
  /-- A floating point number of 64 bits, by its bit pattern. -/
  | f64 (bits : UInt64)
  | bool (truth : Bool)
  /-- The token that stands for "no value". -/
  | unit
  /-- A reference to foreign data. -/
  | ref (address : Address)
  /-- A function of one parameter. -/
  | func (address : Address)
  | tuple (items : List Value)
  deriving Inhabited

namespace Value

/-- The kind of a value at run time. References, functions and tuples are all erased, for
nothing can be unboxed out of them. -/
def kind : Value → Kind
  | i32 _ => .i32
  | i64 _ => .i64
  | f32 _ => .f32
  | f64 _ => .f64
  | bool _ => .bool
  | unit => .void
  | ref _ | func _ | tuple _ => .erased

/-- Whether this is the token for "no value". -/
def isUnit : Value → Bool
  | unit => true
  | _ => false

/-! ### Access -/

/-- The number of an `i32`. -/
def i32? : Value → Option Int32
  | i32 number => some number
  | _ => none

/-- The number of an `i64`. -/
def i64? : Value → Option Int64
  | i64 number => some number
  | _ => none

/-- The bit pattern of an `f32`. -/
def f32? : Value → Option UInt32
  | f32 bits => some bits
  | _ => none

/-- The bit pattern of an `f64`. -/
def f64? : Value → Option UInt64
  | f64 bits => some bits
  | _ => none

/-- The truth value of a `bool`. -/
def bool? : Value → Option Bool
  | bool truth => some truth
  | _ => none

/-- The address of a reference. -/
def ref? : Value → Option Address
  | ref address => some address
  | _ => none

/-- The address of a function. -/
def func? : Value → Option Address
  | func address => some address
  | _ => none

/-- The items of a tuple. -/
def items? : Value → Option (List Value)
  | tuple items => some items
  | _ => none

/-! ### Equality -/

mutual

/-- Whether two values are equal: of one form and with the same content, where the content of
a float is its bits, that of an object its address and that of a tuple its items. -/
def same : Value → Value → Bool
  | i32 left, i32 right => left == right
  | i64 left, i64 right => left == right
  | f32 left, f32 right => left == right
  | f64 left, f64 right => left == right
  | bool left, bool right => left == right
  | unit, unit => true
  | ref left, ref right => left == right
  | func left, func right => left == right
  | tuple left, tuple right => sameItems left right
  | _, _ => false

/-- Whether two rows of values are equally long and equal item by item. -/
def sameItems : List Value → List Value → Bool
  | [], [] => true
  | left :: leftRest, right :: rightRest => same left right && sameItems leftRest rightRest
  | _, _ => false

end

mutual

/-- A value equals itself, whatever the bits of its floats. -/
theorem same_self : ∀ value : Value, value.same value = true
  | i32 _ | i64 _ | f32 _ | f64 _ | bool _ | unit | ref _ | func _ => by simp [same]
  | tuple items => by simp [same, sameItems_self items]

/-- A row of values equals itself. -/
theorem sameItems_self : ∀ items : List Value, sameItems items items = true
  | [] => by simp [sameItems]
  | item :: rest => by simp [sameItems, same_self item, sameItems_self rest]

end

mutual

/-- Values that compare equal are one value. -/
theorem eq_of_same : ∀ {left right : Value}, left.same right = true → left = right
  | i32 _, right, equal => by cases right <;> simp_all [same]
  | i64 _, right, equal => by cases right <;> simp_all [same]
  | f32 _, right, equal => by cases right <;> simp_all [same]
  | f64 _, right, equal => by cases right <;> simp_all [same]
  | bool _, right, equal => by cases right <;> simp_all [same]
  | unit, right, equal => by cases right <;> simp_all [same]
  | ref _, right, equal => by cases right <;> simp_all [same]
  | func _, right, equal => by cases right <;> simp_all [same]
  | tuple items, right, equal => by
    cases right with
    | tuple others =>
      have equalItems : sameItems items others = true := by simpa [same] using equal
      rw [eq_of_sameItems equalItems]
    | _ => simp [same] at equal

/-- Rows that compare equal are one row. -/
theorem eq_of_sameItems :
    ∀ {left right : List Value}, sameItems left right = true → left = right
  | [], right, equal => by cases right <;> simp_all [sameItems]
  | item :: rest, right, equal => by
    cases right with
    | nil => simp [sameItems] at equal
    | cons other others =>
      simp only [sameItems, Bool.and_eq_true] at equal
      rw [eq_of_same equal.1, eq_of_sameItems equal.2]

end

/-- Comparing decides equality. -/
theorem same_iff {left right : Value} : left.same right = true ↔ left = right :=
  ⟨eq_of_same, fun equal => equal ▸ same_self left⟩

instance : DecidableEq Value := fun left right =>
  if equal : left.same right then
    isTrue (eq_of_same equal)
  else
    isFalse fun identical => equal (same_iff.mpr identical)

end Value

end Erasure
