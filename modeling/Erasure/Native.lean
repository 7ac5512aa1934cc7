/-
This file defines the native types that specialized functions work on, and the way
between them and values. A parameter is a number, a truth value, or a value taken as it
is; a result may also be nothing. Unboxing a value at a primitive type succeeds exactly
on the values of its kind.
-/

import Erasure.Fault
import Erasure.Row
import Erasure.Value

namespace Erasure

/-- The types a parameter of a specialized function can have. -/
inductive NativeType
  | i32
  | i64
  | f32
  | f64
  | bool
  /-- Any value, which is neither unboxed nor boxed. -/
  | generic
  deriving DecidableEq, Repr

namespace NativeType

/-- The kind that a parameter of this type is declared with. -/
def kind : NativeType → Kind
  | i32 => .i32
  | i64 => .i64
  | f32 => .f32
  | f64 => .f64
  | bool => .bool
  | generic => .erased

/-- The things of a type. Floats are held by their bits. -/
def Carrier : NativeType → Type
  | i32 => Int32
  | i64 => Int64
  | f32 => UInt32
  | f64 => UInt64
  | bool => Bool
  | generic => Value

/-- The type of parameters declared with the given kind, unless that is void. -/
def ofKind? : Kind → Option NativeType
  | .i32 => some i32
  | .i64 => some i64
  | .f32 => some f32
  | .f64 => some f64
  | .bool => some bool
  | .erased => some generic
  | .void => none

/-- What a value of another kind is refused with. -/
def mismatch (type : NativeType) (value : Value) : KindMismatch :=
  ⟨type.kind, value.kind⟩

/-- Takes the native thing out of a value. -/
def unbox (type : NativeType) (value : Value) : Except KindMismatch type.Carrier :=
  match type, value with
  | .i32, .i32 number => .ok number
  | .i64, .i64 number => .ok number
  | .f32, .f32 bits => .ok bits
  | .f64, .f64 bits => .ok bits
  | .bool, .bool truth => .ok truth
  | .generic, value => .ok value
  | type, value => .error (type.mismatch value)

/-- Puts a native thing into a value. -/
def box : (type : NativeType) → type.Carrier → Value
  | .i32, number => .i32 number
  | .i64, number => .i64 number
  | .f32, bits => .f32 bits
  | .f64, bits => .f64 bits
  | .bool, truth => .bool truth
  | .generic, value => value

/-- A type is found by its kind. -/
@[simp]
theorem ofKind?_kind (type : NativeType) : ofKind? type.kind = some type := by
  cases type <;> rfl

/-- What was boxed is unboxed again. -/
@[simp]
theorem unbox_box (type : NativeType) (native : type.Carrier) :
    type.unbox (type.box native) = .ok native := by
  cases type <;> rfl

/-- What was unboxed is boxed again to the same value. -/
theorem box_of_unbox {type : NativeType} {value : Value} {native : type.Carrier}
    (unboxed : type.unbox value = .ok native) : type.box native = value := by
  cases type <;> cases value <;> cases unboxed <;> rfl

/-- Boxing at a primitive type gives a value of the kind of that type. -/
theorem kind_box {type : NativeType} (primitive : type.kind.isPrimitive = true)
    (native : type.Carrier) : (type.box native).kind = type.kind := by
  cases type with
  | generic => simp [kind, Kind.isPrimitive] at primitive
  | _ => rfl

end NativeType

/-! ### Results -/

/-- The types a result of a specialized function can have. -/
inductive ReturnType
  /-- The type of a parameter. -/
  | native (type : NativeType)
  | nothing
  deriving DecidableEq, Repr

namespace ReturnType

/-- The kind that a result of this type is declared with. -/
def kind : ReturnType → Kind
  | native type => type.kind
  | nothing => .void

/-- The things of a type; there is only one way to be nothing. -/
def Carrier : ReturnType → Type
  | native type => type.Carrier
  | nothing => Unit

/-- The type of results declared with the given kind. -/
def ofKind : Kind → ReturnType
  | .i32 => native .i32
  | .i64 => native .i64
  | .f32 => native .f32
  | .f64 => native .f64
  | .bool => native .bool
  | .erased => native .generic
  | .void => nothing

/-- Puts a native result into a value. -/
def box : (type : ReturnType) → type.Carrier → Value
  | native type, result => type.box result
  | nothing, _ => .unit

/-- Every kind is the kind of some result. -/
@[simp]
theorem kind_ofKind (kind : Kind) : (ofKind kind).kind = kind := by
  cases kind <;> rfl

end ReturnType

/-! ### Native arguments and functions -/

/-- The native arguments of a call, one for each parameter. -/
inductive NativeArguments : {length : Nat} → Row NativeType length → Type
  | nil : NativeArguments .nil
  | cons {length : Nat} {type : NativeType} {types : Row NativeType length}
    (first : type.Carrier) (rest : NativeArguments types) : NativeArguments (.cons type types)

namespace NativeArguments

/-- The arguments as values. -/
def boxed : {length : Nat} → {types : Row NativeType length} → NativeArguments types →
    Row Value length
  | _, _, nil => .nil
  | _, .cons type _, cons first rest => .cons (type.box first) rest.boxed

end NativeArguments

/-- The functions that take one native argument after the other. -/
def NativeFunction : {length : Nat} → Row NativeType length → Type → Type
  | _, .nil, result => result
  | _, .cons type types, result => type.Carrier → NativeFunction types result

namespace NativeFunction

/-- The result of a function on arguments that are given together. -/
def onArguments {result : Type} : {length : Nat} → {types : Row NativeType length} →
    NativeFunction types result → NativeArguments types → result
  | _, _, value, .nil => value
  | _, _, function, .cons first rest => onArguments (function first) rest

/-- The function that gathers its arguments. -/
def ofArguments {result : Type} : {length : Nat} → {types : Row NativeType length} →
    (NativeArguments types → result) → NativeFunction types result
  | _, .nil, gathered => gathered .nil
  | _, .cons _ _, gathered => fun first => ofArguments fun rest => gathered (.cons first rest)

/-- The function that does something to the result of another one. -/
def map {first second : Type} (change : first → second) : {length : Nat} →
    {types : Row NativeType length} → NativeFunction types first → NativeFunction types second
  | _, .nil, value => change value
  | _, .cons _ _, function => fun argument => map change (function argument)

/-- What is done to the result of a function is done to its result on any arguments. -/
@[simp]
theorem onArguments_map {first second : Type} (change : first → second) {length : Nat}
    {types : Row NativeType length} (function : NativeFunction types first)
    (arguments : NativeArguments types) :
    (map change function).onArguments arguments = change (function.onArguments arguments) := by
  induction arguments with
  | nil => rfl
  | cons first rest inductionHypothesis => exact inductionHypothesis (function first)

/-- A function that gathers its arguments is given them as they were. -/
@[simp]
theorem onArguments_ofArguments {result : Type} {length : Nat} {types : Row NativeType length}
    (gathered : NativeArguments types → result) (arguments : NativeArguments types) :
    (ofArguments gathered).onArguments arguments = gathered arguments := by
  induction arguments with
  | nil => rfl
  | cons first rest inductionHypothesis =>
    exact inductionHypothesis fun rest => gathered (.cons first rest)

end NativeFunction

end Erasure
