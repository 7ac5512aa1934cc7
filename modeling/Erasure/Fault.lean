/-
This file defines the faults of a call. A call fails if a value has the wrong kind, if
a transform is not offered for a function, if a tupled function is not given a fitting
tuple, or if the called body itself fails. The failure of a body is kept as it is and
can be taken out again by asking for its type. As a body may call other functions and
fail with their fault, faults nest to any depth.
-/

import Erasure.Kind
import Erasure.Layout

namespace Erasure

/-- A value did not have the kind a position was declared with. -/
structure KindMismatch where
  /-- The declared kind. -/
  expected : Kind
  /-- The kind of the value that was supplied. -/
  found : Kind
  deriving DecidableEq, Repr

/-- A transform is not offered for functions of an arity. -/
structure Unsupported where
  operation : String
  arity : Nat
  deriving DecidableEq, Repr

/-- A failure of a type from elsewhere. Nothing is known about it but what it says about itself. -/
structure ForeignFailure where
  /-- The name of its type. -/
  type : String
  /-- What is reported about it. -/
  message : String
  /-- The messages of the causes behind it, the nearest first. -/
  causes : List String
  /-- What a programmer sees of it. -/
  layout : Layout

mutual

/-- Why a call failed. -/
inductive Fault
  /-- A value had the wrong kind for its position. -/
  | kindMismatch (mismatch : KindMismatch)
  /-- A transform was refused. -/
  | unsupported (refusal : Unsupported)
  /-- A tupled function was given a tuple of another length, or, if no length was found, something
  that is not a tuple. -/
  | tupleMismatch (expected : Nat) (found : Option Nat)
  /-- The called body failed. -/
  | user (failure : Failure)

/-- What a body fails with. -/
inductive Failure
  | divideByZero (dividend : Int32)
  | overflow
  | boom (code : Int64)
  | text (text : String)
  /-- A failure caused by a division by zero. -/
  | chained (dividend : Int32)
  /-- A value of the wrong kind, raised by the body itself. -/
  | kindMismatch (mismatch : KindMismatch)
  /-- The fault of a call that the body made. -/
  | call (fault : Fault)
  /-- A failure of a type from elsewhere. -/
  | foreign (failure : ForeignFailure)

end

/-! ### Types of failures -/

/-- The types that failures are told apart by. -/
inductive FailureType
  | divideByZero
  | overflow
  | boom
  | text
  | chained
  | kindMismatch
  | call
  /-- A type from elsewhere, by its name. -/
  | foreign (name : String)
  deriving DecidableEq, Repr

namespace FailureType

/-- The types that are not from elsewhere, in a fixed order. -/
def all : List FailureType :=
  [divideByZero, overflow, boom, text, chained, kindMismatch, call]

/-- The name of a type. -/
def name : FailureType → String
  | divideByZero => "DivideByZero"
  | overflow => "Overflow"
  | boom => "Boom"
  | text => "TextError"
  | chained => "Chained"
  | kindMismatch => "KindMismatch"
  | call => "CallError"
  | foreign name => name

/-- The type of the given name, if one that is not from elsewhere has it. -/
def ofName? (text : String) : Option FailureType :=
  all.find? fun type => type.name == text

end FailureType

namespace Failure

/-- The type of a failure. -/
def type : Failure → FailureType
  | divideByZero _ => .divideByZero
  | overflow => .overflow
  | boom _ => .boom
  | text _ => .text
  | chained _ => .chained
  | kindMismatch _ => .kindMismatch
  | call _ => .call
  | foreign failure => .foreign failure.type

end Failure

namespace Fault

/-- The failure of the given type that a fault carries. Only a fault of the called body itself
carries one. -/
def failure? (type : FailureType) : Fault → Option Failure
  | user failure => if failure.type = type then some failure else none
  | _ => none

/-- Whether a fault carries a failure of the given type. -/
def carries (type : FailureType) : Fault → Bool
  | user failure => failure.type == type
  | _ => false

/-- Takes the failure of the given type out of a fault; if there is none, the fault is given
back. -/
def downcast (type : FailureType) : Fault → Except Fault Failure
  | user failure => if failure.type = type then .ok failure else .error (user failure)
  | kindMismatch mismatch => .error (kindMismatch mismatch)
  | unsupported refusal => .error (unsupported refusal)
  | tupleMismatch expected found => .error (tupleMismatch expected found)

end Fault

end Erasure
