/-
This file defines scripts. A script is a list of steps that bind names to contracts,
values and faults and ask about them; every step has an answer. The steps and answers
here are what is asked and answered, not how either is written down.
-/

import Erasure.Catalog.Recipe
import Erasure.Log
import Erasure.Script.Shown

namespace Erasure

/-! ### Questions -/

mutual

/-- A value as a script writes it. -/
inductive Literal
  | i32 (number : Int32)
  | i64 (number : Int64)
  | f32 (bits : UInt32)
  | f64 (bits : UInt64)
  | bool (truth : Bool)
  | unit
  | tuple (items : List Literal)
  /-- A reference, which is a new object wherever it is written. -/
  | ref (payload : LiteralPayload)
  /-- A tuple that holds one value so many times. -/
  | repeated (count : Nat) (item : Literal)
  /-- A value inside so many tuples of one item. -/
  | nested (depth : Nat) (item : Literal)
  /-- The value of a name. -/
  | variable (name : String)

/-- What a new reference refers to. -/
inductive LiteralPayload
  | text (text : String)
  | i32 (number : Int32)
  | unit
  | value (value : Literal)

end

/-- The direct paths to the body of a specialized function. -/
inductive DirectPath
  /-- With one native argument after the other. -/
  | positional
  /-- With the native arguments together. -/
  | together
  /-- Through the body that is given back when the function is taken apart. -/
  | inner
  deriving DecidableEq, Repr

/-- The names that what a call gives is bound to. -/
structure Targets where
  result : Option String := none
  fault : Option String := none

/-- One step of a script. -/
inductive Step
  | letValue (name : String) (value : Literal)
  | describe (value : Literal)
  /-- Asks for the parts of a value. -/
  | access (value : Literal)
  | compare (left right : Literal)
  /-- Unboxes a value and boxes it again. -/
  | unbox (type : NativeType) (value : Literal)
  /-- Makes a function of the catalogue and binds it. -/
  | makeFunction (name : String) (recipe : Recipe)
  /-- Puts a function behind a pointer and binds that. -/
  | wrap (name : String) (function : String) (pointer : Pointer)
  | signature (function : String)
  | apply (function : String) (arguments : List Literal) (targets : Targets)
  /-- Unboxes the arguments and calls a specialized function directly. -/
  | direct (function : String) (path : DirectPath) (arguments : List Literal) (targets : Targets)
  /-- Calls a function with the first value, what it returns with the next, and so on. -/
  | chain (function : String) (arguments : List Literal) (targets : Targets)
  | curried (function : String) (targets : Targets)
  | tupled (function : String) (targets : Targets)
  | andThen (name : String) (first second : String)
  | compose (name : String) (after before : String)
  | makeFault (name : String) (fault : Fault)
  | downcast (fault : String) (type : FailureType)

/-! ### Answers -/

/-- What the accessors of a value give, and, for a reference, of which payload types it is. -/
structure Parts where
  kind : Kind
  isUnit : Bool
  i32 : Option Int32
  i64 : Option Int64
  f32 : Option UInt32
  f64 : Option UInt64
  bool : Option Bool
  /-- The value itself if it is a reference. -/
  ref : Option Shown
  /-- The value itself if it is a function. -/
  func : Option Shown
  items : Option (List Shown)
  /-- What a reference refers to. -/
  payload : Option Payload

/-- What is told about a contract that was made. -/
structure ContractReport where
  arity : Nat
  signature : Signature
  /-- The number of the object, if the contract is one. -/
  object : Option Nat
  /-- The signature of the specialized function that the contract is known to be. -/
  specialized : Option Signature

/-- A contract of one parameter as a programmer sees it. -/
def ContractReport.layout (report : ContractReport) : Layout :=
  Contract.layoutOf report.signature

/-- What came of a call. -/
inductive CallReport
  | returned (value : Shown)
  | failed (fault : Fault)

/-- Something with the bodies that began to run and the records that were logged for it. -/
structure Observed (α : Type) where
  content : α
  /-- The labels of the bodies, in order. -/
  ran : List String
  /-- The records, in order. -/
  log : List LogRecord

/-- The answer to a step. -/
inductive Answer
  | value (value : Shown)
  | description (kind : Kind) (text : String) (layout : Layout)
  | parts (parts : Parts)
  /-- Whether two values are equal, and, of two references, whether they are one object. -/
  | comparison (equal : Bool) (sameReference : Option Bool)
  /-- A value was unboxed at a type of this kind and boxed again. -/
  | conversion (kind : Kind) (value : Shown)
  | contract (report : ContractReport)
  | signature (signature : Signature)
  | call (report : CallReport)
  | calls (reports : List (Observed CallReport))
  | refusal (refusal : Unsupported)
  | fault (fault : Fault)
  /-- Whether a fault carries a failure of the type asked for, and the failure that was taken out
  or the fault that was given back. -/
  | downcast (carried : Bool) (outcome : Except Fault Failure)

end Erasure
