/-
This file defines the functions that contracts are built from. A specialized function
has a body on native things and its signature is read off their types. A handwritten
one works on values directly and declares a signature of its own choice. Both take one
to twenty-two parameters. A signature is a fixed part of its function: that a function
declares the same whenever it is asked is taken for granted throughout.
-/

import Erasure.Program
import Erasure.Signature.Layout

namespace Erasure

/-- The body of a specialized function. A plain body always has a result; a fallible one may
fail instead. -/
inductive Body {arity : Nat} (params : Row NativeType arity) (result : ReturnType)
  /-- A body that has a result. -/
  | plain (closure : NativeFunction params (Program result.Carrier))
  /-- A body that may fail. -/
  | fallible (closure : NativeFunction params (Program (Except Failure result.Carrier)))

/-- A body as one function, which tells results and failures apart. -/
def Body.closure {arity : Nat} {params : Row NativeType arity} {result : ReturnType} :
    Body params result → NativeFunction params (Program (Except Failure result.Carrier))
  | plain closure => closure.map fun program => program.bind fun native => .done (.ok native)
  | fallible closure => closure

/-- A function with a body on native things. -/
structure Specialized (arity : Nat) where
  /-- There is a contract for this number of parameters. -/
  arity_pos : 1 ≤ arity
  arity_le : arity ≤ widestArity
  params : Row NativeType arity
  result : ReturnType
  /-- The name under which runs of the body are recorded. -/
  label : String
  body : Body params result

namespace Specialized

/-- The signature, which is that of the native types. -/
def signature {arity : Nat} (function : Specialized arity) : Signature :=
  ⟨function.params.toList.map NativeType.kind, function.result.kind⟩

/-- A specialized function as a programmer sees it, which is by its signature alone. -/
def layoutOf (signature : Signature) : Layout :=
  .record "Specialized" [("ty", signature.layout)]

/-- A specialized function as a programmer sees it. -/
def layout {arity : Nat} (function : Specialized arity) : Layout :=
  layoutOf function.signature

end Specialized

/-- A function written on values. -/
structure Handwritten (arity : Nat) where
  /-- There is a contract for this number of parameters. -/
  arity_pos : 1 ≤ arity
  arity_le : arity ≤ widestArity
  /-- The declared signature, which nothing holds the function to. -/
  signature : Signature
  /-- The name under which runs of the body are recorded. -/
  label : String
  body : Row Value arity → Program (Except Fault Value)

/-- A function that contracts are built from. -/
inductive Leaf (arity : Nat)
  | specialized (function : Specialized arity)
  | handwritten (function : Handwritten arity)

namespace Leaf

variable {arity : Nat}

/-- The declared signature. -/
def signature : Leaf arity → Signature
  | specialized function => function.signature
  | handwritten function => function.signature

/-- The name under which runs of the body are recorded. -/
def label : Leaf arity → String
  | specialized function => function.label
  | handwritten function => function.label

/-- There is a contract for the number of parameters of a leaf. -/
theorem arity_pos : Leaf arity → 1 ≤ arity
  | specialized function => function.arity_pos
  | handwritten function => function.arity_pos

/-- There is a contract for the number of parameters of a leaf. -/
theorem arity_le : Leaf arity → arity ≤ widestArity
  | specialized function => function.arity_le
  | handwritten function => function.arity_le

end Leaf

end Erasure
