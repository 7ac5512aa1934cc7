/-
This file defines the bridge over which a specialized function is called with values.
The arguments are unboxed from left to right, the body runs on the native things, and
its result is boxed. The first argument that is of the wrong kind ends the call before
the body runs. Beside the bridge lie the direct paths to the body, on which nothing is
unboxed and nothing boxed. What the functions do that a body calls is left open here.
-/

import Erasure.Computation

namespace Erasure

/-! ### Conversions -/

/-- Unboxes a value. Only at a primitive type is anything converted and noted. -/
def NativeType.tryUnboxing (type : NativeType) (value : Value) :
    Computation (Except KindMismatch type.Carrier) :=
  match type.unbox value with
  | .ok native =>
    if type.kind.isPrimitive then do
      Computation.record (.unboxed type.kind)
      return .ok native
    else
      return .ok native
  | .error mismatch => do
    Computation.record (.unboxingFailed mismatch)
    return .error mismatch

/-- Unboxes a value and fails if it is of another kind. -/
def NativeType.unboxing (type : NativeType) (value : Value) : Computation type.Carrier := do
  match ← type.tryUnboxing value with
  | .ok native => return native
  | .error mismatch => Computation.fail (.kindMismatch mismatch)

/-- Boxes a result. Only at a primitive type is anything converted and noted. -/
def ReturnType.boxing (type : ReturnType) (native : type.Carrier) : Computation Value :=
  if type.kind.isPrimitive then do
    Computation.record (.boxed type.kind)
    return type.box native
  else
    return type.box native

/-- Unboxes the arguments of a call from left to right. -/
def unboxingAll : {arity : Nat} → (types : Row NativeType arity) → Row Value arity →
    Computation (NativeArguments types)
  | _, .nil, .nil => return .nil
  | _, .cons type types, .cons value values => do
    let first ← type.unboxing value
    let rest ← unboxingAll types values
    return .cons first rest

/-! ### Running programs -/

/-- How a function that a body calls answers. -/
abbrev CallRule := Address → Value → Computation Value

/-- Runs a program. What a called function answers is handed to the program, be it a result or
a fault. -/
def Program.run {α : Type} (call : CallRule) : Program α → Computation α
  | .done result => return result
  | .call function argument next => do
    let answer ← (call function argument).attempt
    (next answer).run call
  | .unbox type value next => do
    let answer ← type.tryUnboxing value
    (next answer).run call
  | .describe value next => do
    let text ← Computation.ask fun world => world.text value
    (next text).run call
  | .readCell cell next => do
    let value ← Computation.ask fun world => world.readCell cell
    (next value).run call
  | .writeCell cell value next => do
    Computation.change fun world => world.writeCell cell value
    next.run call

/-! ### Specialized functions -/

namespace Specialized

variable {arity : Nat}

/-- The body as it is given back when the function is taken apart: called with one native
argument after the other, it runs. -/
def inner (call : CallRule) (function : Specialized arity) :
    NativeFunction function.params (Computation (Except Failure function.result.Carrier)) :=
  function.body.closure.map fun program => do
    Computation.record (.began function.label)
    program.run call

/-- Calls the body directly with one native argument after the other. -/
def applyNative (call : CallRule) (function : Specialized arity) :
    NativeFunction function.params (Computation (Except Failure function.result.Carrier)) :=
  function.inner call

/-- Calls the body directly with its native arguments together. -/
def callNative (call : CallRule) (function : Specialized arity)
    (arguments : NativeArguments function.params) :
    Computation (Except Failure function.result.Carrier) :=
  (function.inner call).onArguments arguments

/-- Carries what a body answers over to the side of values: a result is boxed, and a failure
becomes a fault of the call. -/
def carryOver (function : Specialized arity) :
    Except Failure function.result.Carrier → Computation Value
  | .ok native => function.result.boxing native
  | .error failure => Computation.fail (.user failure)

/-- Calls a specialized function with values. -/
def apply (call : CallRule) (function : Specialized arity) (arguments : Row Value arity) :
    Computation Value := do
  let natives ← unboxingAll function.params arguments
  function.carryOver (← function.callNative call natives)

end Specialized

/-! ### Leaves -/

/-- Calls a handwritten function. Its answer is that of its body. -/
def Handwritten.apply {arity : Nat} (call : CallRule) (function : Handwritten arity)
    (arguments : Row Value arity) : Computation Value := do
  Computation.record (.began function.label)
  match ← (function.body arguments).run call with
  | .ok value => return value
  | .error fault => Computation.fail fault

/-- Calls a function that is not built from others. -/
def Leaf.apply {arity : Nat} (call : CallRule) :
    Leaf arity → Row Value arity → Computation Value
  | .specialized function, arguments => function.apply call arguments
  | .handwritten function, arguments => function.apply call arguments

end Erasure
