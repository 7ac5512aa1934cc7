/-
This file defines what it means to call a contract. What the leaves of a contract answer
is a parameter, so that the combinations can be spoken about without them: a pointer
passes its call on, a sequence stops at its first fault, the links of currying gather
arguments and call only when they have the last one, and a tupled function calls only if
it is given a tuple of the right length. At the end of the file the functions that bodies
call are tied to the objects of the world, up to a depth of nested calls.
-/

import Erasure.Contract.Bridge
import Erasure.Contract.Transform

namespace Erasure

/-- How the leaves of contracts answer. -/
abbrev LeafRule := (arity : Nat) → Leaf arity → Row Value arity → Computation Value

/-- The arguments that a tuple holds. What is no tuple is refused in one of two ways, as a tuple
could not have been told from it by its kind, or could. -/
def argumentsOfTuple (arity : Nat) : Value → Except Fault (Row Value arity)
  | .tuple items =>
    match Row.ofList? arity items with
    | some arguments => .ok arguments
    | none => .error (.tupleMismatch arity (some items.length))
  | other =>
    if other.kind.isErased then
      .error (.tupleMismatch arity none)
    else
      .error (.kindMismatch ⟨.erased, other.kind⟩)

namespace Contract

/-- Calls a contract whose leaves answer by the given rule. -/
def applyWith (bound : CurryBound) (rule : LeafRule) : {arity : Nat} → Contract arity →
    Row Value arity → Computation Value
  | arity, leaf function, arguments => rule arity function arguments
  | _, forward _ inner, arguments => inner.applyWith bound rule arguments
  | _, sequence first second, arguments => do
    let between ← first.applyWith bound rule arguments
    second.applyWith bound rule (.single between)
  | _, @tupled arity inner, .cons value .nil =>
    match argumentsOfTuple arity value with
    | .ok arguments => inner.applyWith bound rule arguments
    | .error fault => Computation.fail fault
  | _, curried inner, .cons value .nil => do
    let rest ← Handle.share (Contract.bound inner value)
    return .func (← rest.curried bound)
  | _, Contract.bound inner first, rest => inner.applyWith bound rule (.cons first rest)

/-- Calls a contract. -/
def apply (bound : CurryBound) (call : CallRule) {arity : Nat} (contract : Contract arity)
    (arguments : Row Value arity) : Computation Value :=
  contract.applyWith bound (fun _ function arguments => function.apply call arguments) arguments

end Contract

/-- Calls the function at an address. Bodies may call each other up to the given depth; a deeper
call gives no answer. -/
def invoke (bound : CurryBound) : (depth : Nat) → CallRule
  | 0, _, _ => Computation.unanswered
  | depth + 1, function, argument => do
    let contract ← Computation.lookup function
    contract.apply bound (invoke bound depth) (.single argument)

/-- Calls a contract that is held. -/
def Handle.apply (bound : CurryBound) (depth : Nat) {arity : Nat} (handle : Handle arity)
    (arguments : Row Value arity) : Computation Value := do
  let contract ← handle.contract
  contract.apply bound (invoke bound depth) arguments

end Erasure
