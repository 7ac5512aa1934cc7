/-
This file defines what can be made of contracts: curried and tupled forms, sequences and
contracts behind a pointer. A contract of one parameter is an object and is known by its
address; a wider one has no identity. Currying and tupling are refused above a bound. A
function of one parameter is its own curried form, and can always be tupled.
-/

import Erasure.Computation

namespace Erasure

/-- How a contract is held: one of a single parameter as an object, a wider one as it is. -/
inductive Handle : (arity : Nat) → Type
  /-- A contract of one parameter, by its address. -/
  | object (address : Address) : Handle 1
  /-- A contract of several parameters. -/
  | wide {arity : Nat} (contract : Contract (arity + 2)) : Handle (arity + 2)

/-- Refuses a transform. -/
def refuse {α : Type} (operation : String) (arity : Nat) : Computation α := do
  Computation.record (.refused ⟨operation, arity⟩)
  Computation.fail (.unsupported ⟨operation, arity⟩)

namespace Handle

/-- Takes hold of a new contract. One of a single parameter becomes a new object. -/
def share : {arity : Nat} → Contract (arity + 1) → Computation (Handle (arity + 1))
  | 0, contract => return object (← Computation.allocate contract)
  | _ + 1, contract => return wide contract

/-- The contract that is held. -/
def contract : {arity : Nat} → Handle arity → Computation (Contract arity)
  | _, object address => Computation.lookup address
  | _, wide contract => return contract

/-- The function that takes the first argument and returns the function of the others. -/
def curried (bound : CurryBound) : {arity : Nat} → Handle arity → Computation Address
  | _, object address => return address
  | arity + 2, wide contract =>
    if bound.supports (arity + 2) then
      Computation.allocate (.curried contract)
    else
      refuse "curried" (arity + 2)

/-- The function that takes all arguments as one tuple. -/
def tupled (bound : CurryBound) : {arity : Nat} → Handle arity → Computation Address
  | _, object address => do
    Computation.allocate (.tupled (← Computation.lookup address))
  | arity + 2, wide contract =>
    if bound.supports (arity + 2) then
      Computation.allocate (.tupled contract)
    else
      refuse "tupled" (arity + 2)

/-- The same function behind a pointer. Of a single parameter it is a new object. -/
def forward (pointer : Pointer) : {arity : Nat} → Handle arity → Computation (Handle arity)
  | _, object address => do
    let inner ← Computation.lookup address
    return object (← Computation.allocate (.forward pointer inner))
  | _, wide contract => return wide (.forward pointer contract)

end Handle

/-- The function that applies `first` and then `second` to what it returns. -/
def andThen (first second : Address) : Computation Address := do
  let firstPart ← Computation.lookup first
  let secondPart ← Computation.lookup second
  Computation.allocate (.sequence firstPart secondPart)

/-- The function that applies `before` and then `after` to what it returns. -/
def compose (after before : Address) : Computation Address :=
  andThen before after

end Erasure
