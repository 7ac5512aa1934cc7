/-
This file defines contracts, the functions that are called with values. One contract is
built from others by forwarding, by sequencing two of one parameter, and by the links of
currying and tupling. The number of parameters is part of the type.
-/

import Erasure.Contract.Leaf

namespace Erasure

/-- The ways a thing can be held that a call passes through. -/
inductive Pointer
  /-- Lent out. -/
  | borrowed
  /-- Held by one owner. -/
  | owned
  /-- Held by several owners together. -/
  | shared
  deriving DecidableEq, Repr

/-- A function of a number of parameters that is called with values. -/
inductive Contract : (arity : Nat) → Type
  /-- A function that is not built from others. -/
  | leaf {arity : Nat} (function : Leaf arity) : Contract arity
  /-- A function reached through a pointer. -/
  | forward {arity : Nat} (pointer : Pointer) (inner : Contract arity) : Contract arity
  /-- A function followed by another one, which takes what the first one returns. -/
  | sequence (first second : Contract 1) : Contract 1
  /-- A function that takes its arguments as one tuple. -/
  | tupled {arity : Nat} (inner : Contract arity) : Contract 1
  /-- A function that takes its first argument and returns the function of the others. -/
  | curried {arity : Nat} (inner : Contract (arity + 2)) : Contract 1
  /-- A function of which the first argument is fixed. -/
  | bound {arity : Nat} (inner : Contract (arity + 2)) (first : Value) : Contract (arity + 1)

namespace Contract

/-- The declared signature. Pointers declare what they point at, and a sequence takes what its
first part takes and returns what its second part returns. The links of currying and tupling
declare nothing. -/
def signature : {arity : Nat} → Contract arity → Signature
  | _, leaf function => function.signature
  | _, forward _ inner => inner.signature
  | _, sequence first second => ⟨first.signature.params, second.signature.result⟩
  | _, tupled _ => .erased 1
  | _, curried _ => .erased 1
  | arity + 1, bound _ _ => .erased (arity + 1)

/-- A contract of one parameter as a programmer sees it, which is by its signature alone. It is one
word, which is never broken. -/
def layoutOf (signature : Signature) : Layout :=
  .word ("Function1(" ++ signature.text ++ ")")

/-- A contract of one parameter as a programmer sees it. -/
def layout (contract : Contract 1) : Layout :=
  layoutOf contract.signature

end Contract

end Erasure
