/-
This file holds the bounds on the number of parameters of a function. Contracts are
declared one by one, for one to twenty-two parameters, and signatures are checked against
a bound of their own, which has to be the same. Currying and tupling are offered up to a
smaller bound, of which there are two: the standard one and a raised one that still
leaves the widest contract out.
-/

namespace Erasure

/-- The number of parameters of the widest contract that is declared. -/
def widestArity : Nat := 22

/-- Contracts of one parameter are among those that are declared. -/
theorem one_le_widestArity : 1 ≤ widestArity := by
  decide

/-- The largest number of parameters that the check of a signature lets through. -/
def maxArity : Nat := 22

/-- Signatures are checked against the contracts that there are. -/
theorem maxArity_eq_widestArity : maxArity = widestArity :=
  rfl

/-- Which bound on currying and tupling is in force. -/
inductive CurryBound
  /-- Functions of up to eight parameters. -/
  | standard
  /-- Functions of up to twenty-one parameters. -/
  | raised
  deriving DecidableEq, Repr

namespace CurryBound

/-- The largest number of parameters that can be curried or tupled under this bound. -/
def limit : CurryBound → Nat
  | standard => 8
  | raised => 21

/-- Whether a function of this many parameters can be curried and tupled. -/
def supports (bound : CurryBound) (arity : Nat) : Bool :=
  1 ≤ arity && arity ≤ bound.limit

/-- An arity is supported exactly from one parameter up to the bound. -/
theorem supports_iff {bound : CurryBound} {arity : Nat} :
    bound.supports arity = true ↔ 1 ≤ arity ∧ arity ≤ bound.limit := by
  simp [supports]

/-- A supported arity is not zero. -/
theorem exists_succ_of_supports {bound : CurryBound} {arity : Nat}
    (supported : bound.supports arity = true) : ∃ fewer, arity = fewer + 1 :=
  ⟨arity - 1, by have := supports_iff.mp supported; omega⟩

/-- With an arity every smaller one that is not zero is supported. -/
theorem supports_of_le {bound : CurryBound} {fewer more : Nat} (positive : 1 ≤ fewer)
    (ordered : fewer ≤ more) (supported : bound.supports more = true) :
    bound.supports fewer = true := by
  rw [supports_iff] at supported ⊢
  omega

end CurryBound

end Erasure
