/-
This file says what it means that the values of a call fit the declared kinds, and which
of them is found fault with if they do not. Only the kinds of the values matter. An
erased position takes every value and any other position only values of its own kind;
the leftmost position that does not take its value is the one a call fails at.
-/

import Erasure.Fault

namespace Erasure

/-- Whether a position declared with one kind takes values of another. -/
def Kind.Takes (declared actual : Kind) : Prop :=
  declared = .erased ∨ actual = declared

instance (declared actual : Kind) : Decidable (declared.Takes actual) :=
  inferInstanceAs (Decidable (_ ∨ _))

/-- Every position takes the value that is given for it. -/
def Kind.TakeAll (declared actual : List Kind) : Prop :=
  ∀ (position : Nat) (expected found : Kind), declared[position]? = some expected →
    actual[position]? = some found → expected.Takes found

/-- The leftmost position that does not take its value, with the declared and the actual kind. -/
structure FirstMismatch (declared actual : List Kind) (position : Nat)
    (mismatch : KindMismatch) : Prop where
  /-- The position is declared with the kind that was expected. -/
  expected : declared[position]? = some mismatch.expected
  /-- The value given for the position is of the kind that was found. -/
  found : actual[position]? = some mismatch.found
  /-- The position does not take the value. -/
  refused : ¬ mismatch.expected.Takes mismatch.found
  /-- The positions further to the left take theirs. -/
  earlier : Kind.TakeAll (declared.take position) (actual.take position)

theorem Kind.takeAll_nil (actual : List Kind) : Kind.TakeAll [] actual := by
  intro position expected found missing
  simp at missing

/-- All positions take their values if the first one does and the others do. -/
theorem Kind.takeAll_cons_iff {expected found : Kind} {declared actual : List Kind} :
    Kind.TakeAll (expected :: declared) (found :: actual) ↔
      expected.Takes found ∧ Kind.TakeAll declared actual := by
  constructor
  · intro taken
    exact ⟨taken 0 expected found rfl rfl, fun position => taken (position + 1)⟩
  · rintro ⟨first, others⟩ (_ | position) otherExpected otherFound declaredThere givenThere
    · cases declaredThere
      cases givenThere
      exact first
    · exact others position otherExpected otherFound declaredThere givenThere

namespace FirstMismatch

variable {expected found : Kind} {declared actual : List Kind} {position : Nat}
  {mismatch : KindMismatch}

/-- The first position is the leftmost one if it does not take its value. -/
theorem head (refused : ¬ expected.Takes found) :
    FirstMismatch (expected :: declared) (found :: actual) 0 ⟨expected, found⟩ :=
  ⟨rfl, rfl, refused, Kind.takeAll_nil _⟩

/-- A first position that takes its value is passed over. -/
theorem tail (taken : expected.Takes found)
    (first : FirstMismatch declared actual position mismatch) :
    FirstMismatch (expected :: declared) (found :: actual) (position + 1) mismatch :=
  ⟨first.expected, first.found, first.refused, Kind.takeAll_cons_iff.mpr ⟨taken, first.earlier⟩⟩

/-- The leftmost refusal is either at the first position or behind it. -/
theorem cases_cons
    (first : FirstMismatch (expected :: declared) (found :: actual) position mismatch) :
    (position = 0 ∧ mismatch = ⟨expected, found⟩ ∧ ¬ expected.Takes found) ∨
      ∃ before, position = before + 1 ∧ expected.Takes found ∧
        FirstMismatch declared actual before mismatch := by
  obtain ⟨declaredThere, givenThere, refused, earlier⟩ := first
  cases position with
  | zero =>
    obtain ⟨otherExpected, otherFound⟩ := mismatch
    cases declaredThere
    cases givenThere
    exact Or.inl ⟨rfl, rfl, refused⟩
  | succ before =>
    obtain ⟨taken, others⟩ := Kind.takeAll_cons_iff.mp earlier
    exact Or.inr ⟨before, rfl, taken, declaredThere, givenThere, refused, others⟩

/-- If not all positions take their values, one of those that do not is the leftmost. -/
theorem exists_of_not_takeAll (refused : ¬ Kind.TakeAll declared actual) :
    ∃ position mismatch, FirstMismatch declared actual position mismatch := by
  induction declared generalizing actual with
  | nil => exact absurd (Kind.takeAll_nil actual) refused
  | cons expected declared inductionHypothesis =>
    cases actual with
    | nil =>
      refine absurd ?_ refused
      intro position expected found declaredThere givenThere
      simp at givenThere
    | cons found actual =>
      by_cases taken : expected.Takes found
      · have others : ¬ Kind.TakeAll declared actual := fun others =>
          refused (Kind.takeAll_cons_iff.mpr ⟨taken, others⟩)
        obtain ⟨position, mismatch, first⟩ := inductionHypothesis others
        exact ⟨position + 1, mismatch, first.tail taken⟩
      · exact ⟨0, ⟨expected, found⟩, head taken⟩

end FirstMismatch

end Erasure
