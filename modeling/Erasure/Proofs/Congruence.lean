/-
This file says once how a call of a leaf is put together. A relation between computations
that goes through every piece of such a call, whatever it relates, goes through the call
as a whole: two rules for the functions that bodies call, if they are related, make
related calls of leaves. What is kept by all calls, or is the same in two worlds, can then
be shown piece by piece.
-/

import Erasure.Contract.Apply

namespace Erasure

namespace Computation

/-- A relation between computations that goes through what calls of leaves are put together from:
the steps of programs, the events that are noted, and doing one thing after the other. -/
structure Congruence (related : (α : Type) → Computation α → Computation α → Prop) : Prop where
  pure : ∀ {α : Type} (result : α), related α (pure result) (pure result)
  fail : ∀ {α : Type} (fault : Fault), related α (fail fault) (fail fault)
  bind : ∀ {α β : Type} {computation other : Computation α} {next otherNext : α → Computation β},
    related α computation other → (∀ result, related β (next result) (otherNext result)) →
      related β (computation >>= next) (other >>= otherNext)
  attempt : ∀ {α : Type} {computation other : Computation α},
    related α computation other → related (Except Fault α) computation.attempt other.attempt
  record : ∀ event, related Unit (record event) (record event)
  describe : ∀ value : Value,
    related String (ask fun world => world.text value) (ask fun world => world.text value)
  readCell : ∀ cell : Address,
    related Value (ask fun world => world.readCell cell) (ask fun world => world.readCell cell)
  writeCell : ∀ (cell : Address) (value : Value),
    related Unit (change fun world => world.writeCell cell value)
      (change fun world => world.writeCell cell value)

namespace Congruence

variable {related : (α : Type) → Computation α → Computation α → Prop}

/-- Unboxing notes at most one event and gives a result, whatever the value is. -/
theorem tryUnboxing (congruence : Congruence related) (type : NativeType) (value : Value) :
    related _ (type.tryUnboxing value) (type.tryUnboxing value) := by
  unfold NativeType.tryUnboxing
  split
  · split
    · exact congruence.bind (congruence.record _) fun _ => congruence.pure _
    · exact congruence.pure _
  · exact congruence.bind (congruence.record _) fun _ => congruence.pure _

theorem unboxing (congruence : Congruence related) (type : NativeType) (value : Value) :
    related _ (type.unboxing value) (type.unboxing value) := by
  refine congruence.bind (congruence.tryUnboxing type value) fun answer => ?_
  cases answer with
  | ok native => exact congruence.pure native
  | error mismatch => exact congruence.fail _

/-- Arguments are unboxed from left to right, and the first one that cannot be ends it. -/
theorem unboxingAll (congruence : Congruence related) {arity : Nat} (types : Row NativeType arity)
    (values : Row Value arity) :
    related _ (unboxingAll types values) (Erasure.unboxingAll types values) := by
  induction types with
  | nil =>
    cases values
    exact congruence.pure _
  | cons type types inductionHypothesis =>
    obtain _ | ⟨value, values⟩ := values
    exact congruence.bind (congruence.unboxing type value) fun _ =>
      congruence.bind (inductionHypothesis values) fun _ => congruence.pure _

theorem boxing (congruence : Congruence related) (type : ReturnType) (native : type.Carrier) :
    related _ (type.boxing native) (type.boxing native) := by
  unfold ReturnType.boxing
  split
  · exact congruence.bind (congruence.record _) fun _ => congruence.pure _
  · exact congruence.pure _

section Calls

variable {call other : CallRule}

/-- Runs of a program are related if the calls that it makes are. -/
theorem run (congruence : Congruence related)
    (calls : ∀ function argument, related _ (call function argument) (other function argument))
    {α : Type} (program : Program α) : related _ (program.run call) (program.run other) := by
  induction program with
  | done result => exact congruence.pure result
  | call function argument next inductionHypothesis =>
    exact congruence.bind (congruence.attempt (calls function argument)) inductionHypothesis
  | unbox type value next inductionHypothesis =>
    exact congruence.bind (congruence.tryUnboxing type value) inductionHypothesis
  | describe value next inductionHypothesis =>
    exact congruence.bind (congruence.describe value) inductionHypothesis
  | readCell cell next inductionHypothesis =>
    exact congruence.bind (congruence.readCell cell) inductionHypothesis
  | writeCell cell value next inductionHypothesis =>
    exact congruence.bind (congruence.writeCell cell value) fun _ => inductionHypothesis

/-- A call on natives is the note that a body begins and the run of this body. -/
theorem callNative (congruence : Congruence related)
    (calls : ∀ function argument, related _ (call function argument) (other function argument))
    {arity : Nat} (function : Specialized arity) (natives : NativeArguments function.params) :
    related _ (function.callNative call natives) (function.callNative other natives) := by
  rw [Specialized.callNative, Specialized.callNative, Specialized.inner, Specialized.inner,
    NativeFunction.onArguments_map, NativeFunction.onArguments_map]
  exact congruence.bind (congruence.record _) fun _ => congruence.run calls _

theorem carryOver (congruence : Congruence related) {arity : Nat} (function : Specialized arity)
    (answer : Except Failure function.result.Carrier) :
    related _ (function.carryOver answer) (function.carryOver answer) := by
  cases answer with
  | ok native => exact congruence.boxing function.result native
  | error failure => exact congruence.fail _

/-- A specialized function unboxes its arguments, calls its body and boxes what it gives. -/
theorem specialized (congruence : Congruence related)
    (calls : ∀ function argument, related _ (call function argument) (other function argument))
    {arity : Nat} (function : Specialized arity) (arguments : Row Value arity) :
    related _ (function.apply call arguments) (function.apply other arguments) :=
  congruence.bind (congruence.unboxingAll function.params arguments) fun natives =>
    congruence.bind (congruence.callNative calls function natives) (congruence.carryOver function)

/-- A handwritten function notes that its body begins and runs it on the arguments as they are. -/
theorem handwritten (congruence : Congruence related)
    (calls : ∀ function argument, related _ (call function argument) (other function argument))
    {arity : Nat} (function : Handwritten arity) (arguments : Row Value arity) :
    related _ (function.apply call arguments) (function.apply other arguments) := by
  refine congruence.bind (congruence.record _) fun _ =>
    congruence.bind (congruence.run calls _) fun answer => ?_
  cases answer with
  | ok value => exact congruence.pure value
  | error fault => exact congruence.fail fault

/-- Calls of a leaf are related if those are that its body makes. -/
theorem leaf (congruence : Congruence related)
    (calls : ∀ function argument, related _ (call function argument) (other function argument))
    {arity : Nat} (function : Leaf arity) (arguments : Row Value arity) :
    related _ (function.apply call arguments) (function.apply other arguments) := by
  cases function with
  | specialized function => exact congruence.specialized calls function arguments
  | handwritten function => exact congruence.handwritten calls function arguments

end Calls

end Congruence

end Computation

end Erasure
