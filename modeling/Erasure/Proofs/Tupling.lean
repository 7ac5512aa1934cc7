/-
This file proves that a function that was tupled several times takes values of exactly
one shape: as many nested tuples of one item as it was tupled again, around a tuple of
all the arguments. On such a value it is the function that was tupled. Any other value
is refused at the outermost tuple that is missing or of the wrong length, and the
function is not called.
-/

import Erasure.Catalog.Recipe
import Erasure.Proofs.Objects
import Erasure.Script.Session

namespace Erasure

/-! ### Tuples of arguments -/

/-- What a value that is no tuple of the expected length is refused with where one is needed. -/
inductive Misshapen (expected : Nat) : Value → Fault → Prop
  /-- A tuple of another length is reported with its length. -/
  | length {items : List Value} (different : items.length ≠ expected) :
    Misshapen expected (.tuple items) (.tupleMismatch expected (some items.length))
  /-- A reference cannot be told from a tuple by its kind. -/
  | reference (address : Address) :
    Misshapen expected (.ref address) (.tupleMismatch expected none)
  /-- Neither can a function. -/
  | function (address : Address) :
    Misshapen expected (.func address) (.tupleMismatch expected none)
  /-- Anything else is reported with its kind. -/
  | kind {value : Value} (distinct : value.kind ≠ .erased) :
    Misshapen expected value (.kindMismatch ⟨.erased, value.kind⟩)

theorem argumentsOfTuple_tuple {arity : Nat} (arguments : Row Value arity) :
    argumentsOfTuple arity (.tuple arguments.toList) = .ok arguments := by
  rw [argumentsOfTuple, Row.ofList?_toList]

theorem Misshapen.argumentsOfTuple_eq {arity : Nat} {value : Value} {fault : Fault}
    (misshapen : Misshapen arity value fault) : argumentsOfTuple arity value = .error fault := by
  cases misshapen with
  | length different => rw [argumentsOfTuple, Row.ofList?_eq_none_iff.mpr different]
  | reference address => rfl
  | function address => rfl
  | kind distinct =>
    unfold argumentsOfTuple
    split
    · exact absurd rfl distinct
    · rw [if_neg (mt Kind.isErased_iff.mp distinct)]

theorem Misshapen.ne_tuple {arity : Nat} {value : Value} {fault : Fault}
    (misshapen : Misshapen arity value fault) (arguments : Row Value arity) :
    value ≠ .tuple arguments.toList := by
  rintro rfl
  have refused := misshapen.argumentsOfTuple_eq
  rw [argumentsOfTuple_tuple] at refused
  cases refused

/-- A value holds arguments or is refused. -/
theorem exists_arguments_or_misshapen (arity : Nat) (value : Value) :
    (∃ arguments : Row Value arity, value = .tuple arguments.toList) ∨
      ∃ fault, Misshapen arity value fault := by
  cases value with
  | tuple items =>
    by_cases fits : items.length = arity
    · subst fits
      exact Or.inl ⟨Row.ofList items, by rw [Row.toList_ofList]⟩
    · exact Or.inr ⟨_, .length fits⟩
  | ref address => exact Or.inr ⟨_, .reference address⟩
  | func address => exact Or.inr ⟨_, .function address⟩
  | _ => exact Or.inr ⟨_, .kind (by simp [Value.kind])⟩

/-! ### Values inside one-item tuples -/

open Script (nest)

theorem nest_add (outer inner : Nat) (value : Value) :
    nest (outer + inner) value = nest outer (nest inner value) := by
  induction outer with
  | zero => rw [Nat.zero_add, nest]
  | succ outer inductionHypothesis => rw [Nat.succ_add, nest, inductionHypothesis, nest]

theorem nest_injective {depth : Nat} {left right : Value}
    (same : nest depth left = nest depth right) : left = right := by
  induction depth with
  | zero => exact same
  | succ depth inductionHypothesis =>
    simp only [nest, Value.tuple.injEq, List.cons.injEq, and_true] at same
    exact inductionHypothesis same

theorem nest_succ_eq (depth : Nat) (value : Value) :
    nest (depth + 1) value = .tuple (Row.single (nest depth value)).toList := rfl

/-! ### Tupling again and again -/

/-- The tupled form of a function, the tupled form of that, and so on. -/
def Handle.tupledAgain (bound : CurryBound) {arity : Nat} (handle : Handle arity) :
    (again : Nat) → Computation Address
  | 0 => handle.tupled bound
  | again + 1 => do
    let inner ← handle.tupledAgain bound again
    (Handle.object inner).tupled bound

/-- The tupled form of a contract, the tupled form of that, and so on. -/
def Contract.tupledAgain {arity : Nat} (contract : Contract arity) : (again : Nat) → Contract 1
  | 0 => .tupled contract
  | again + 1 => .tupled (contract.tupledAgain again)

/-- Tupling several times succeeds and makes one object each time. -/
theorem Handle.tupledAgain_eq {bound : CurryBound} {arity : Nat} {handle : Handle arity}
    {contract : Contract arity} {world : World} (held : handle.Holds world contract)
    (supported : bound.supports arity = true) (again : Nat) :
    ∃ function made,
      handle.tupledAgain bound again world = .finished (.ok function) (world.making made) ∧
      (world.making made).functions[function]? = some (contract.tupledAgain again) := by
  induction again with
  | zero =>
    exact ⟨_, _, tupled_eq held supported, world.functions_making_size _⟩
  | succ again inductionHypothesis =>
    obtain ⟨inner, made, tupled, found⟩ := inductionHypothesis
    have single : bound.supports 1 = true :=
      CurryBound.supports_of_le (Nat.le_refl 1) (CurryBound.supports_iff.mp supported).1 supported
    have once := tupled_eq (holds_object_iff.mpr found) single
    refine ⟨(world.making made).functions.size, made ++ [.tupled (contract.tupledAgain again)],
      ?_, ?_⟩
    · rw [tupledAgain, Computation.bind_of_ok tupled, once, World.making_making]
    · rw [← World.making_making]
      exact (world.making made).functions_making_size _

namespace Contract

variable {bound : CurryBound} {rule : LeafRule} {arity : Nat}

/-- A tupled contract is called with the arguments that it is given in a tuple. -/
theorem applyWith_tupled_tuple (inner : Contract arity) (arguments : Row Value arity) :
    (tupled inner).applyWith bound rule (.single (.tuple arguments.toList)) =
      inner.applyWith bound rule arguments := by
  rw [Row.single, applyWith, argumentsOfTuple_tuple]

/-- A tupled contract refuses what is no such tuple, and nothing happens. -/
theorem applyWith_tupled_misshapen (inner : Contract arity) {value : Value} {fault : Fault}
    (misshapen : Misshapen arity value fault) :
    (tupled inner).applyWith bound rule (.single value) = Computation.fail fault := by
  rw [Row.single, applyWith, misshapen.argumentsOfTuple_eq]

/-- Inside enough tuples of one item, the tuple of the arguments reaches the contract. -/
theorem applyWith_tupledAgain_nest (contract : Contract arity) (again : Nat)
    (arguments : Row Value arity) :
    (contract.tupledAgain again).applyWith bound rule
        (.single (nest again (.tuple arguments.toList))) =
      contract.applyWith bound rule arguments := by
  induction again with
  | zero => exact contract.applyWith_tupled_tuple arguments
  | succ again inductionHypothesis =>
    rw [nest_succ_eq, tupledAgain, applyWith_tupled_tuple, inductionHypothesis]

/-- A value is refused at the layer at which it goes wrong. -/
theorem applyWith_tupledAgain_misshapen (contract : Contract arity) {again layer : Nat}
    {inner : Value} {fault : Fault} (within : layer ≤ again)
    (misshapen : Misshapen (if layer = again then arity else 1) inner fault) :
    (contract.tupledAgain again).applyWith bound rule (.single (nest layer inner)) =
      Computation.fail fault := by
  induction layer generalizing again with
  | zero =>
    cases again with
    | zero => exact contract.applyWith_tupled_misshapen misshapen
    | succ again => exact (contract.tupledAgain again).applyWith_tupled_misshapen misshapen
  | succ layer inductionHypothesis =>
    cases again with
    | zero => omega
    | succ again =>
      simp only [Nat.add_right_cancel_iff] at misshapen
      rw [nest_succ_eq, tupledAgain, applyWith_tupled_tuple]
      exact inductionHypothesis (by omega) misshapen

end Contract

/-- A value has the shape that is taken, or it goes wrong at some layer. -/
theorem exists_nest_or_misshapen (arity again : Nat) (value : Value) :
    (∃ arguments : Row Value arity, value = nest again (.tuple arguments.toList)) ∨
      ∃ layer inner fault, layer ≤ again ∧ value = nest layer inner ∧
        Misshapen (if layer = again then arity else 1) inner fault := by
  induction again generalizing value with
  | zero =>
    rcases exists_arguments_or_misshapen arity value with fits | ⟨fault, misshapen⟩
    · exact Or.inl fits
    · exact Or.inr ⟨0, value, fault, Nat.le_refl 0, rfl, misshapen⟩
  | succ again inductionHypothesis =>
    rcases exists_arguments_or_misshapen 1 value with ⟨_ | ⟨item, _ | _⟩, rfl⟩ | ⟨fault, misshapen⟩
    · rcases inductionHypothesis item with ⟨arguments, rfl⟩ |
        ⟨layer, inner, fault, within, rfl, misshapen⟩
      · exact Or.inl ⟨arguments, rfl⟩
      · refine Or.inr ⟨layer + 1, inner, fault, by omega, rfl, ?_⟩
        simpa only [Nat.add_right_cancel_iff] using misshapen
    · exact Or.inr ⟨0, value, fault, by omega, rfl, misshapen⟩

/-- A value of the shape that is taken does not go wrong at any layer. -/
theorem not_misshapen_of_nest {arity again layer : Nat} {arguments : Row Value arity}
    {inner : Value} {fault : Fault} (within : layer ≤ again)
    (same : nest again (.tuple arguments.toList) = nest layer inner) :
    ¬ Misshapen (if layer = again then arity else 1) inner fault := by
  intro misshapen
  obtain ⟨rest, rfl⟩ : ∃ rest, again = layer + rest := ⟨again - layer, by omega⟩
  rw [nest_add] at same
  obtain rfl := nest_injective same
  cases rest with
  | zero =>
    rw [if_pos (Nat.add_zero layer).symm] at misshapen
    exact misshapen.ne_tuple arguments rfl
  | succ rest =>
    rw [if_neg (by omega)] at misshapen
    exact misshapen.ne_tuple (.single (nest rest (.tuple arguments.toList))) rfl

/-- A function that was tupled and then tupled again so many times takes values of one shape. If
the value is a tuple of all arguments inside as many tuples of one item, the call is the call of
the function on these arguments. Every other value goes wrong at some layer, where all layers but
the innermost are tuples of one item; the call fails with what that layer is refused with, and
nothing happens in the world. -/
theorem tupledAgain_takes_one_shape {bound : CurryBound} {arity : Nat} {handle : Handle arity}
    {contract : Contract arity} {world : World} (held : handle.Holds world contract)
    (supported : bound.supports arity = true) (again : Nat) :
    ∃ function made,
      handle.tupledAgain bound again world = .finished (.ok function) (world.making made) ∧
      ∀ now : World, now.Extends (world.making made) → ∀ (rule : LeafRule) (value : Value),
        (∀ arguments : Row Value arity, value = nest again (.tuple arguments.toList) →
          callWith bound rule function value now = contract.applyWith bound rule arguments now) ∧
        (∀ layer inner fault, layer ≤ again → value = nest layer inner →
          Misshapen (if layer = again then arity else 1) inner fault →
          callWith bound rule function value now = .finished (.error fault) now) ∧
        ((∃ arguments : Row Value arity, value = nest again (.tuple arguments.toList)) ↔
          ¬ ∃ layer inner fault, layer ≤ again ∧ value = nest layer inner ∧
            Misshapen (if layer = again then arity else 1) inner fault) := by
  obtain ⟨function, made, tupled, found⟩ := Handle.tupledAgain_eq held supported again
  refine ⟨function, made, tupled, fun now extension rule value => ?_⟩
  rw [callWith_eq (extension.functions_eq found)]
  refine ⟨?_, ?_, ?_, ?_⟩
  · rintro arguments rfl
    exact congrFun (contract.applyWith_tupledAgain_nest again arguments) now
  · rintro layer inner fault within rfl misshapen
    exact congrFun (contract.applyWith_tupledAgain_misshapen within misshapen) now
  · rintro ⟨arguments, rfl⟩ ⟨layer, inner, fault, within, same, misshapen⟩
    exact not_misshapen_of_nest within same misshapen
  · intro fits
    exact (exists_nest_or_misshapen arity again value).resolve_right fits

/-- Tupled twice, the difference of two integers takes a pair of them inside a tuple. Two tuples in a
tuple are refused for being two. -/
theorem tupledAgain_takes_one_shape_subI32 :
    (Handle.wide (.leaf (.specialized (Catalog.subI32 "difference")))).Holds {}
        (.leaf (.specialized (Catalog.subI32 "difference"))) ∧
      CurryBound.standard.supports 2 = true ∧
      ∃ function made,
        (Handle.wide (.leaf (.specialized (Catalog.subI32 "difference")))).tupledAgain .standard 1
            {} = .finished (.ok function) (World.making {} made) ∧
        (∀ rule, callWith .standard rule function (.tuple [.tuple [.i32 5, .i32 3]])
            (World.making {} made) =
          (Contract.leaf (.specialized (Catalog.subI32 "difference"))).applyWith .standard rule
            (.pair (.i32 5) (.i32 3)) (World.making {} made)) ∧
        ∀ rule, callWith .standard rule function (.tuple [.tuple [.i32 5], .tuple [.i32 3]])
            (World.making {} made) =
          .finished (.error (.tupleMismatch 1 (some 2))) (World.making {} made) := by
  refine ⟨rfl, by decide, ?_⟩
  obtain ⟨function, made, tupled, calls⟩ := @tupledAgain_takes_one_shape .standard 2
    (.wide (.leaf (.specialized (Catalog.subI32 "difference")))) _ {} rfl (by decide) 1
  refine ⟨function, made, tupled, fun rule => ?_, fun rule => ?_⟩
  · exact (calls _ (.refl _) rule _).1 _ rfl
  · exact (calls _ (.refl _) rule _).2.1 0 _ _ (by decide) rfl (.length (by decide))

end Erasure
