/-
This file proves that the curried form of a contract gathers arguments and does nothing
else before it has the last one. Every call before that answers with a link, a new object
that holds the arguments so far; nothing is called or noted, whatever the arguments are.
The call with the last argument is the call of the contract with all of them.
-/

import Erasure.Catalog.Recipe
import Erasure.Proofs.Objects

namespace Erasure

/-! ### Arguments in two parts -/

namespace Row

variable {α : Type}

/-- A row followed by another one, which is not empty. -/
def followedBy : {count fewer : Nat} → Row α count → Row α (fewer + 1) → Row α (fewer + count + 1)
  | _, _, nil, last => last
  | _, _, cons first rest, last => cons first (rest.followedBy last)

@[simp]
theorem toList_followedBy {count fewer : Nat} (row : Row α count) (last : Row α (fewer + 1)) :
    (row.followedBy last).toList = row.toList ++ last.toList := by
  induction row with
  | nil => rfl
  | cons first rest inductionHypothesis =>
    rw [followedBy, toList, inductionHypothesis, toList, List.cons_append]

end Row

/-! ### Contracts with some arguments fixed -/

namespace Contract

/-- A contract of which the first arguments are fixed, one after the other. -/
def supply : {count fewer : Nat} → Contract (fewer + count + 1) → Row Value count →
    Contract (fewer + 1)
  | _, _, contract, .nil => contract
  | _, _, contract, .cons first rest => supply (Contract.bound contract first) rest

/-- Calling what is left with the remaining arguments is calling the contract with all of them, the
fixed ones first. -/
theorem applyWith_supply {bound : CurryBound} {rule : LeafRule} {count fewer : Nat}
    (contract : Contract (fewer + count + 1)) (fixed : Row Value count)
    (rest : Row Value (fewer + 1)) :
    (contract.supply fixed).applyWith bound rule rest =
      contract.applyWith bound rule (fixed.followedBy rest) := by
  induction fixed with
  | nil => rfl
  | cons first others inductionHypothesis =>
    exact inductionHypothesis (Contract.bound contract first)

end Contract

/-! ### Chains of calls -/

/-- Calls a function on the first value, the function it returns on the next one, and so on, and
stops behind a result that is no function. -/
def CallRule.chain (call : CallRule) : Address → List Value → Computation Value
  | function, [] => return .func function
  | function, value :: rest => do
    match ← call function value with
    | .func next => call.chain next rest
    | other => return other

theorem CallRule.chain_cons {call : CallRule} {function next : Address} {value : Value}
    {world after : World} (answered : call function value world = .finished (.ok (.func next)) after)
    (rest : List Value) :
    call.chain function (value :: rest) world = call.chain next rest after :=
  Computation.bind_of_ok answered _

/-- Goes on with a chain of calls as long as functions are returned. -/
def CallRule.onward (call : CallRule) (values : List Value) : Value → Computation Value
  | .func function => call.chain function values
  | other => return other

theorem CallRule.chain_cons_eq (call : CallRule) (function : Address) (value : Value)
    (rest : List Value) :
    call.chain function (value :: rest) = call function value >>= call.onward rest := by
  rw [chain]
  congr 1

theorem CallRule.onward_nil (call : CallRule) : call.onward [] = pure := by
  funext result
  cases result <;> rfl

/-- A chain of calls begins with a call of the contract that is found. -/
theorem chain_eq_of_found {bound : CurryBound} {function : Address} {contract : Contract 1}
    {now : World} (found : now.functions[function]? = some contract) (rule : LeafRule)
    (value : Value) (rest : List Value) :
    (callWith bound rule).chain function (value :: rest) now =
      (contract.applyWith bound rule (.single value) >>= (callWith bound rule).onward rest) now := by
  rw [CallRule.chain_cons_eq]
  exact Computation.bind_eq_of_eq (callWith_eq found value) _

/-- As long as an argument is still missing, a chain of calls of a curried form only makes objects,
the last of which is the curried form of the contract with the given arguments fixed. How the
leaves of the contract answer has no part in it. -/
theorem chain_supplies {bound : CurryBound} {count fewer : Nat} {function : Address}
    {world : World} {contract : Contract (fewer + count + 1)}
    (found : world.functions[function]? = some contract.link)
    (supported : bound.supports (fewer + count + 1) = true) (values : Row Value count) :
    ∃ link made, (∀ rule, (callWith bound rule).chain function values.toList world =
        .finished (.ok (.func link)) (world.making made)) ∧
      (world.making made).functions[link]? = some (contract.supply values).link := by
  induction values generalizing function world with
  | nil =>
    refine ⟨function, [], fun rule => ?_, ?_⟩
    · rw [World.making_nil]
      rfl
    · rw [World.making_nil]
      exact found
  | @cons count first rest inductionHypothesis =>
    have answered (rule : LeafRule) : callWith bound rule function first world =
        .finished (.ok (.func world.functions.size))
          (world.making [(Contract.bound contract first).link]) :=
      (callWith_eq found first).trans (contract.applyWith_curried supported rule first world)
    obtain ⟨link, made, chained, kept⟩ := inductionHypothesis
      (world.functions_making_size (Contract.bound contract first).link)
      (CurryBound.supports_of_le (by omega) (by omega) supported)
    refine ⟨link, [(Contract.bound contract first).link] ++ made, fun rule => ?_, ?_⟩
    · rw [Row.toList, CallRule.chain_cons (answered rule), chained, World.making_making]
    · rw [← World.making_making]
      exact kept

/-- The curried form of a held contract is called on some but not all of its arguments, in a world
that has come about since it was made. -/
theorem chain_of_curried {bound : CurryBound} {missing : Nat} {values : List Value}
    {handle : Handle (missing + values.length + 1)}
    {contract : Contract (missing + values.length + 1)} {world after now : World}
    {function : Address} (held : handle.Holds world contract)
    (curried : handle.curried bound world = .finished (.ok function) after)
    (extension : now.Extends after) :
    ∃ link made, (∀ rule, (callWith bound rule).chain function values now =
        .finished (.ok (.func link)) (now.making made)) ∧
      (now.making made).functions[link]? = some (contract.supply (Row.ofList values)).link := by
  have supported := Handle.supports_of_curried curried
  obtain ⟨other, objects, currying, found⟩ := Handle.curried_eq held supported
  rw [currying] at curried
  cases curried
  have supplied := chain_supplies (extension.functions_eq found) supported (Row.ofList values)
  rw [Row.toList_ofList] at supplied
  exact supplied

/-- Calling a curried form and all of its links is calling the contract. -/
theorem Contract.link_onward {bound : CurryBound} {fewer : Nat} (contract : Contract (fewer + 1))
    (supported : bound.supports (fewer + 1) = true) {given : Row Value (fewer + 1)} {value : Value}
    {more : List Value} (parts : given.toList = value :: more) (rest : List Value) (now : World) :
    ∃ made, ∀ rule,
      (contract.link.applyWith bound rule (.single value) >>=
        (callWith bound rule).onward (more ++ rest)) now =
      (contract.applyWith bound rule given >>= (callWith bound rule).onward rest)
        (now.making made) := by
  induction fewer generalizing value more now with
  | zero =>
    obtain _ | ⟨first, _ | _⟩ := given
    cases parts
    refine ⟨[], fun rule => ?_⟩
    rw [World.making_nil]
    rfl
  | succ fewer inductionHypothesis =>
    obtain _ | ⟨_, _ | ⟨second, others⟩⟩ := given
    cases parts
    have fewerSupported := CurryBound.supports_of_le (Nat.le_add_left 1 fewer) (by omega) supported
    have found := now.functions_making_size (Contract.bound contract value).link
    obtain ⟨made, reached⟩ := @inductionHypothesis (Contract.bound contract value) fewerSupported
      (.cons second others) second others.toList rfl
      (now.making [(Contract.bound contract value).link])
    refine ⟨[(Contract.bound contract value).link] ++ made, fun rule => ?_⟩
    rw [← World.making_making]
    refine (Computation.bind_of_ok (contract.applyWith_curried supported rule value now) _).trans
      (Eq.trans ?_ (reached rule))
    exact chain_eq_of_found found rule second (others.toList ++ rest)

/-- A chain of calls of a curried form on all arguments is one call of the contract with them, after
nothing but objects have been made. -/
theorem chain_of_arguments {bound : CurryBound} {fewer : Nat} {function : Address} {now : World}
    {contract : Contract (fewer + 1)} (found : now.functions[function]? = some contract.link)
    (supported : bound.supports (fewer + 1) = true) (arguments : Row Value (fewer + 1)) :
    ∃ made, ∀ rule, (callWith bound rule).chain function arguments.toList now =
      contract.applyWith bound rule arguments (now.making made) := by
  obtain _ | ⟨first, others⟩ := arguments
  obtain ⟨made, reached⟩ :=
    @contract.link_onward bound fewer supported (.cons first others) first others.toList rfl [] now
  refine ⟨made, fun rule => ?_⟩
  have called := reached rule
  rw [List.append_nil, CallRule.onward_nil, bind_pure] at called
  rw [Row.toList, chain_eq_of_found found, called]

/-- The curried form of a contract agrees with the contract. Currying succeeds. In every world that
has come about since, each call of a chain but the one with the last argument answers with a link
and does nothing else than to make objects, whatever the arguments are and however the leaves of
the contract answer. The call with the last argument is the call of the contract with all arguments
in the order they came. -/
theorem curried_agrees {bound : CurryBound} {arity : Nat} {handle : Handle arity}
    {contract : Contract arity} {world : World} (held : handle.Holds world contract)
    (supported : bound.supports arity = true) :
    ∃ function made,
      handle.curried bound world = .finished (.ok function) (world.making made) ∧
      ∀ now : World, now.Extends (world.making made) →
        ∀ values : List Value, values.length < arity →
          ∃ link more,
            (∀ rule, (callWith bound rule).chain function values now =
              .finished (.ok (.func link)) (now.making more)) ∧
            ∀ later : World, later.Extends (now.making more) →
              ∀ (last : Value) (arguments : Row Value arity),
                arguments.toList = values ++ [last] →
                ∀ rule, callWith bound rule link last later =
                  contract.applyWith bound rule arguments later := by
  obtain ⟨fewer, rfl⟩ := CurryBound.exists_succ_of_supports supported
  obtain ⟨function, made, curried, _⟩ := Handle.curried_eq held supported
  refine ⟨function, made, curried, fun now extension values short => ?_⟩
  obtain ⟨missing, rfl⟩ : ∃ missing, fewer = missing + values.length :=
    ⟨fewer - values.length, by omega⟩
  obtain ⟨link, more, chained, kept⟩ := chain_of_curried held curried extension
  refine ⟨link, more, chained, fun later laterExtension last arguments same rule => ?_⟩
  have lengths := arguments.length_toList
  rw [same, List.length_append, List.length_singleton] at lengths
  obtain rfl : missing = 0 := by omega
  have complete : (Row.ofList values).followedBy (.single last) = arguments := by
    apply Row.toList_injective
    rw [Row.toList_followedBy, Row.toList_ofList, same]
    rfl
  rw [callWith_eq (laterExtension.functions_eq kept), ← complete]
  exact congrFun (contract.applyWith_supply (Row.ofList values) (.single last)) later

/-- A function of three integers takes a truth value for the first one without complaint as long as
the third is missing. -/
theorem curried_agrees_digits :
    (Handle.wide (.leaf (.specialized (Catalog.digits "digits")))).Holds {}
        (.leaf (.specialized (Catalog.digits "digits"))) ∧
      CurryBound.standard.supports 3 = true ∧
      ∃ function made link more,
        (Handle.wide (.leaf (.specialized (Catalog.digits "digits")))).curried .standard {} =
          .finished (.ok function) (World.making {} made) ∧
        (∀ rule, (callWith .standard rule).chain function [.bool true, .i32 2]
            (World.making {} made) =
          .finished (.ok (.func link)) ((World.making {} made).making more)) ∧
        ∀ rule, callWith .standard rule link (.i32 3) ((World.making {} made).making more) =
          (Contract.leaf (.specialized (Catalog.digits "digits"))).applyWith .standard rule
            (.triple (.bool true) (.i32 2) (.i32 3)) ((World.making {} made).making more) := by
  refine ⟨rfl, by decide, ?_⟩
  obtain ⟨function, made, curried, chains⟩ := @curried_agrees .standard 3
    (.wide (.leaf (.specialized (Catalog.digits "digits")))) _ {} rfl (by decide)
  obtain ⟨link, more, chained, last⟩ := chains _ (.refl _) [.bool true, .i32 2] (by decide)
  exact ⟨function, made, link, more, curried, chained, last _ (.refl _) (.i32 3) _ rfl⟩

end Erasure
