/-
This file takes the pointers out of contracts and of the objects of a world. Whatever is
called in a world, it comes to the same in the world without pointers, but for the
pointers in the objects that it makes: calls pass through pointers and nothing else looks
at them.
-/

import Erasure.Proofs.Congruence
import Erasure.Proofs.Currying

namespace Erasure

/-! ### Worlds without pointers -/

namespace Contract

/-- A contract behind several pointers, the first being the outermost. -/
def behind {arity : Nat} (contract : Contract arity) : List Pointer → Contract arity
  | [] => contract
  | pointer :: rest => .forward pointer (contract.behind rest)

/-- The contract without the pointers in it. -/
def bare : {arity : Nat} → Contract arity → Contract arity
  | _, leaf function => leaf function
  | _, forward _ inner => inner.bare
  | _, sequence first second => sequence first.bare second.bare
  | _, tupled inner => tupled inner.bare
  | _, curried inner => curried inner.bare
  | _, bound inner first => bound inner.bare first

theorem bare_behind {arity : Nat} (contract : Contract arity) (pointers : List Pointer) :
    (contract.behind pointers).bare = contract.bare := by
  induction pointers with
  | nil => rfl
  | cons pointer rest inductionHypothesis => exact inductionHypothesis

/-- Pointers can be taken out of a contract before or after a link is made of it. -/
theorem bare_link {fewer : Nat} (contract : Contract (fewer + 1)) :
    contract.link.bare = contract.bare.link := by
  cases fewer <;> rfl

theorem signature_bare {arity : Nat} (contract : Contract arity) :
    contract.bare.signature = contract.signature := by
  induction contract with
  | forward pointer inner inductionHypothesis => exact inductionHypothesis
  | sequence first second firstSignature secondSignature =>
    rw [bare, signature, signature, firstSignature, secondSignature]
  | _ => rfl

end Contract

/-- The world without the pointers in its objects. -/
def World.bare (world : World) : World :=
  { world with functions := world.functions.map Contract.bare }

/-- An outcome in the world without the pointers in its objects. -/
def Outcome.bare {α : Type} : Outcome α → Outcome α
  | .finished answer after => .finished answer after.bare
  | .unanswered => .unanswered

namespace World

theorem functions_bare (world : World) (address : Address) :
    world.bare.functions[address]? = world.functions[address]?.map Contract.bare :=
  Array.getElem?_map

theorem making_bare (world : World) (contract : Contract 1) :
    (world.making [contract]).bare = world.bare.making [contract.bare] := by
  simp only [bare, making, Array.map_append, List.map_toArray, List.map_cons, List.map_nil]

/-- Texts do not show pointers. -/
theorem text_bare (world : World) (value : Value) : world.bare.text value = world.text value := by
  have signatures : world.bare.signatureAt = world.signatureAt := by
    funext address
    rw [signatureAt, signatureAt, functions_bare]
    cases world.functions[address]? with
    | none => rfl
    | some contract => exact contract.signature_bare
  rw [text, text, signatures]

end World

namespace Computation

variable {α β : Type}

/-- A computation is the other one with its pointers taken out, if it does in worlds without
pointers what the other one does in any world. -/
def BaresTo (computation other : Computation α) : Prop :=
  ∀ world, other world.bare = (computation world).bare

/-- Pointers are taken out of what is done one after the other by taking them out of its parts. -/
theorem BaresTo.bind {computation other : Computation α} {next otherNext : α → Computation β}
    (first : computation.BaresTo other) (second : ∀ result, (next result).BaresTo (otherNext result)) :
    (computation >>= next).BaresTo (other >>= otherNext) := by
  intro world
  have elsewhere := first world
  cases ended : computation world with
  | unanswered =>
    rw [ended] at elsewhere
    rw [bind_of_unanswered ended, bind_of_unanswered elsewhere]
    rfl
  | finished answer after =>
    rw [ended] at elsewhere
    cases answer with
    | ok result =>
      rw [bind_of_ok ended, bind_of_ok elsewhere]
      exact second result after
    | error fault =>
      rw [bind_of_error ended, bind_of_error elsewhere]
      rfl

theorem BaresTo.attempt {computation other : Computation α} (bares : computation.BaresTo other) :
    computation.attempt.BaresTo other.attempt := by
  intro world
  unfold Computation.attempt
  rw [bares world]
  cases computation world <;> rfl

/-- A new object stands at the same address with and without pointers. -/
theorem BaresTo.allocate (contract : Contract 1) :
    (allocate contract).BaresTo (allocate contract.bare) := by
  intro world
  rw [allocate_eq, allocate_eq, Outcome.bare, World.making_bare]
  simp only [World.bare, Array.size_map]

/-- What is done with a function that was looked up is done with the function without its
pointers. -/
theorem BaresTo.lookup {next otherNext : Contract 1 → Computation β} (address : Address)
    (onward : ∀ contract, (next contract).BaresTo (otherNext contract.bare)) :
    (lookup address >>= next).BaresTo (lookup address >>= otherNext) := by
  intro world
  cases found : world.functions[address]? with
  | none =>
    have missing : Computation.lookup address world = .unanswered := by
      rw [Computation.lookup, found]
    have missingBare : Computation.lookup address world.bare = .unanswered := by
      rw [Computation.lookup, World.functions_bare, found]
      rfl
    rw [bind_of_unanswered missing, bind_of_unanswered missingBare]
    rfl
  | some contract =>
    have foundBare : world.bare.functions[address]? = some contract.bare := by
      rw [World.functions_bare, found]
      rfl
    rw [bind_of_ok (lookup_eq_iff.mpr found), bind_of_ok (lookup_eq_iff.mpr foundBare)]
    exact onward contract world

/-- Taking pointers out goes through all that calls of leaves are put together from. -/
theorem baresTo_congruence : Congruence fun _ computation other => computation.BaresTo other where
  pure _ _ := rfl
  fail _ _ := rfl
  bind first second := first.bind second
  attempt bares := bares.attempt
  record _ _ := rfl
  describe value world := by
    rw [ask, ask, World.text_bare]
    rfl
  readCell _ _ := rfl
  writeCell _ _ _ := rfl

end Computation

/-! ### Calls without pointers -/

/-- A rule for calls is unaware of pointers if calls do the same in a world without them. -/
def CallRule.Unaware (call : CallRule) : Prop :=
  ∀ function argument, (call function argument).BaresTo (call function argument)

/-- A rule for leaves is unaware of pointers if calls of leaves do the same in a world without
them. -/
def LeafRule.Unaware (rule : LeafRule) : Prop :=
  ∀ arity function arguments,
    (rule arity function arguments).BaresTo (rule arity function arguments)

theorem refuse_baresTo {α : Type} (operation : String) (arity : Nat) :
    (refuse operation arity : Computation α).BaresTo (refuse operation arity) :=
  .bind (fun _ => rfl) fun _ _ => rfl

/-- A contract is called as it is without pointers, but for the pointers in what it makes. -/
theorem Contract.applyWith_baresTo {bound : CurryBound} {rule : LeafRule} (unaware : rule.Unaware)
    {arity : Nat} (contract : Contract arity) (arguments : Row Value arity) :
    (contract.applyWith bound rule arguments).BaresTo
      (contract.bare.applyWith bound rule arguments) := by
  induction contract with
  | leaf function => exact unaware _ function arguments
  | forward pointer inner inductionHypothesis => exact inductionHypothesis arguments
  | sequence first second firstBares secondBares =>
    exact .bind (firstBares arguments) fun _ => secondBares _
  | @tupled arity inner inductionHypothesis =>
    obtain _ | ⟨value, _ | _⟩ := arguments
    rw [applyWith, bare, applyWith]
    cases argumentsOfTuple arity value with
    | ok items => exact inductionHypothesis items
    | error fault => exact fun _ => rfl
  | @curried fewer inner =>
    -- The link that is made holds what is left of the contract, with its pointers.
    obtain _ | ⟨value, _ | _⟩ := arguments
    show (applyWith bound rule inner.curried (.single value)).BaresTo
      (applyWith bound rule inner.bare.curried (.single value))
    rw [applyWith_curried_eq, applyWith_curried_eq]
    refine .bind ?_ fun _ _ => rfl
    split
    · have allocated := Computation.BaresTo.allocate (Contract.bound inner value).link
      rw [bare_link] at allocated
      exact allocated
    · exact refuse_baresTo _ _
  | bound inner first inductionHypothesis => exact inductionHypothesis (.cons first arguments)

/-- Calls of leaves are unaware of pointers if the calls that their bodies make are. -/
theorem Leaf.apply_unaware {call : CallRule} (unaware : call.Unaware) :
    LeafRule.Unaware fun _ function arguments => function.apply call arguments :=
  fun _ function => Computation.baresTo_congruence.leaf unaware function

/-- Calls are unaware of pointers, however deeply bodies may call each other. -/
theorem invoke_unaware (bound : CurryBound) (depth : Nat) : (invoke bound depth).Unaware := by
  induction depth with
  | zero => exact fun _ _ _ => rfl
  | succ depth inductionHypothesis =>
    exact fun function argument => .lookup function fun contract =>
      contract.applyWith_baresTo (Leaf.apply_unaware inductionHypothesis) _

theorem CallRule.onward_unaware {call : CallRule} (unaware : call.Unaware) (values : List Value)
    (result : Value) : (call.onward values result).BaresTo (call.onward values result) := by
  induction values generalizing result with
  | nil =>
    rw [onward_nil]
    exact fun _ => rfl
  | cons value rest inductionHypothesis =>
    cases result with
    | func function =>
      show (call.chain function (value :: rest)).BaresTo (call.chain function (value :: rest))
      rw [chain_cons_eq]
      exact .bind (unaware function value) inductionHypothesis
    | _ => exact fun _ => rfl

/-- Chains of calls of two functions that are the same but for pointers come to the same but for
pointers. -/
theorem invoke_chain_bare {bound : CurryBound} {now : World} {function layered : Address}
    {contract other : Contract 1} (found : now.functions[function]? = some contract)
    (foundLayered : now.functions[layered]? = some other) (same : other.bare = contract.bare)
    (depth : Nat) (value : Value) (rest : List Value) :
    ((invoke bound depth).chain layered (value :: rest) now).bare =
      ((invoke bound depth).chain function (value :: rest) now).bare := by
  cases depth with
  | zero => rfl
  | succ depth =>
    have unaware := Leaf.apply_unaware (invoke_unaware bound depth)
    have goesOn := CallRule.onward_unaware (invoke_unaware bound (depth + 1)) rest
    rw [invoke_succ] at goesOn ⊢
    have bares (held : Contract 1) :=
      (@held.applyWith_baresTo bound _ unaware _ (.single value)).bind goesOn now
    rw [chain_eq_of_found found, chain_eq_of_found foundLayered, ← bares, ← bares, same]

end Erasure
