/-
This file compares calls under two bounds on currying, the second of which lies higher. A
call asks about the bound every time that it comes to a curried part, so that the two
could differ in the middle of a call. They do not as long as everything curried in the
world could be curried under the lower bound: calls under the two bounds then do the same,
and what they make could again be made under the lower one.
-/

import Erasure.Proofs.Faults
import Erasure.Proofs.Soundness

namespace Erasure

/-- A bound that lies higher supports whatever the lower one does. -/
theorem CurryBound.supports_of_limit_le {narrow wide : CurryBound}
    (wider : narrow.limit ≤ wide.limit) {arity : Nat} (supported : narrow.supports arity = true) :
    wide.supports arity = true := by
  rw [supports_iff] at supported ⊢
  omega

/-! ### Worlds of what could be curried -/

/-- Whatever is curried in the objects of a world could be curried under the bound. -/
def World.Curriable (limit : CurryBound) (world : World) : Prop :=
  ∀ contract ∈ world.functions, contract.Curriable limit

/-- Whatever is curried in a contract that is held could be curried under the bound. An object is
looked after by its world. -/
def Handle.Curriable (limit : CurryBound) : {arity : Nat} → Handle arity → Prop
  | _, object _ => True
  | _, wide contract => contract.Curriable limit

theorem World.Curriable.making {limit : CurryBound} {world : World}
    (curriable : world.Curriable limit) {contract : Contract 1} (more : contract.Curriable limit) :
    (world.making [contract]).Curriable limit := by
  intro other member
  rcases Array.mem_append.mp member with old | new
  · exact curriable other old
  · obtain rfl : other = contract := by simpa using new
    exact more

theorem Contract.Curriable.link {limit : CurryBound} {fewer : Nat} (contract : Contract (fewer + 1))
    (curriable : contract.Curriable limit) (supported : limit.supports (fewer + 1) = true) :
    contract.link.Curriable limit :=
  (Inherited.curriable limit fun _ _ => True).link supported curriable

/-! ### Computations that agree -/

namespace Computation

variable {α β : Type} {limit : CurryBound}

/-- Two computations agree if they do the same in every world of what could be curried. They leave
such a world behind, and a result that they come to has the given property. -/
structure Agree (limit : CurryBound) (property : α → Prop) (computation other : Computation α) :
    Prop where
  same : ∀ world, world.Curriable limit → other world = computation world
  keeps : ∀ {world answer after}, world.Curriable limit →
    computation world = .finished answer after →
      after.Curriable limit ∧ ∀ result, answer = .ok result → property result

variable {property : α → Prop}

theorem Agree.pure {result : α} (had : property result) :
    Agree limit property (pure result : Computation α) (pure result) where
  same _ _ := rfl
  keeps curriable ended := by
    cases ended
    exact ⟨curriable, fun _ same => Except.ok.inj same ▸ had⟩

theorem Agree.fail (fault : Fault) : Agree limit property (fail fault) (fail fault) where
  same _ _ := rfl
  keeps curriable ended := by
    cases ended
    exact ⟨curriable, nofun⟩

theorem Agree.unanswered : Agree limit property unanswered unanswered where
  same _ _ := rfl
  keeps _ ended := by cases ended

/-- What is done one after the other agrees if its parts do. -/
theorem Agree.bind {computation other : Computation α} {next otherNext : α → Computation β}
    {last : β → Prop} (first : computation.Agree limit property other)
    (second : ∀ result, property result → (next result).Agree limit last (otherNext result)) :
    (computation >>= next).Agree limit last (other >>= otherNext) where
  same world curriable := by
    have same := first.same world curriable
    cases ended : computation world with
    | unanswered => rw [bind_of_unanswered ended, bind_of_unanswered (same.trans ended)]
    | finished answer after =>
      obtain ⟨kept, had⟩ := first.keeps curriable ended
      cases answer with
      | ok result =>
        rw [bind_of_ok ended, bind_of_ok (same.trans ended)]
        exact (second result (had result rfl)).same after kept
      | error fault => rw [bind_of_error ended, bind_of_error (same.trans ended)]
  keeps {world answer last} curriable ended := by
    cases early : computation world with
    | unanswered =>
      rw [bind_of_unanswered early] at ended
      cases ended
    | finished between after =>
      obtain ⟨kept, had⟩ := first.keeps curriable early
      cases between with
      | ok result =>
        rw [bind_of_ok early] at ended
        exact (second result (had result rfl)).keeps kept ended
      | error fault =>
        rw [bind_of_error early] at ended
        cases ended
        exact ⟨kept, nofun⟩

/-- A fault that is caught is the same under both bounds. -/
theorem Agree.attempt {computation other : Computation α}
    (agree : computation.Agree limit property other) :
    computation.attempt.Agree limit (fun _ => True) other.attempt where
  same world curriable := by
    unfold Computation.attempt
    rw [agree.same world curriable]
  keeps {world answer last} curriable ended := by
    unfold Computation.attempt at ended
    cases early : computation world with
    | unanswered =>
      rw [early] at ended
      cases ended
    | finished between after =>
      rw [early] at ended
      cases ended
      exact ⟨(agree.keeps curriable early).1, fun _ _ => trivial⟩

/-- A computation that leaves the objects alone agrees with itself. -/
theorem Agree.of_functions_eq {computation : Computation α}
    (leaves : ∀ {world answer after}, computation world = .finished answer after →
      after.functions = world.functions) : computation.Agree limit (fun _ => True) computation where
  same _ _ := rfl
  keeps curriable ended := by
    refine ⟨?_, fun _ _ => trivial⟩
    rw [World.Curriable, leaves ended]
    exact curriable

theorem Agree.record (event : Event) :
    (record event).Agree limit (fun _ => True) (record event) :=
  .of_functions_eq fun ended => by cases ended; rfl

theorem Agree.ask (question : World → α) :
    (ask question).Agree limit (fun _ => True) (ask question) :=
  .of_functions_eq fun ended => by cases ended; rfl

theorem Agree.writeCell (cell : Address) (value : Value) :
    (change fun world => world.writeCell cell value).Agree limit (fun _ => True)
      (change fun world => world.writeCell cell value) :=
  .of_functions_eq fun ended => by cases ended; rfl

/-- An object can be made of any contract that could be curried. -/
theorem Agree.allocate (contract : Contract 1) (curriable : contract.Curriable limit) :
    (allocate contract).Agree limit (fun _ => True) (allocate contract) where
  same _ _ := rfl
  keeps {world answer after} inWorld ended := by
    rw [allocate_eq] at ended
    cases ended
    exact ⟨inWorld.making curriable, fun _ _ => trivial⟩

/-- A function that is looked up could be curried, like all that the world holds. -/
theorem Agree.lookup (address : Address) :
    (lookup address).Agree limit (Contract.Curriable limit) (lookup address) where
  same _ _ := rfl
  keeps {world answer after} curriable ended := by
    unfold Computation.lookup at ended
    cases found : world.functions[address]? with
    | none =>
      rw [found] at ended
      cases ended
    | some contract =>
      rw [found] at ended
      cases ended
      refine ⟨curriable, ?_⟩
      rintro result ⟨⟩
      exact curriable contract (Array.mem_of_getElem? found)

/-- Agreement goes through everything that calls of leaves are put together from. -/
theorem Agree.congruence :
    Congruence fun _ computation other => computation.Agree limit (fun _ => True) other where
  pure _ := .pure trivial
  fail := .fail
  bind first second := .bind first fun result _ => second result
  attempt := .attempt
  record := .record
  describe _ := .ask _
  readCell _ := .ask _
  writeCell := .writeCell

end Computation

/-! ### Calls that agree -/

section Calls

variable {limit : CurryBound}

/-- Two rules for calls agree if all their calls do. -/
def CallRule.Agree (limit : CurryBound) (call other : CallRule) : Prop :=
  ∀ function argument,
    (call function argument).Agree limit (fun _ => True) (other function argument)

/-- Two rules for leaves agree if all their calls of leaves do. -/
def LeafRule.Agree (limit : CurryBound) (rule other : LeafRule) : Prop :=
  ∀ arity function arguments,
    (rule arity function arguments).Agree limit (fun _ => True) (other arity function arguments)

/-- Calls of leaves agree if the calls that their bodies make do. -/
theorem Leaf.apply_agree {call other : CallRule} (agree : call.Agree limit other) :
    LeafRule.Agree limit (fun _ function arguments => function.apply call arguments)
      fun _ function arguments => function.apply other arguments :=
  fun _ => Computation.Agree.congruence.leaf agree

end Calls

/-! ### Two bounds -/

section Bounds

variable {narrow wide : CurryBound}

/-- A call of a contract that could be made under the lower bound does not depend on which of the
two bounds is in force. -/
theorem Contract.applyWith_agree (wider : narrow.limit ≤ wide.limit) {rule other : LeafRule}
    (agree : rule.Agree narrow other) {arity : Nat} {contract : Contract arity}
    (curriable : contract.Curriable narrow) (arguments : Row Value arity) :
    (contract.applyWith narrow rule arguments).Agree narrow (fun _ => True)
      (contract.applyWith wide other arguments) := by
  induction contract with
  | leaf function => exact agree _ function arguments
  | forward pointer inner inductionHypothesis => exact inductionHypothesis curriable arguments
  | sequence first second firstAgree secondAgree =>
    exact .bind (firstAgree curriable.1 arguments) fun between _ =>
      secondAgree curriable.2 (.single between)
  | @tupled arity inner inductionHypothesis =>
    obtain _ | ⟨value, _ | _⟩ := arguments
    rw [applyWith, applyWith]
    cases argumentsOfTuple arity value with
    | ok items => exact inductionHypothesis curriable items
    | error fault => exact .fail fault
  | @curried fewer inner =>
    -- Here alone the bound is looked at. What is left of the contract has fewer parameters, so
    -- that neither bound refuses it.
    obtain _ | ⟨value, _ | _⟩ := arguments
    obtain ⟨supported, rest⟩ := curriable
    have narrowCall := inner.applyWith_curried supported rule value
    have wideCall :=
      inner.applyWith_curried (CurryBound.supports_of_limit_le wider supported) other value
    refine ⟨fun world _ => (wideCall world).trans (narrowCall world).symm, ?_⟩
    intro world answer after inWorld ended
    cases (narrowCall world).symm.trans ended
    refine ⟨inWorld.making ?_, fun _ _ => trivial⟩
    exact Contract.Curriable.link (.bound inner value) rest
      (CurryBound.supports_of_le (Nat.le_add_left 1 fewer) (by omega) supported)
  | bound inner first inductionHypothesis =>
    exact inductionHypothesis curriable (.cons first arguments)

/-- Calls of objects agree under the two bounds, however deeply bodies may call each other. -/
theorem invoke_agree (wider : narrow.limit ≤ wide.limit) (depth : Nat) :
    CallRule.Agree narrow (invoke narrow depth) (invoke wide depth) := by
  induction depth with
  | zero => exact fun _ _ => .unanswered
  | succ depth inductionHypothesis =>
    exact fun function argument => .bind (.lookup function) fun contract curriable =>
      contract.applyWith_agree wider (Leaf.apply_agree inductionHypothesis) curriable _

namespace Handle

variable {arity : Nat}

theorem contract_agree {handle : Handle arity} (curriable : handle.Curriable narrow) :
    handle.contract.Agree narrow (Contract.Curriable narrow) handle.contract := by
  cases handle with
  | object address => exact .lookup address
  | wide contract => exact .pure curriable

theorem apply_agree (wider : narrow.limit ≤ wide.limit) (depth : Nat) {handle : Handle arity}
    (curriable : handle.Curriable narrow) (arguments : Row Value arity) :
    (handle.apply narrow depth arguments).Agree narrow (fun _ => True)
      (handle.apply wide depth arguments) :=
  .bind (contract_agree curriable) fun _ held =>
    Contract.applyWith_agree wider (Leaf.apply_agree (invoke_agree wider depth)) held arguments

theorem share_agree {fewer : Nat} {contract : Contract (fewer + 1)}
    (curriable : contract.Curriable narrow) :
    (Handle.share contract).Agree narrow (Curriable narrow) (Handle.share contract) := by
  cases fewer with
  | zero => exact .bind (.allocate contract curriable) fun _ _ => .pure trivial
  | succ fewer => exact .pure curriable

theorem forward_agree (pointer : Pointer) {handle : Handle arity}
    (curriable : handle.Curriable narrow) :
    (handle.forward pointer).Agree narrow (Curriable narrow) (handle.forward pointer) := by
  cases handle with
  | object address =>
    exact .bind (.lookup address) fun inner held =>
      .bind (.allocate (.forward pointer inner) held) fun _ _ => .pure trivial
  | wide contract => exact .pure curriable

/-- A transform that is not refused under the lower bound is made alike under both. -/
theorem curried_agree (wider : narrow.limit ≤ wide.limit) (supported : narrow.supports arity = true)
    {handle : Handle arity} (curriable : handle.Curriable narrow) :
    (handle.curried narrow).Agree narrow (fun _ => True) (handle.curried wide) := by
  cases handle with
  | object address => exact .pure trivial
  | @wide fewer contract =>
    rw [curried, curried, if_pos supported,
      if_pos (CurryBound.supports_of_limit_le wider supported)]
    exact .allocate (.curried contract) ⟨supported, curriable⟩

theorem tupled_agree (wider : narrow.limit ≤ wide.limit) (supported : narrow.supports arity = true)
    {handle : Handle arity} (curriable : handle.Curriable narrow) :
    (handle.tupled narrow).Agree narrow (fun _ => True) (handle.tupled wide) := by
  cases handle with
  | object address =>
    exact .bind (.lookup address) fun inner held => .allocate (.tupled inner) held
  | wide contract =>
    rw [tupled, tupled, if_pos supported,
      if_pos (CurryBound.supports_of_limit_le wider supported)]
    exact .allocate (.tupled contract) curriable

end Handle

/-- A sequence could be curried under the bound, since both of its parts could be. -/
theorem andThen_agree (first second : Address) :
    (andThen first second).Agree narrow (fun _ => True) (andThen first second) :=
  .bind (.lookup first) fun firstPart early => .bind (.lookup second) fun secondPart late =>
    .allocate (.sequence firstPart secondPart) ⟨early, late⟩

end Bounds

/-! ### Requests for transforms -/

/-- What is held has at least one parameter and no more than the widest contract. -/
theorem Handle.arity_bounds {arity : Nat} (handle : Handle arity) :
    1 ≤ arity ∧ arity ≤ widestArity := by
  cases handle with
  | object address => exact ⟨Nat.le_refl 1, one_le_widestArity⟩
  | wide contract => exact ⟨contract.arity_pos, contract.arity_le⟩

/-- A bound rejects what lies above it and nothing else, for no contract is without parameters. -/
theorem Handle.supports_eq_false_iff {arity : Nat} (handle : Handle arity) (bound : CurryBound) :
    bound.supports arity = false ↔ bound.limit < arity := by
  have positive := handle.arity_bounds.1
  rw [← Bool.not_eq_true, CurryBound.supports_iff]
  omega

/-- What can be asked for that may be refused. -/
inductive Transform
  | curried
  | tupled
  deriving DecidableEq, Repr

namespace Transform

/-- The name that a transform is refused by. -/
def operation : Transform → String
  | curried => "curried"
  | tupled => "tupled"

/-- Asks for a transform of a contract that is held. -/
def request (bound : CurryBound) {arity : Nat} (handle : Handle arity) :
    Transform → Computation Address
  | curried => handle.curried bound
  | tupled => handle.tupled bound

theorem request_of_not_supported {bound : CurryBound} {arity : Nat}
    (unsupported : bound.supports arity = false) (handle : Handle arity) (transform : Transform) :
    transform.request bound handle = refuse transform.operation arity := by
  cases transform with
  | curried => exact handle.curried_of_not_supported unsupported
  | tupled => exact handle.tupled_of_not_supported unsupported

theorem request_agree {narrow wide : CurryBound} (wider : narrow.limit ≤ wide.limit) {arity : Nat}
    (supported : narrow.supports arity = true) {handle : Handle arity}
    (curriable : handle.Curriable narrow) (transform : Transform) :
    (transform.request narrow handle).Agree narrow (fun _ => True)
      (transform.request wide handle) := by
  cases transform with
  | curried => exact Handle.curried_agree wider supported curriable
  | tupled => exact Handle.tupled_agree wider supported curriable

/-- A request for a transform of a contract that is held is answered with this refusal. -/
def Refused (transform : Transform) (bound : CurryBound) {arity : Nat} (handle : Handle arity)
    (world : World) (refusal : Unsupported) : Prop :=
  ∃ after, transform.request bound handle world = .finished (.error (.unsupported refusal)) after

section Refusals

variable {bound : CurryBound} {arity : Nat} {world after : World} {refusal : Unsupported}

/-- Nothing is refused up to the bound, though an object that is missing is not answered for. -/
theorem request_of_supports (supported : bound.supports arity = true) (handle : Handle arity)
    (transform : Transform) :
    transform.request bound handle world ≠ .finished (.error (.unsupported refusal)) after := by
  intro refused
  cases handle with
  | object address =>
    cases transform with
    | curried => cases refused
    | tupled =>
      rw [request, Handle.tupled] at refused
      cases found : world.functions[address]? with
      | none =>
        have missing : Computation.lookup address world = .unanswered := by
          rw [Computation.lookup, found]
        rw [Computation.bind_of_unanswered missing] at refused
        cases refused
      | some contract =>
        rw [Computation.bind_of_ok (Computation.lookup_eq_iff.mpr found)] at refused
        cases refused
  | wide contract =>
    cases transform with
    | curried =>
      rw [request, Handle.curried, if_pos supported] at refused
      cases refused
    | tupled =>
      rw [request, Handle.tupled, if_pos supported] at refused
      cases refused

/-- A request is refused with the name of the transform and the number of parameters, and nothing
happens in the world but that this is noted. -/
theorem request_refused_iff {handle : Handle arity} (transform : Transform) :
    transform.request bound handle world = .finished (.error (.unsupported refusal)) after ↔
      bound.supports arity = false ∧ refusal = ⟨transform.operation, arity⟩ ∧
        after = world.noting [.refused refusal] := by
  cases supported : bound.supports arity with
  | true => exact iff_of_false (request_of_supports supported handle transform) (by simp)
  | false =>
    rw [request_of_not_supported supported]
    constructor
    · intro refused
      cases refused
      exact ⟨rfl, rfl, World.record_eq_noting _ _⟩
    · rintro ⟨-, rfl, rfl⟩
      exact congrArg (Outcome.finished _) (World.record_eq_noting _ _)

/-- A transform is refused above the bound only, and by its own name. -/
theorem refused_iff {handle : Handle arity} (transform : Transform) :
    transform.Refused bound handle world refusal ↔
      bound.limit < arity ∧ refusal = ⟨transform.operation, arity⟩ := by
  simp only [Refused, request_refused_iff, exists_and_left, exists_eq, and_true,
    handle.supports_eq_false_iff]

/-- What the standard bound refuses is refused under the raised one if it is for one of the widest
contracts, and only then. -/
theorem refused_raised_iff {handle : Handle arity} (transform : Transform)
    (refused : transform.Refused .standard handle world refusal) (other : Unsupported) :
    transform.Refused .raised handle world other ↔ arity = 22 ∧ other = refusal := by
  obtain ⟨_, rfl⟩ := transform.refused_iff.mp refused
  have few : arity ≤ 22 := handle.arity_bounds.2
  have widest : 21 < arity ↔ arity = 22 := by omega
  rw [transform.refused_iff, ← widest, CurryBound.limit]

end Refusals

end Transform

end Erasure
