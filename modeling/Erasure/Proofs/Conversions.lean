/-
This file proves how often values are converted. Over the bridge a specialized function
unboxes every primitive argument once before its body runs and boxes a primitive result
once after that. Called directly it converts nothing. What stands between a caller and the
function, be it pointers, a tupled form or the links of a curried form, converts nothing
either, and a pipeline converts what its stages do. The conversions that a body asks for
itself are its own and are the same on all paths.
-/

import Erasure.Proofs.Composition
import Erasure.Proofs.Links
import Erasure.Proofs.Logging
import Erasure.Proofs.Soundness
import Mathlib.Algebra.GroupWithZero.Nat

namespace Erasure

/-! ### Counting -/

namespace Event

theorem countP_isUnboxing_unboxings (declared : List Kind) :
    (unboxings declared).countP isUnboxing = declared.countP Kind.isPrimitive := by
  rw [unboxings, List.countP_map, List.countP_eq_length_filter (l := declared)]
  exact List.countP_eq_length.mpr fun _ _ => rfl

theorem countP_isBoxing_unboxings (declared : List Kind) :
    (unboxings declared).countP isBoxing = 0 := by
  rw [unboxings, List.countP_map]
  exact List.countP_eq_zero.mpr fun _ _ => Bool.false_ne_true

end Event

namespace World

theorem unboxings_eq (world : World) :
    world.unboxings = world.trace.toList.countP Event.isUnboxing :=
  Array.countP_toList.symm

theorem boxings_eq (world : World) :
    world.boxings = world.trace.toList.countP Event.isBoxing :=
  Array.countP_toList.symm

end World

/-- A signature that a contract can have unboxes whatever it does not declare erased. -/
theorem Signature.unboxCount_of_validate {signature : Signature}
    (valid : signature.validate = .ok ()) :
    signature.unboxCount = signature.params.countP (· ≠ .erased) := by
  have notVoid : signature.params.findIdx? Kind.isVoid = none := by
    rw [validate] at valid
    split at valid
    · cases valid
    · split at valid
      · cases valid
      · assumption
  rw [List.findIdx?_eq_none_iff] at notVoid
  refine List.countP_congr fun kind member => ?_
  have proper := notVoid kind member
  cases kind <;> simp_all [Kind.isPrimitive, Kind.isVoid]

/-! ### Calls over the bridge -/

namespace Specialized

variable {arity : Nat} {function : Specialized arity}

/-- What is converted in a call with values that all fit, next to the direct call on what they hold:
all primitive arguments before the body runs, and the result after it if there is one. Between the
two stands what the body asks for itself, in either call. -/
def ConvertsAll (function : Specialized arity) (world : World)
    (direct : Outcome (Except Failure function.result.Carrier)) (bridge : Outcome Value) : Prop :=
  (direct = .unanswered ∧ bridge = .unanswered) ∨
    ∃ answer last after own,
      direct = .finished (.ok answer) last ∧
      last.trace.toList = world.trace.toList ++ .began function.label :: own ∧
      bridge = .finished (function.carried answer) after ∧
      after.trace.toList = world.trace.toList ++ Event.unboxings function.signature.params ++
        .began function.label :: own ++ function.boxings answer ∧
      after.unboxings = last.unboxings + function.signature.unboxCount ∧
      after.boxings = last.boxings + if answer.isOk then function.signature.boxCount else 0

/-- What is converted in a call whose value at the given position is the first that does not fit:
the primitive arguments up to there, the last of which fails. -/
def ConvertsUpTo (function : Specialized arity) (world : World) (position : Nat)
    (mismatch : KindMismatch) (bridge : Outcome Value) : Prop :=
  ∃ after, bridge = .finished (.error (.kindMismatch mismatch)) after ∧
    after.trace.toList = world.trace.toList ++
      Event.unboxings (function.signature.params.take position) ++ [.unboxingFailed mismatch] ∧
    after.unboxings = world.unboxings +
      (function.signature.params.take (position + 1)).countP Kind.isPrimitive ∧
    after.boxings = world.boxings

/-- A call with values converts what the signature of the function says, and no more than that. -/
structure ConvertsExactly (call : CallRule) (function : Specialized arity)
    (arguments : Row Value arity) (world : World) (bridge : Outcome Value) : Prop where
  fits : Kind.TakeAll function.signature.params (arguments.toList.map Value.kind) →
    ∃ natives : NativeArguments function.params, natives.boxed = arguments ∧
      function.ConvertsAll world (function.callNative call natives world) bridge
  misfit : ∀ position mismatch,
    FirstMismatch function.signature.params (arguments.toList.map Value.kind) position mismatch →
      function.ConvertsUpTo world position mismatch bridge

theorem countP_isUnboxing_boxings (function : Specialized arity)
    (answer : Except Failure function.result.Carrier) :
    (function.boxings answer).countP Event.isUnboxing = 0 := by
  cases answer with
  | ok native =>
    rw [boxings]
    split <;> rfl
  | error failure => rfl

theorem countP_isBoxing_boxings (function : Specialized arity)
    (answer : Except Failure function.result.Carrier) :
    (function.boxings answer).countP Event.isBoxing =
      if answer.isOk then function.signature.boxCount else 0 := by
  cases answer with
  | ok native =>
    show _ = if function.result.kind.isPrimitive then 1 else 0
    rw [boxings]
    split <;> rfl
  | error failure => rfl

theorem Agree.convertsAll {world : World}
    {direct : Outcome (Except Failure function.result.Carrier)} {bridge : Outcome Value}
    (agree : function.Agree world direct bridge) : function.ConvertsAll world direct bridge := by
  rcases agree with stuck | ⟨answer, after, during, endedDirect, endedBridge⟩
  · exact Or.inl stuck
  · refine Or.inr ⟨answer, _, _, during, endedDirect, rfl, endedBridge, rfl, ?_, ?_⟩
    · simp only [World.unboxings_eq, World.trace_withTrace, List.countP_append,
        Event.countP_isUnboxing_unboxings, countP_isUnboxing_boxings, Signature.unboxCount]
      omega
    · simp only [World.boxings_eq, World.trace_withTrace, List.countP_append,
        Event.countP_isBoxing_unboxings, countP_isBoxing_boxings]
      omega

/-- What does not fit is declared primitive, as nothing else is ever refused. -/
theorem isPrimitive_of_firstMismatch {arguments : Row Value arity} {position : Nat}
    {mismatch : KindMismatch} (first : FirstMismatch function.signature.params
      (arguments.toList.map Value.kind) position mismatch) :
    mismatch.expected.isPrimitive = true := by
  obtain ⟨type, _, declared⟩ := List.mem_map.mp (List.mem_of_getElem? first.expected)
  have notVoid : mismatch.expected ≠ .void := declared ▸ type.kind_ne_void
  exact Kind.isPrimitive_of_ne notVoid fun erased => first.refused (Or.inl erased)

theorem convertsUpTo_of_firstMismatch (call : CallRule) {arguments : Row Value arity}
    {position : Nat} {mismatch : KindMismatch} (first : FirstMismatch function.signature.params
      (arguments.toList.map Value.kind) position mismatch) (world : World) :
    function.ConvertsUpTo world position mismatch (function.apply call arguments world) := by
  have attempts : (function.signature.params.take (position + 1)).countP Kind.isPrimitive =
      (function.signature.params.take position).countP Kind.isPrimitive + 1 := by
    rw [List.take_add_one, first.expected, List.countP_append]
    simp [isPrimitive_of_firstMismatch first]
  refine ⟨_, function.apply_of_firstMismatch call first world, ?_, ?_, ?_⟩
  · rw [World.trace_noting, List.append_assoc]
  · rw [World.unboxings_eq, World.unboxings_eq, World.trace_noting, List.countP_append,
      List.countP_append, Event.countP_isUnboxing_unboxings, attempts]
    rfl
  · rw [World.boxings_eq, World.boxings_eq, World.trace_noting, List.countP_append,
      List.countP_append, Event.countP_isBoxing_unboxings]
    rfl

theorem apply_convertsExactly {call : CallRule} (orderly : call.Orderly)
    (function : Specialized arity) (arguments : Row Value arity) (world : World) :
    function.ConvertsExactly call arguments world (function.apply call arguments world) where
  fits taken := by
    obtain ⟨natives, rfl⟩ := exists_boxed_of_takeAll taken
    exact ⟨natives, rfl, (function.apply_boxed_agree orderly natives world).convertsAll⟩
  misfit _ _ first := convertsUpTo_of_firstMismatch call first world

/-- A direct call of a function whose body only computes converts nothing. -/
theorem SelfContained.callNative_converts (alone : function.SelfContained) (call : CallRule)
    (natives : NativeArguments function.params) (world : World) :
    ∃ answer after, function.callNative call natives world = .finished (.ok answer) after ∧
      after.unboxings = world.unboxings ∧ after.boxings = world.boxings := by
  obtain ⟨answer, after, ended, noted⟩ := Program.run_of_isSelfContained (alone natives) call
    (world.noting [.began function.label])
  refine ⟨answer, after, (function.callNative_eq call natives world).trans ended, ?_, ?_⟩
  · rw [World.unboxings, noted, ← World.record_eq_noting]
    exact world.unboxings_record (.began function.label)
  · rw [World.boxings, noted, ← World.record_eq_noting]
    exact world.boxings_record (.began function.label)

end Specialized

/-! ### Ways to a function -/

/-- How a function can be reached from what is held: the arguments to call this with, and those for
the functions that are then returned one after the other. -/
inductive Specialized.Reached (bound : CurryBound) {arity : Nat} (function : Specialized arity)
    (arguments : Row Value arity) :
    World → {outer : Nat} → Handle outer → Row Value outer → List Value → Prop
  /-- The function itself is called with its arguments. -/
  | itself {world : World} {handle : Handle arity}
    (held : handle.Holds world (.leaf (.specialized function))) :
    Reached bound function arguments world handle arguments []
  /-- What was held before other objects came into the world. -/
  | earlier {world later : World} {outer : Nat} {handle : Handle outer} {given : Row Value outer}
    {rest : List Value} (reached : Reached bound function arguments world handle given rest)
    (extension : later.Extends world) : Reached bound function arguments later handle given rest
  /-- A pointer is called like what it points to. -/
  | forward {world after : World} {outer : Nat} {handle wrapped : Handle outer}
    {given : Row Value outer} {rest : List Value} {pointer : Pointer}
    (reached : Reached bound function arguments world handle given rest)
    (made : handle.forward pointer world = .finished (.ok wrapped) after) :
    Reached bound function arguments after wrapped given rest
  /-- A tupled form is given the arguments in a tuple. -/
  | tupled {world after : World} {outer : Nat} {handle : Handle outer} {given : Row Value outer}
    {rest : List Value} {object : Address}
    (reached : Reached bound function arguments world handle given rest)
    (made : handle.tupled bound world = .finished (.ok object) after) :
    Reached bound function arguments after (.object object) (.single (.tuple given.toList)) rest
  /-- A curried form is given the first argument, and its links the others. -/
  | curried {world after : World} {outer : Nat} {handle : Handle outer} {given : Row Value outer}
    {value : Value} {more rest : List Value} {object : Address}
    (reached : Reached bound function arguments world handle given rest)
    (made : handle.curried bound world = .finished (.ok object) after)
    (parts : given.toList = value :: more) :
    Reached bound function arguments after (.object object) (.single value) (more ++ rest)

namespace Specialized

variable {bound : CurryBound} {arity : Nat} {function : Specialized arity}
  {arguments : Row Value arity}

/-- However a function is reached, it is called once with its arguments after nothing but objects
have been made. -/
theorem Reached.calls {world : World} {outer : Nat} {handle : Handle outer}
    {given : Row Value outer} {rest : List Value}
    (reached : Reached bound function arguments world handle given rest) :
    ∃ contract, handle.Holds world contract ∧ ∀ now : World, ∃ made, ∀ rule : LeafRule,
      (contract.applyWith bound rule given >>= (callWith bound rule).onward rest) now =
        rule arity (.specialized function) arguments (now.making made) := by
  induction reached with
  | itself held =>
    refine ⟨_, held, fun now => ⟨[], fun rule => ?_⟩⟩
    rw [CallRule.onward_nil, bind_pure, World.making_nil]
    rfl
  | earlier reached extension inductionHypothesis =>
    obtain ⟨contract, held, calls⟩ := inductionHypothesis
    exact ⟨contract, held.of_extends extension, calls⟩
  | @forward world after outer handle wrapped given rest pointer reached made inductionHypothesis =>
    obtain ⟨contract, held, calls⟩ := inductionHypothesis
    obtain ⟨other, objects, forwarding, holds⟩ := Handle.forward_eq held pointer
    rw [forwarding] at made
    cases made
    exact ⟨_, holds, calls⟩
  | @tupled world after outer handle given rest object reached made inductionHypothesis =>
    obtain ⟨contract, held, calls⟩ := inductionHypothesis
    rw [Handle.tupled_eq held (Handle.supports_of_tupled made)] at made
    cases made
    refine ⟨_, Handle.holds_object_iff.mpr (world.functions_making_size _), fun now => ?_⟩
    obtain ⟨made, same⟩ := calls now
    refine ⟨made, fun rule => ?_⟩
    rw [Contract.applyWith_tupled_tuple]
    exact same rule
  | @curried world after outer handle given value more rest object reached made parts
      inductionHypothesis =>
    obtain ⟨contract, held, calls⟩ := inductionHypothesis
    have supported := Handle.supports_of_curried made
    obtain ⟨fewer, rfl⟩ := CurryBound.exists_succ_of_supports supported
    obtain ⟨other, objects, currying, found⟩ := Handle.curried_eq held supported
    rw [currying] at made
    cases made
    refine ⟨_, Handle.holds_object_iff.mpr found, fun now => ?_⟩
    obtain ⟨links, chained⟩ := contract.link_onward supported parts rest now
    obtain ⟨others, same⟩ := calls (now.making links)
    refine ⟨links ++ others, fun rule => ?_⟩
    rw [chained, same, World.making_making]

/-- However a function is reached, the conversions are those of its own call. -/
theorem Reached.convertsExactly {world : World} {outer : Nat} {handle : Handle outer}
    {given : Row Value outer} {rest : List Value}
    (reached : Reached bound function arguments world handle given rest) (depth : Nat)
    {now : World} (extension : now.Extends world) :
    ∃ made, function.ConvertsExactly (invoke bound depth) arguments (now.making made)
      ((handle.apply bound depth given >>= (invoke bound (depth + 1)).onward rest) now) := by
  obtain ⟨contract, held, calls⟩ := reached.calls
  obtain ⟨made, same⟩ := calls now
  refine ⟨made, ?_⟩
  have applied : handle.apply bound depth given now =
      contract.apply bound (invoke bound depth) given now :=
    Computation.bind_of_ok (held.of_extends extension) _
  rw [Computation.bind_eq_of_eq applied, invoke_succ]
  rw [Contract.apply, same]
  exact apply_convertsExactly (invoke_orderly bound depth) function arguments (now.making made)

end Specialized

/-! ### Pipelines -/

/-- Nothing that was noted is ever forgotten. -/
theorem Computation.Orderly.countP_le {α : Type} {computation : Computation α}
    (orderly : computation.Orderly) (counts : Event → Bool) {world after : World}
    {answer : Except Fault α} (ended : computation world = .finished answer after) :
    world.trace.countP counts ≤ after.trace.countP counts := by
  obtain ⟨during, noted, _⟩ := orderly.withTrace ended
  rw [← Array.countP_toList, ← Array.countP_toList, noted, World.trace_withTrace,
    List.countP_append]
  omega

/-- A function that a pipeline calls, with the value and the world it is called in. -/
structure Visit where
  function : Address
  value : Value
  before : World

namespace CallRule

variable {call : CallRule}

/-- The calls of a pipeline of functions, up to the first one that returns no result. -/
def visits (call : CallRule) : List Address → Value → World → List Visit
  | [], _, _ => []
  | function :: rest, value, world =>
    ⟨function, value, world⟩ ::
      match call function value world with
      | .finished (.ok between) after => call.visits rest between after
      | _ => []

/-- By how much a call raises a number of the world. -/
def raise (call : CallRule) (number : World → Nat) (visit : Visit) : Nat :=
  match call visit.function visit.value visit.before with
  | .finished _ after => number after - number visit.before
  | .unanswered => 0

/-- A pipeline calls its functions and keeps the objects. -/
theorem mem_visits (orderly : call.Orderly) {functions : List Address} {value : Value}
    {world : World} {visit : Visit} (visited : visit ∈ call.visits functions value world) :
    visit.function ∈ functions ∧ visit.before.Extends world := by
  induction functions generalizing value world with
  | nil => cases visited
  | cons function rest inductionHypothesis =>
    rcases List.mem_cons.mp visited with rfl | later
    · exact ⟨List.mem_cons_self, .refl world⟩
    · split at later
      · next between after ended =>
        obtain ⟨member, extension⟩ := inductionHypothesis later
        have kept := (orderly function value).keeps ended
        exact ⟨List.mem_cons_of_mem _ member, extension.trans kept⟩
      · cases later

/-- Events are counted in a pipeline as in the calls that it makes. -/
theorem pipeline_raises (orderly : call.Orderly) (counts : Event → Bool)
    {functions : List Address} {value : Value} {world after : World} {answer : Except Fault Value}
    (ended : pipeline (functions.map call) value world = .finished answer after) :
    after.trace.countP counts = world.trace.countP counts +
      ((call.visits functions value world).map
        (call.raise fun world => world.trace.countP counts)).sum := by
  induction functions generalizing value world with
  | nil =>
    cases ended
    rfl
  | cons function rest inductionHypothesis =>
    rw [List.map_cons, pipeline] at ended
    cases early : call function value world with
    | unanswered =>
      rw [Computation.bind_of_unanswered early] at ended
      cases ended
    | finished between middle =>
      have grown := (orderly function value).countP_le counts early
      have here : call.raise (fun world => world.trace.countP counts) ⟨function, value, world⟩ =
          middle.trace.countP counts - world.trace.countP counts := by
        rw [raise, early]
      cases between with
      | ok result =>
        rw [Computation.bind_of_ok early] at ended
        have onwards := inductionHypothesis ended
        have reached : call.visits (function :: rest) value world =
            ⟨function, value, world⟩ :: call.visits rest result middle := by
          rw [visits, early]
        rw [reached, List.map_cons, List.sum_cons, here]
        omega
      | error fault =>
        rw [Computation.bind_of_error early] at ended
        cases ended
        have reached : call.visits (function :: rest) value world =
            [⟨function, value, world⟩] := by
          rw [visits, early]
        rw [reached, List.map_cons, List.sum_cons, here, List.map_nil, List.sum_nil]
        omega

end CallRule

/-- Contracts that are found at addresses are called there. -/
theorem pipeline_callWith {bound : CurryBound} {rule : LeafRule} (orderly : rule.Orderly)
    {contractAt : Address → Contract 1} {functions : List Address} {now : World}
    (present : ∀ function ∈ functions, now.functions[function]? = some (contractAt function))
    (value : Value) :
    pipeline (functions.map (callWith bound rule)) value now =
      pipeline ((functions.map contractAt).map (Contract.stage bound rule)) value now := by
  induction functions generalizing value now with
  | nil => rfl
  | cons function rest inductionHypothesis =>
    obtain ⟨found, others⟩ := List.forall_mem_cons.mp present
    have called : callWith bound rule function value now =
        (contractAt function).stage bound rule value now := callWith_eq found value
    simp only [List.map_cons, pipeline]
    rw [← Computation.bind_eq_of_eq called]
    cases ended : callWith bound rule function value now with
    | unanswered =>
      rw [Computation.bind_of_unanswered ended, Computation.bind_of_unanswered ended]
    | finished answer after =>
      cases answer with
      | error fault => rw [Computation.bind_of_error ended, Computation.bind_of_error ended]
      | ok between =>
        -- The other functions are still there, as the first one kept all objects.
        have kept := (callWith_orderly orderly function value).keeps ended
        rw [Computation.bind_of_ok ended, Computation.bind_of_ok ended]
        exact inductionHypothesis (fun other member => kept.functions_eq (others other member))
          between

namespace Composition

variable {bound : CurryBound} {tree : Composition} {contractAt : Address → Contract 1}
  {function : Address} {now : World}

/-- The functions that were put together are still there. -/
theorem IsBuilt.present (built : tree.IsBuilt contractAt function now) :
    tree.Present contractAt now := by
  obtain ⟨world, after, present, building, extension⟩ := built
  obtain ⟨other, made, expected, _⟩ := build_eq present
  rw [expected] at building
  cases building
  exact present.of_extends (extension.trans (world.making_extends made))

theorem IsBuilt.raises (built : tree.IsBuilt contractAt function now) (counts : Event → Bool)
    {depth : Nat} {value : Value} {answer : Except Fault Value} {after : World}
    (ended : invoke bound (depth + 1) function value now = .finished answer after) :
    after.trace.countP counts = now.trace.countP counts +
      (((invoke bound (depth + 1)).visits tree.stages value now).map
        ((invoke bound (depth + 1)).raise fun world => world.trace.countP counts)).sum := by
  have orderly := Leaf.apply_orderly (invoke_orderly bound depth)
  rw [invoke_succ, built.callWith_eq, ← pipeline_callWith orderly built.present] at ended
  exact CallRule.pipeline_raises (invoke_orderly bound (depth + 1)) counts ended

end Composition

/-! ### All conversions -/

/-- A signature says how many conversions are made. A call with values makes those it says, be it
that the values fit or not. A direct call makes none of its own, and none at all if the body only
computes. However a specialized function is reached, nothing changes in this, and the calls of a
curried form that lack an argument convert nothing. A composition makes the conversions of the calls
of its stages, up to the first one that returns no result, and none between them. Of a valid
signature every parameter is unboxed that is not erased. -/
theorem Specialized.converts_exactly (bound : CurryBound) (depth : Nat) :
    (∀ {arity : Nat} (function : Specialized arity),
      (∀ arguments world, function.ConvertsExactly (invoke bound depth) arguments world
        (function.apply (invoke bound depth) arguments world)) ∧
      (∀ natives,
        (function.applyNative (invoke bound depth)).onArguments natives =
          function.callNative (invoke bound depth) natives ∧
        (∀ world,
          function.callNative (invoke bound depth) natives world =
            (function.body.closure.onArguments natives).run (invoke bound depth)
              (world.record (.began function.label)) ∧
          (world.record (.began function.label)).unboxings = world.unboxings ∧
          (world.record (.began function.label)).boxings = world.boxings) ∧
        (function.SelfContained → ∀ world, ∃ answer after,
          function.callNative (invoke bound depth) natives world = .finished (.ok answer) after ∧
          after.unboxings = world.unboxings ∧ after.boxings = world.boxings)) ∧
      ∀ arguments world outer (handle : Handle outer) given rest,
        function.Reached bound arguments world handle given rest →
        ∀ now : World, now.Extends world →
          ∃ made, function.ConvertsExactly (invoke bound depth) arguments (now.making made)
            ((handle.apply bound depth given >>= (invoke bound (depth + 1)).onward rest) now)) ∧
    (∀ {arity : Nat} {handle : Handle arity} {contract : Contract arity} {world after : World}
      {object : Address}, handle.Holds world contract →
      handle.curried bound world = .finished (.ok object) after →
      ∀ (now : World) (values : List Value), now.Extends after → values.length < arity →
        ∃ link last,
          (invoke bound (depth + 1)).chain object values now = .finished (.ok (.func link)) last ∧
          last.unboxings = now.unboxings ∧ last.boxings = now.boxings) ∧
    (∀ {tree : Composition} {contractAt : Address → Contract 1} {object : Address} {now : World},
      tree.IsBuilt contractAt object now → ∀ value,
        (∀ visit ∈ (invoke bound (depth + 1)).visits tree.stages value now,
          visit.function ∈ tree.stages ∧ visit.before.Extends now) ∧
        ∀ answer after, invoke bound (depth + 1) object value now = .finished answer after →
          after.unboxings = now.unboxings +
            (((invoke bound (depth + 1)).visits tree.stages value now).map
              ((invoke bound (depth + 1)).raise World.unboxings)).sum ∧
          after.boxings = now.boxings +
            (((invoke bound (depth + 1)).visits tree.stages value now).map
              ((invoke bound (depth + 1)).raise World.boxings)).sum) ∧
    ∀ signature : Signature, signature.validate = .ok () →
      signature.unboxCount = signature.params.countP (· ≠ .erased) := by
  refine ⟨fun function => ⟨?_, fun natives => ⟨rfl, fun world => ?_, fun alone => ?_⟩, ?_⟩, ?_, ?_,
    fun signature => Signature.unboxCount_of_validate⟩
  · exact function.apply_convertsExactly (invoke_orderly bound depth)
  · refine ⟨?_, world.unboxings_record _, world.boxings_record _⟩
    rw [World.record_eq_noting]
    exact function.callNative_eq _ natives world
  · exact alone.callNative_converts _ natives
  · exact fun arguments world outer handle given rest reached now extension =>
      reached.convertsExactly depth extension
  · intro arity handle contract world after object held curried now values extension short
    obtain ⟨missing, rfl⟩ : ∃ missing, arity = missing + values.length + 1 :=
      ⟨arity - values.length - 1, by omega⟩
    obtain ⟨link, made, chained, _⟩ := chain_of_curried held curried extension
    exact ⟨link, _, chained _, rfl, rfl⟩
  · intro tree contractAt object now built value
    refine ⟨fun visit => CallRule.mem_visits (invoke_orderly bound (depth + 1)), ?_⟩
    intro answer after ended
    exact ⟨built.raises Event.isUnboxing ended, built.raises Event.isBoxing ended⟩

/-- The difference of two integers tries two unboxings if the second one is a truth value, also
where both are given in a tuple, and none if it is called directly or curried and still lacks the
second one. Followed by the square it unboxes three times and boxes twice. -/
theorem Specialized.converts_exactly_subI32 :
    ∃ difference object function : Address, ∃ now : World,
      (∃ after,
        (Handle.object difference).apply .standard 0 (.single (.tuple [.i32 5, .bool true])) now =
          .finished (.error (.kindMismatch ⟨.i32, .bool⟩)) after ∧
        after.unboxings = 2 ∧ after.boxings = 0) ∧
      (∃ answer after,
        (Catalog.subI32 "difference").callNative (invoke .standard 0)
          (.cons (5 : Int32) (.cons (3 : Int32) .nil)) now = .finished (.ok answer) after ∧
        after.unboxings = 0 ∧ after.boxings = 0) ∧
      (∃ link last,
        (invoke .standard 1).chain function [.i32 5] now = .finished (.ok (.func link)) last ∧
        last.unboxings = 0 ∧ last.boxings = 0) ∧
      (∃ after,
        invoke .standard 1 object (.tuple [.i32 5, .i32 3]) now =
          .finished (.ok (.i32 4)) after ∧
        after.unboxings = 3 ∧ after.boxings = 2) ∧
      Signature.unboxCount ⟨[.i32, .erased], .void⟩ = 1 := by
  obtain ⟨calls, links, compositions, signatures⟩ := converts_exactly .standard 0
  let pairs : Contract 1 := .tupled (.leaf (.specialized (Catalog.subI32 "difference")))
  let square : Contract 1 := .leaf (.specialized (Catalog.squareI32 "square"))
  let curried : Contract 1 := .curried (.leaf (.specialized (Catalog.subI32 "difference")))
  let now := World.making {} [pairs, square, .sequence pairs square, curried]
  have held (world : World) :
      (Handle.wide (.leaf (.specialized (Catalog.subI32 "difference")))).Holds world
        (.leaf (.specialized (Catalog.subI32 "difference"))) := rfl
  refine ⟨0, 2, 3, now, ?_, ?_, ?_, ?_, ?_⟩
  · have reached : (Catalog.subI32 "difference").Reached .standard (.pair (.i32 5) (.bool true))
        (World.making {} [pairs]) (.object 0) (.single (.tuple [.i32 5, .bool true])) [] :=
      .tupled (.itself (held {})) rfl
    obtain ⟨made, exactly⟩ := (calls _).2.2 _ _ _ _ _ _ reached now ⟨_, rfl⟩
    obtain ⟨after, ended, _, unboxings, boxings⟩ :=
      exactly.misfit 1 ⟨.i32, .bool⟩ (.tail (Or.inr rfl) (.head (by decide)))
    cases ended
    exact ⟨_, rfl, unboxings, boxings⟩
  · obtain ⟨answer, after, ended, unboxings, boxings⟩ :=
      ((calls (Catalog.subI32 "difference")).2.1 (.cons (5 : Int32) (.cons (3 : Int32) .nil))).2.2
        (fun | .cons _ (.cons _ .nil) => trivial) now
    exact ⟨answer, after, ended, unboxings, boxings⟩
  · exact links (held (World.making {} [pairs, square, .sequence pairs square])) rfl now [.i32 5]
      (.refl now) (by decide)
  · have built : Composition.IsBuilt (.andThen (.single 0) (.single 1))
        (fun function => if function = 0 then pairs else square) 2 now := by
      refine ⟨World.making {} [pairs, square], _, ?_, rfl, ⟨[curried], rfl⟩⟩
      simp [Composition.Present, Composition.stages, World.making]
    obtain ⟨unboxings, boxings⟩ := (compositions built (.tuple [.i32 5, .i32 3])).2 _ _ rfl
    refine ⟨_, rfl, unboxings.trans ?_, boxings.trans ?_⟩ <;> decide +kernel
  · exact signatures _ rfl

end Erasure
