/-
This file proves that the trace of a world is only ever written at its end and never
read, and that objects are only ever added. A computation with these two properties is
called orderly. What an orderly computation answers in a world is therefore what it
answers in any other world that differs from it by the trace alone, and it notes the
same events in both. All calls of contracts are orderly, for every depth of nested
calls, since everything they are put together from is.
-/

import Erasure.Proofs.Congruence
import Erasure.Proofs.Objects

namespace Erasure

/-! ### Worlds that differ by their trace -/

namespace World

/-- The world with another trace. -/
def withTrace (world : World) (events : List Event) : World :=
  { world with trace := events.toArray }

/-- The world after some events were noted. -/
def noting (world : World) (events : List Event) : World :=
  world.withTrace (world.trace.toList ++ events)

/-- The world with events that were noted before those of its own trace. -/
def precededBy (earlier : List Event) (world : World) : World :=
  world.withTrace (earlier ++ world.trace.toList)

@[simp]
theorem trace_withTrace (world : World) (events : List Event) :
    (world.withTrace events).trace.toList = events := rfl

@[simp]
theorem withTrace_withTrace (world : World) (first second : List Event) :
    (world.withTrace first).withTrace second = world.withTrace second := rfl

theorem withTrace_self (world : World) : world.withTrace world.trace.toList = world := by
  rw [withTrace, Array.toArray_toList]

@[simp]
theorem withTrace_noting (world : World) (trace events : List Event) :
    (world.withTrace trace).noting events = world.withTrace (trace ++ events) := rfl

@[simp]
theorem trace_noting (world : World) (events : List Event) :
    (world.noting events).trace.toList = world.trace.toList ++ events := rfl

@[simp]
theorem noting_nil (world : World) : world.noting [] = world := by
  rw [noting, List.append_nil, withTrace_self]

/-- Events that are noted one group after the other are noted together. -/
@[simp]
theorem noting_noting (world : World) (first second : List Event) :
    (world.noting first).noting second = world.noting (first ++ second) := by
  simp only [noting, trace_withTrace, withTrace_withTrace, List.append_assoc]

/-- Recording an event is noting it by itself. -/
theorem record_eq_noting (world : World) (event : Event) :
    world.record event = world.noting [event] := by
  rw [record, noting, withTrace, Array.push_eq_append, List.append_toArray,
    Array.toArray_toList]

theorem precededBy_withTrace (world : World) (earlier events : List Event) :
    (world.withTrace events).precededBy earlier = world.withTrace (earlier ++ events) := rfl

/-- Events are noted behind all earlier ones, so that it does not matter which were first put in
front. -/
theorem precededBy_noting (world : World) (earlier events : List Event) :
    (world.noting events).precededBy earlier = (world.precededBy earlier).noting events := by
  simp only [precededBy, noting, trace_withTrace, withTrace_withTrace, List.append_assoc]

end World

/-- An outcome in a world with events that were noted earlier. -/
def Outcome.precededBy {α : Type} (earlier : List Event) : Outcome α → Outcome α
  | .finished answer after => .finished answer (after.precededBy earlier)
  | .unanswered => .unanswered

/-! ### Orderly computations -/

namespace Computation

variable {α β : Type}

/-- A computation is orderly if it never looks at the trace, adds to it only at its end, and
keeps all objects. -/
structure Orderly (computation : Computation α) : Prop where
  /-- Events that were noted earlier have no influence and stay where they are. -/
  blind : ∀ earlier world,
    computation (world.precededBy earlier) = (computation world).precededBy earlier
  /-- Objects are only added. -/
  keeps : ∀ {world answer after}, computation world = .finished answer after →
    after.Extends world

/-- What an orderly computation does is settled by what it does when nothing was noted before. -/
theorem Orderly.fromNothing {computation : Computation α} (orderly : computation.Orderly)
    (world : World) (trace : List Event) : computation (world.withTrace trace) =
      (computation (world.withTrace [])).precededBy trace := by
  rw [← orderly.blind, World.precededBy_withTrace, List.append_nil]

/-- An orderly computation that was seen to end notes certain events, and it ends in the same way
whatever was noted before them. -/
theorem Orderly.withTrace {computation : Computation α} (orderly : computation.Orderly)
    {world after : World} {answer : Except Fault α}
    (ended : computation world = .finished answer after) :
    ∃ during, after = after.withTrace (world.trace.toList ++ during) ∧ ∀ trace,
      computation (world.withTrace trace) =
        .finished answer (after.withTrace (trace ++ during)) := by
  have inWorld := orderly.fromNothing world world.trace.toList
  rw [World.withTrace_self, ended] at inWorld
  cases alone : computation (world.withTrace []) with
  | unanswered =>
    rw [alone] at inWorld
    cases inWorld
  | finished otherAnswer lone =>
    rw [alone] at inWorld
    injection inWorld with sameAnswer sameWorld
    refine ⟨lone.trace.toList, ?_, fun trace => ?_⟩
    · rw [sameWorld]
      rfl
    · rw [orderly.fromNothing, alone, sameAnswer, sameWorld]
      rfl

/-- An orderly computation that gives no answer gives none whatever was noted before. -/
theorem Orderly.withTrace_of_unanswered {computation : Computation α}
    (orderly : computation.Orderly) {world : World} (stuck : computation world = .unanswered)
    (trace : List Event) : computation (world.withTrace trace) = .unanswered := by
  have inWorld := orderly.fromNothing world world.trace.toList
  rw [World.withTrace_self, stuck] at inWorld
  cases alone : computation (world.withTrace []) with
  | unanswered =>
    rw [orderly.fromNothing, alone]
    rfl
  | finished answer lone =>
    rw [alone] at inWorld
    cases inWorld

/-! ### What orderly computations are put together from -/

theorem Orderly.pure (result : α) : Orderly (pure result : Computation α) where
  blind _ _ := rfl
  keeps ended := by
    cases ended
    exact .refl _

/-- One orderly computation after the other is orderly. -/
theorem Orderly.bind {computation : Computation α} {next : α → Computation β}
    (first : computation.Orderly) (second : ∀ result, (next result).Orderly) :
    (computation >>= next).Orderly where
  blind earlier world := by
    cases ended : computation world with
    | unanswered =>
      have elsewhere := first.blind earlier world
      rw [ended] at elsewhere
      rw [bind_of_unanswered ended, bind_of_unanswered elsewhere]
      rfl
    | finished answer after =>
      have elsewhere := first.blind earlier world
      rw [ended] at elsewhere
      cases answer with
      | ok result =>
        rw [bind_of_ok ended, bind_of_ok elsewhere]
        exact (second result).blind earlier after
      | error fault =>
        rw [bind_of_error ended, bind_of_error elsewhere]
        rfl
  keeps {world answer last} ended := by
    cases early : computation world with
    | unanswered =>
      rw [bind_of_unanswered early] at ended
      cases ended
    | finished between after =>
      cases between with
      | ok result =>
        rw [bind_of_ok early] at ended
        exact ((second result).keeps ended).trans (first.keeps early)
      | error fault =>
        rw [bind_of_error early] at ended
        cases ended
        exact first.keeps early

theorem Orderly.fail (fault : Fault) : (fail fault : Computation α).Orderly where
  blind _ _ := rfl
  keeps ended := by
    cases ended
    exact .refl _

theorem Orderly.unanswered : (unanswered : Computation α).Orderly where
  blind _ _ := rfl
  keeps ended := by cases ended

/-- A fault that is caught has left the world as an orderly computation does. -/
theorem Orderly.attempt {computation : Computation α} (orderly : computation.Orderly) :
    computation.attempt.Orderly where
  blind earlier world := by
    unfold Computation.attempt
    rw [orderly.blind]
    cases computation world <;> rfl
  keeps {world answer last} ended := by
    unfold Computation.attempt at ended
    cases early : computation world with
    | unanswered =>
      rw [early] at ended
      cases ended
    | finished between after =>
      rw [early] at ended
      cases ended
      exact orderly.keeps early

theorem Orderly.record (event : Event) : (record event).Orderly where
  blind earlier world := by
    unfold Computation.record
    rw [World.record_eq_noting, World.record_eq_noting, ← World.precededBy_noting]
    rfl
  keeps ended := by
    cases ended
    exact .refl _

/-- A question about anything but the trace is orderly. -/
theorem Orderly.ask {question : World → α}
    (unaware : ∀ earlier world, question (world.precededBy earlier) = question world) :
    (ask question).Orderly where
  blind earlier world := by
    unfold Computation.ask
    rw [unaware]
    rfl
  keeps ended := by
    cases ended
    exact .refl _

theorem Orderly.writeCell (cell : Address) (value : Value) :
    (change fun world => world.writeCell cell value).Orderly where
  blind _ _ := rfl
  keeps ended := by
    cases ended
    exact .refl _

/-- A new object is added behind all the others. -/
theorem Orderly.allocate (contract : Contract 1) : (allocate contract).Orderly where
  blind _ _ := rfl
  keeps ended := by
    cases ended
    exact ⟨[contract], Array.toList_push⟩

/-- Which function stands at an address does not depend on what was noted. -/
theorem Orderly.lookup (address : Address) : (lookup address).Orderly where
  blind earlier world := by
    have same : (world.precededBy earlier).functions = world.functions := rfl
    unfold Computation.lookup
    rw [same]
    cases world.functions[address]? <;> rfl
  keeps {world answer last} ended := by
    unfold Computation.lookup at ended
    cases found : world.functions[address]? <;> rw [found] at ended <;> cases ended
    exact .refl _

/-- Being orderly goes through everything that calls of leaves are put together from. -/
theorem Orderly.congruence : Congruence fun _ computation _ => computation.Orderly where
  pure := .pure
  fail := .fail
  bind := .bind
  attempt := .attempt
  record := .record
  describe _ := .ask fun _ _ => rfl
  readCell _ := .ask fun _ _ => rfl
  writeCell := .writeCell

end Computation

/-! ### Calls -/

/-- A rule for calls is orderly if every call is. -/
def CallRule.Orderly (call : CallRule) : Prop :=
  ∀ function argument, (call function argument).Orderly

/-- A rule for leaves is orderly if every call of a leaf is. -/
def LeafRule.Orderly (rule : LeafRule) : Prop :=
  ∀ arity function arguments, (rule arity function arguments).Orderly

/-- A program runs orderly if the functions that it calls do. -/
theorem Program.run_orderly {α : Type} {call : CallRule} (orderly : call.Orderly)
    (program : Program α) : (program.run call).Orderly :=
  @Computation.Orderly.congruence.run _ call call orderly _ program

/-- Leaves are called orderly if the functions that their bodies call are. -/
theorem Leaf.apply_orderly {call : CallRule} (orderly : call.Orderly) :
    LeafRule.Orderly fun _ function arguments => function.apply call arguments :=
  fun _ => @Computation.Orderly.congruence.leaf _ call call orderly _

theorem refuse_orderly {α : Type} (operation : String) (arity : Nat) :
    (refuse operation arity : Computation α).Orderly :=
  .bind (.record _) fun _ => .fail _

theorem Handle.share_orderly {fewer : Nat} (contract : Contract (fewer + 1)) :
    (Handle.share contract).Orderly := by
  cases fewer with
  | zero => exact .bind (.allocate contract) fun _ => .pure _
  | succ fewer => exact .pure _

theorem Handle.curried_orderly (bound : CurryBound) {arity : Nat} (handle : Handle arity) :
    (handle.curried bound).Orderly := by
  cases handle with
  | object address => exact .pure _
  | wide contract =>
    rw [Handle.curried]
    split
    · exact .allocate _
    · exact refuse_orderly _ _

/-- A contract is called orderly if its leaves are. -/
theorem Contract.applyWith_orderly {bound : CurryBound} {rule : LeafRule}
    (orderly : rule.Orderly) {arity : Nat} (contract : Contract arity)
    (arguments : Row Value arity) : (contract.applyWith bound rule arguments).Orderly := by
  induction contract with
  | leaf function => exact orderly _ function arguments
  | forward pointer inner inductionHypothesis => exact inductionHypothesis arguments
  | sequence first second firstOrderly secondOrderly =>
    exact .bind (firstOrderly arguments) fun _ => secondOrderly _
  | @tupled arity inner inductionHypothesis =>
    obtain _ | ⟨value, _ | _⟩ := arguments
    rw [applyWith]
    cases argumentsOfTuple arity value with
    | ok items => exact inductionHypothesis items
    | error fault => exact .fail fault
  | curried inner =>
    obtain _ | ⟨value, _ | _⟩ := arguments
    exact .bind (Handle.share_orderly _) fun rest =>
      .bind (rest.curried_orderly bound) fun _ => .pure _
  | bound inner first inductionHypothesis => exact inductionHypothesis (.cons first arguments)

/-- All calls are orderly, however deeply bodies may call each other. -/
theorem invoke_orderly (bound : CurryBound) (depth : Nat) : (invoke bound depth).Orderly := by
  induction depth with
  | zero => exact fun _ _ => .unanswered
  | succ depth inductionHypothesis =>
    exact fun function argument => .bind (.lookup function) fun contract =>
      contract.applyWith_orderly (Leaf.apply_orderly inductionHypothesis) _

end Erasure
