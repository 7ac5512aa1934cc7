/-
This file proves that calling a specialized function with values comes to the same as
calling its body directly. If every value has the kind of its position, the body runs
once on the native things that the values hold, and what it answers is what the direct
call answers, boxed or turned into a fault of the call. Otherwise the body does not run
and the leftmost misfit is the answer. The two calls may differ in nothing but the
conversions that the bridge notes in the trace.
-/

import Erasure.Proofs.Mismatch
import Erasure.Proofs.Trace

namespace Erasure

/-! ### Conversions -/

/-- The unboxings at positions that are declared with the given kinds, all of which succeed. -/
def Event.unboxings (declared : List Kind) : List Event :=
  (declared.filter Kind.isPrimitive).map .unboxed

theorem Event.unboxings_append (first second : List Kind) :
    unboxings (first ++ second) = unboxings first ++ unboxings second := by
  rw [unboxings, List.filter_append, List.map_append, unboxings, unboxings]

theorem Event.began_not_mem_unboxings (label : String) (declared : List Kind) :
    Event.began label ∉ unboxings declared := by
  simp [unboxings]

namespace NativeType

/-- Whatever its type, a boxed native thing fits a position of that type. -/
theorem takes_kind_box (type : NativeType) (native : type.Carrier) :
    type.kind.Takes (type.box native).kind := by
  cases type with
  | generic => exact Or.inl rfl
  | _ => exact Or.inr rfl

/-- A value out of which nothing can be taken does not fit, and its kind is what is reported. -/
theorem not_takes_of_unbox_error {type : NativeType} {value : Value} {mismatch : KindMismatch}
    (failed : type.unbox value = .error mismatch) :
    ¬ type.kind.Takes value.kind ∧ mismatch = ⟨type.kind, value.kind⟩ := by
  cases type <;> cases value <;> cases failed <;> simp [Kind.Takes, kind, Value.kind, mismatch]

/-- A value that fits a position is the boxed form of a native thing. -/
theorem exists_box_of_takes {type : NativeType} {value : Value}
    (taken : type.kind.Takes value.kind) : ∃ native, type.box native = value := by
  cases unboxed : type.unbox value with
  | ok native => exact ⟨native, box_of_unbox unboxed⟩
  | error mismatch => exact absurd taken (not_takes_of_unbox_error unboxed).1

theorem unbox_of_not_takes {type : NativeType} {value : Value}
    (refused : ¬ type.kind.Takes value.kind) :
    type.unbox value = .error ⟨type.kind, value.kind⟩ := by
  cases unboxed : type.unbox value with
  | ok native =>
    rw [← box_of_unbox unboxed] at refused
    exact absurd (type.takes_kind_box native) refused
  | error mismatch => rw [(not_takes_of_unbox_error unboxed).2]

/-- Unboxing what was boxed succeeds and notes a conversion if the type is primitive. -/
theorem unboxing_box (type : NativeType) (native : type.Carrier) (world : World) :
    type.unboxing (type.box native) world =
      .finished (.ok native) (world.noting (Event.unboxings [type.kind])) := by
  rw [unboxing, tryUnboxing, unbox_box]
  cases type with
  | generic =>
    rw [show Event.unboxings [kind generic] = [] from rfl, World.noting_nil]
    rfl
  | _ => exact congrArg (Outcome.finished (.ok native)) (World.record_eq_noting _ _)

/-- Unboxing a value that does not fit fails, which is noted. -/
theorem unboxing_of_not_takes {type : NativeType} {value : Value}
    (refused : ¬ type.kind.Takes value.kind) (world : World) :
    type.unboxing value world =
      .finished (.error (.kindMismatch ⟨type.kind, value.kind⟩))
        (world.noting [.unboxingFailed ⟨type.kind, value.kind⟩]) := by
  rw [unboxing, tryUnboxing, unbox_of_not_takes refused]
  exact congrArg (Outcome.finished _) (World.record_eq_noting _ _)

end NativeType

theorem unboxingAll_boxed {arity : Nat} {types : Row NativeType arity}
    (natives : NativeArguments types) (world : World) :
    unboxingAll types natives.boxed world =
      .finished (.ok natives)
        (world.noting (Event.unboxings (types.toList.map NativeType.kind))) := by
  induction natives generalizing world with
  | nil => exact congrArg (Outcome.finished _) world.noting_nil.symm
  | @cons _ type types first rest inductionHypothesis =>
    rw [NativeArguments.boxed, unboxingAll,
      Computation.bind_of_ok (type.unboxing_box first world),
      Computation.bind_of_ok (inductionHypothesis _), World.noting_noting,
      ← Event.unboxings_append]
    rfl

/-- Unboxing arguments fails at the leftmost one that does not fit. -/
theorem unboxingAll_of_firstMismatch {arity : Nat} {types : Row NativeType arity}
    {arguments : Row Value arity} {position : Nat} {mismatch : KindMismatch}
    (first : FirstMismatch (types.toList.map NativeType.kind) (arguments.toList.map Value.kind)
      position mismatch) (world : World) :
    unboxingAll types arguments world =
      .finished (.error (.kindMismatch mismatch))
        (world.noting (Event.unboxings ((types.toList.map NativeType.kind).take position) ++
          [.unboxingFailed mismatch])) := by
  induction types generalizing position world with
  | nil => cases first.expected
  | cons type types inductionHypothesis =>
    obtain _ | ⟨value, values⟩ := arguments
    rcases first.cases_cons with ⟨rfl, rfl, refused⟩ | ⟨before, rfl, taken, others⟩
    · rw [unboxingAll, Computation.bind_of_error (type.unboxing_of_not_takes refused world)]
      rfl
    · obtain ⟨native, rfl⟩ := NativeType.exists_box_of_takes taken
      rw [unboxingAll, Computation.bind_of_ok (type.unboxing_box native world),
        Computation.bind_of_error (inductionHypothesis others _), World.noting_noting,
        ← List.append_assoc, ← Event.unboxings_append]
      rfl

/-- Values that fit are the boxed form of native arguments. -/
theorem exists_boxed_of_takeAll {arity : Nat} {types : Row NativeType arity}
    {arguments : Row Value arity}
    (taken : Kind.TakeAll (types.toList.map NativeType.kind) (arguments.toList.map Value.kind)) :
    ∃ natives : NativeArguments types, natives.boxed = arguments := by
  induction types with
  | nil =>
    cases arguments
    exact ⟨.nil, rfl⟩
  | cons type types inductionHypothesis =>
    obtain _ | ⟨value, values⟩ := arguments
    obtain ⟨first, others⟩ := Kind.takeAll_cons_iff.mp taken
    obtain ⟨native, rfl⟩ := NativeType.exists_box_of_takes first
    obtain ⟨natives, rfl⟩ := inductionHypothesis others
    exact ⟨.cons native natives, rfl⟩

/-! ### Running bodies -/

/-- A computation is faultless if it does not end with a fault. -/
def Computation.Faultless {α : Type} (computation : Computation α) : Prop :=
  ∀ world fault after, computation world ≠ .finished (.error fault) after

theorem Computation.Faultless.bind {α β : Type} {computation : Computation α}
    {next : α → Computation β} (first : computation.Faultless)
    (second : ∀ result, (next result).Faultless) : (computation >>= next).Faultless := by
  intro world fault last
  cases ended : computation world with
  | unanswered =>
    rw [bind_of_unanswered ended]
    intro impossible
    cases impossible
  | finished answer after =>
    cases answer with
    | ok result =>
      rw [bind_of_ok ended]
      exact second result after fault last
    | error fault => exact absurd ended (first world fault after)

theorem Computation.Faultless.attempt {α : Type} (computation : Computation α) :
    computation.attempt.Faultless := by
  intro world fault last ended
  unfold Computation.attempt at ended
  cases early : computation world <;> rw [early] at ended <;> cases ended

theorem NativeType.tryUnboxing_faultless (type : NativeType) (value : Value) :
    (type.tryUnboxing value).Faultless := by
  unfold NativeType.tryUnboxing
  split
  · split <;> exact fun _ _ _ => nofun
  · exact fun _ _ _ => nofun

namespace Program

variable {α β : Type}

/-- What a program fails with is a result of its run. A run itself has no faults, as those of the
functions that it calls are handed to the program. -/
theorem run_faultless (call : CallRule) (program : Program α) :
    (program.run call).Faultless := by
  induction program with
  | done result => exact fun _ _ _ => nofun
  | call function argument next inductionHypothesis =>
    exact .bind (.attempt _) inductionHypothesis
  | unbox type value next inductionHypothesis =>
    exact .bind (type.tryUnboxing_faultless value) inductionHypothesis
  | describe value next inductionHypothesis =>
    exact .bind (fun _ _ _ => nofun) inductionHypothesis
  | readCell cell next inductionHypothesis =>
    exact .bind (fun _ _ _ => nofun) inductionHypothesis
  | writeCell cell value next inductionHypothesis =>
    exact .bind (fun _ _ _ => nofun) fun _ => inductionHypothesis

end Program

/-! ### Specialized functions -/

namespace Specialized

variable {arity : Nat}

/-- The answer of a call with values, given that of the body: a result is boxed, and a failure
becomes a fault of the call. -/
def carried (function : Specialized arity) :
    Except Failure function.result.Carrier → Except Fault Value
  | .ok native => .ok (function.result.box native)
  | .error failure => .error (.user failure)

/-- The boxings of a call with values, given the answer of the body. -/
def boxings (function : Specialized arity) :
    Except Failure function.result.Carrier → List Event
  | .ok _ => if function.result.kind.isPrimitive then [.boxed function.result.kind] else []
  | .error _ => []

/-- Two outcomes in a world agree, that of a direct call and that of a call over the bridge. Either
no call gives an answer, or the bridge carries the answer of the body over and leaves the same
world behind, save for the conversions that are noted around the one run of the body. -/
def Agree (function : Specialized arity) (world : World)
    (direct : Outcome (Except Failure function.result.Carrier)) (bridge : Outcome Value) : Prop :=
  (direct = .unanswered ∧ bridge = .unanswered) ∨
    ∃ answer, ∃ after : World, ∃ during,
      direct = .finished (.ok answer)
        (after.withTrace (world.trace.toList ++ .began function.label :: during)) ∧
      bridge = .finished (function.carried answer)
        (after.withTrace (world.trace.toList ++ Event.unboxings function.signature.params ++
          .began function.label :: during ++ function.boxings answer))

theorem carryOver_eq (function : Specialized arity)
    (answer : Except Failure function.result.Carrier) (world : World) :
    function.carryOver answer world =
      .finished (function.carried answer) (world.noting (function.boxings answer)) := by
  cases answer with
  | ok native =>
    rw [carryOver, ReturnType.boxing, boxings]
    split
    · exact congrArg (Outcome.finished _) (World.record_eq_noting _ _)
    · rw [World.noting_nil]
      rfl
  | error failure =>
    rw [boxings, World.noting_nil]
    rfl

theorem callNative_eq (call : CallRule) (function : Specialized arity)
    (natives : NativeArguments function.params) (world : World) :
    function.callNative call natives world =
      (function.body.closure.onArguments natives).run call
        (world.noting [.began function.label]) := by
  rw [callNative, inner, NativeFunction.onArguments_map, ← World.record_eq_noting]
  rfl

/-- Over the bridge the body is called directly, after all arguments were unboxed. -/
theorem apply_boxed (call : CallRule) (function : Specialized arity)
    (natives : NativeArguments function.params) (world : World) :
    function.apply call natives.boxed world =
      (function.callNative call natives >>= function.carryOver)
        (world.noting (Event.unboxings function.signature.params)) := by
  rw [apply, Computation.bind_of_ok (unboxingAll_boxed natives world)]
  rfl

theorem apply_of_firstMismatch (call : CallRule) (function : Specialized arity)
    {arguments : Row Value arity} {position : Nat} {mismatch : KindMismatch}
    (first : FirstMismatch function.signature.params (arguments.toList.map Value.kind) position
      mismatch) (world : World) :
    function.apply call arguments world =
      .finished (.error (.kindMismatch mismatch))
        (world.noting (Event.unboxings (function.signature.params.take position) ++
          [.unboxingFailed mismatch])) :=
  Computation.bind_of_error (unboxingAll_of_firstMismatch first world) _

/-- On arguments that fit, the call over the bridge agrees with the direct call. -/
theorem apply_boxed_agree {call : CallRule} (orderly : call.Orderly) (function : Specialized arity)
    (natives : NativeArguments function.params) (world : World) :
    function.Agree world (function.callNative call natives world)
      (function.apply call natives.boxed world) := by
  have runOrderly := Program.run_orderly orderly (function.body.closure.onArguments natives)
  rw [apply_boxed]
  cases ended : function.callNative call natives world with
  | unanswered =>
    have stuck := ended
    rw [callNative_eq] at stuck
    have elsewhere := runOrderly.withTrace_of_unanswered stuck
    refine Or.inl ⟨rfl, Computation.bind_of_unanswered ?_ _⟩
    rw [callNative_eq]
    exact elsewhere _
  | finished result after =>
    cases result with
    | ok answer =>
      have run := ended
      rw [callNative_eq] at run
      obtain ⟨during, noted, elsewhere⟩ := runOrderly.withTrace run
      refine Or.inr ⟨answer, after, during, ?_, ?_⟩
      · rw [noted]
        simp
      · have bridged : function.callNative call natives
            (world.noting (Event.unboxings function.signature.params)) =
            .finished (.ok answer) (after.withTrace (world.trace.toList ++
              Event.unboxings function.signature.params ++ [.began function.label] ++ during)) := by
          rw [callNative_eq]
          exact elsewhere _
        rw [Computation.bind_of_ok bridged, carryOver_eq, World.withTrace_noting]
        simp
    | error fault =>
      rw [callNative_eq] at ended
      exact absurd ended (Program.run_faultless call _ _ fault after)

end Specialized

end Erasure
