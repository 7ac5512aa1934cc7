/-
This file proves that the log of a call tells how the call came out. If no body does more
than to compute, a call logs one failed unboxing if its answer is a value of the wrong kind
for a declared position, and nothing whatever else it answers. A tupled form that is given
something else than a tuple finds fault with a kind, too, but logs nothing, and as erased
positions take every value the two can be told apart by the kind that was expected. A
transform that is asked for logs its refusal, and nothing if it is not refused.
-/

import Erasure.Proofs.Bridge
import Erasure.Proofs.Faults

namespace Erasure

/-! ### Bodies that do nothing but compute -/

/-- A self-contained program comes to a result, and nothing is noted. -/
theorem Program.run_of_isSelfContained {α : Type} {program : Program α}
    (alone : program.isSelfContained) (call : CallRule) (world : World) :
    ∃ result after, program.run call world = .finished (.ok result) after ∧
      after.trace = world.trace := by
  induction program generalizing world with
  | done result => exact ⟨result, world, rfl, rfl⟩
  | call function argument next => exact False.elim alone
  | unbox type value next => exact False.elim alone
  | describe value next => exact False.elim alone
  | readCell cell next inductionHypothesis =>
    exact inductionHypothesis (world.readCell cell) (alone _) world
  | writeCell cell value next inductionHypothesis =>
    exact inductionHypothesis alone (world.writeCell cell value)

/-- Whatever its arguments are, the body of a function is self-contained. -/
def Specialized.SelfContained {arity : Nat} (function : Specialized arity) : Prop :=
  ∀ natives : NativeArguments function.params,
    (function.body.closure.onArguments natives).isSelfContained

/-- The specialized functions with a self-contained body. -/
def LeafClass.selfContained : LeafClass := fun _ function =>
  ∃ specialized : Specialized _, function = .specialized specialized ∧ specialized.SelfContained

/-! ### The log -/

namespace World

/-- Of the events that are noted the log goes on with those that are logged. -/
theorem log_noting (world : World) (events : List Event) :
    (world.noting events).log = world.log ++ events.filterMap Event.logRecord? := by
  rw [log, trace_noting, List.filterMap_append, log]

theorem log_making (world : World) (contracts : List (Contract 1)) :
    (world.making contracts).log = world.log := rfl

end World

theorem Event.filterMap_logRecord?_unboxings (declared : List Kind) :
    (unboxings declared).filterMap logRecord? = [] := by
  rw [unboxings, List.filterMap_map, List.filterMap_eq_nil_iff]
  exact fun _ _ => rfl

/-- What is logged about a call that fails. Nothing is logged about a value of the wrong kind if any
kind was expected, as it must have been a tuple that was missing. -/
def Fault.records : Fault → List LogRecord
  | .kindMismatch mismatch =>
    if mismatch.expected = .erased then
      []
    else
      [⟨.debug, "unboxing failed",
        [("expected", .text mismatch.expected.name), ("found", .text mismatch.found.name)]⟩]
  | _ => []

/-- What is logged about a call that ends. -/
def answerRecords {α : Type} : Except Fault α → List LogRecord
  | .ok _ => []
  | .error fault => fault.records

/-- Nothing is logged about a value that is not the tuple that was expected. -/
theorem Misshapen.records_eq_nil {expected : Nat} {value : Value} {fault : Fault}
    (misshapen : Misshapen expected value fault) : fault.records = [] := by
  cases misshapen <;> rfl

/-! ### Computations whose log tells how they end -/

namespace Computation

variable {α β : Type}

/-- A computation reports if it always ends and logs no more and no less than there is to say about
its answer. -/
def Reports (computation : Computation α) : Prop :=
  ∀ world, ∃ answer after, computation world = .finished answer after ∧
    after.log = world.log ++ answerRecords answer

theorem Reports.pure (result : α) : Reports (pure result : Computation α) := fun world =>
  ⟨.ok result, world, rfl, (List.append_nil _).symm⟩

theorem Reports.fail {fault : Fault} (silent : fault.records = []) :
    Reports (fail fault : Computation α) := fun world =>
  ⟨.error fault, world, rfl, by rw [answerRecords, silent, List.append_nil]⟩

/-- A fault is reported where it arises, and nothing is logged after it. -/
theorem Reports.bind {computation : Computation α} {next : α → Computation β}
    (first : computation.Reports) (second : ∀ result, (next result).Reports) :
    (computation >>= next).Reports := by
  intro world
  obtain ⟨answer, middle, ended, logged⟩ := first world
  cases answer with
  | ok result =>
    obtain ⟨last, after, endedLast, loggedLast⟩ := second result middle
    refine ⟨last, after, (bind_of_ok ended next).trans endedLast, ?_⟩
    rw [loggedLast, logged, answerRecords, List.append_nil]
  | error fault => exact ⟨.error fault, middle, bind_of_error ended next, logged⟩

end Computation

/-- An unboxing logs the two kinds if it fails and nothing if it does not. -/
theorem NativeType.unboxing_reports (type : NativeType) (value : Value) :
    (type.unboxing value).Reports := by
  intro world
  by_cases taken : type.kind.Takes value.kind
  · obtain ⟨native, rfl⟩ := exists_box_of_takes taken
    refine ⟨.ok native, _, type.unboxing_box native world, ?_⟩
    rw [World.log_noting, Event.filterMap_logRecord?_unboxings, answerRecords]
  · refine ⟨_, _, unboxing_of_not_takes taken world, ?_⟩
    have declared : type.kind ≠ .erased := fun erased => taken (Or.inl erased)
    rw [World.log_noting, answerRecords, Fault.records, if_neg declared]
    rfl

theorem unboxingAll_reports {arity : Nat} (types : Row NativeType arity)
    (values : Row Value arity) : (unboxingAll types values).Reports := by
  induction types with
  | nil =>
    cases values
    exact .pure _
  | cons type types inductionHypothesis =>
    obtain _ | ⟨value, values⟩ := values
    exact .bind (type.unboxing_reports value) fun _ =>
      .bind (inductionHypothesis values) fun _ => .pure _

namespace Specialized

variable {arity : Nat} {function : Specialized arity}

theorem SelfContained.callNative_reports (alone : function.SelfContained) (call : CallRule)
    (natives : NativeArguments function.params) : (function.callNative call natives).Reports := by
  intro world
  obtain ⟨answer, after, ended, noted⟩ := Program.run_of_isSelfContained (alone natives) call
    (world.noting [.began function.label])
  refine ⟨.ok answer, after, (function.callNative_eq call natives world).trans ended, ?_⟩
  rw [World.log, noted]
  exact world.log_noting [.began function.label]

/-- Neither the boxing of a result nor a fault that is handed on is logged. -/
theorem carryOver_reports (function : Specialized arity)
    (answer : Except Failure function.result.Carrier) : (function.carryOver answer).Reports := by
  intro world
  refine ⟨_, _, function.carryOver_eq answer world, ?_⟩
  have silent : (function.boxings answer).filterMap Event.logRecord? = [] := by
    cases answer with
    | ok native =>
      rw [boxings]
      split <;> rfl
    | error failure => rfl
  rw [World.log_noting, silent]
  cases answer <;> rfl

/-- The only thing that is logged in a call of a function whose body only computes is an unboxing
that fails. -/
theorem SelfContained.apply_reports (alone : function.SelfContained) (call : CallRule)
    (arguments : Row Value arity) : (function.apply call arguments).Reports :=
  .bind (unboxingAll_reports _ _) fun natives =>
    .bind (alone.callNative_reports call natives) function.carryOver_reports

end Specialized

/-- The log tells how the call of a contract came out if the bodies in it only compute. -/
theorem Contract.BuiltFrom.apply_reports {limit : CurryBound} {arity : Nat}
    {contract : Contract arity} (built : contract.BuiltFrom .selfContained)
    (curriable : contract.Curriable limit) (call : CallRule) (arguments : Row Value arity) :
    (contract.apply limit call arguments).Reports := by
  induction contract with
  | leaf function =>
    obtain ⟨specialized, rfl, alone⟩ := built
    exact alone.apply_reports call arguments
  | forward pointer inner inductionHypothesis => exact inductionHypothesis built curriable arguments
  | sequence first second firstReports secondReports =>
    exact .bind (firstReports built.1 curriable.1 arguments) fun between =>
      secondReports built.2 curriable.2 (.single between)
  | @tupled arity inner inductionHypothesis =>
    obtain _ | ⟨value, _ | _⟩ := arguments
    show (applyWith limit _ (tupled inner) (.single value)).Reports
    rcases exists_arguments_or_misshapen arity value with ⟨items, rfl⟩ | ⟨fault, misshapen⟩
    · rw [applyWith_tupled_tuple]
      exact inductionHypothesis built curriable items
    · rw [applyWith_tupled_misshapen inner misshapen]
      exact .fail misshapen.records_eq_nil
  | curried inner =>
    obtain _ | ⟨value, _ | _⟩ := arguments
    intro world
    refine ⟨_, _, inner.applyWith_curried curriable.1 _ value world, ?_⟩
    rw [World.log_making, answerRecords, List.append_nil]
  | bound inner first inductionHypothesis =>
    exact inductionHypothesis built curriable (.cons first arguments)

/-! ### Requests for transforms -/

/-- A transform was made and nothing was logged, or it was refused and the refusal was logged with
its details. -/
inductive Outcome.Reported (world : World) : Outcome Address → Prop
  | made {function : Address} {after : World} (silent : after.log = world.log) :
    Reported world (.finished (.ok function) after)
  | refused {refusal : Unsupported} {after : World}
    (logged : after.log = world.log ++ [⟨.debug, "transform not supported",
      [("operation", .text refusal.operation), ("arity", .number refusal.arity)]⟩]) :
    Reported world (.finished (.error (.unsupported refusal)) after)

theorem refuse_reported (operation : String) (arity : Nat) (world : World) :
    (refuse operation arity world : Outcome Address).Reported world :=
  .refused (world.log_record (.refused ⟨operation, arity⟩))

namespace Handle

variable {arity : Nat} {handle : Handle arity} {contract : Contract arity} {world : World}

theorem curried_reported (held : handle.Holds world contract) (bound : CurryBound) :
    (handle.curried bound world).Reported world := by
  cases supported : bound.supports arity with
  | true =>
    obtain ⟨fewer, rfl⟩ := CurryBound.exists_succ_of_supports supported
    obtain ⟨function, made, currying, _⟩ := curried_eq held supported
    rw [currying]
    exact .made (world.log_making made)
  | false =>
    rw [curried_of_not_supported supported]
    exact refuse_reported "curried" arity world

theorem tupled_reported (held : handle.Holds world contract) (bound : CurryBound) :
    (handle.tupled bound world).Reported world := by
  cases supported : bound.supports arity with
  | true =>
    rw [tupled_eq held supported]
    exact .made (world.log_making _)
  | false =>
    rw [tupled_of_not_supported supported]
    exact refuse_reported "tupled" arity world

end Handle

/-! ### Log and answer -/

/-- The log agrees with the answer. Whatever the operations give out of functions whose bodies only
compute, every call of it ends, and it logs one failed unboxing with the two kinds if it answers
with a value of the wrong kind for a position that is not erased, and nothing if it answers with
anything else. Whatever contract is held, a request for its curried or tupled form logs one refusal
with the details of the fault if it is refused, and nothing if it is not. -/
theorem World.log_agrees :
    (∀ {bound : CurryBound} {world : World} {arity : Nat} {handle : Handle arity},
      Obtained bound .selfContained world handle →
      ∃ contract, handle.Holds world contract ∧
        ∀ (call : CallRule) (arguments : Row Value arity) (before : World),
          ∃ answer after,
            contract.apply bound call arguments before = .finished answer after ∧
            after.log = before.log ++ answerRecords answer) ∧
      ∀ {arity : Nat} {handle : Handle arity} {contract : Contract arity} {world : World},
        handle.Holds world contract → ∀ bound : CurryBound,
          (handle.curried bound world).Reported world ∧
            (handle.tupled bound world).Reported world := by
  constructor
  · intro bound world arity handle obtained
    have both := (Inherited.builtFrom bound .selfContained).and (.curriable bound .selfContained)
    obtain ⟨contract, held, built, curriable⟩ := obtained.inherits both
    exact ⟨contract, held, fun call arguments => built.apply_reports curriable call arguments⟩
  · intro arity handle contract world held bound
    exact ⟨handle.curried_reported held bound, handle.tupled_reported held bound⟩

/-- The square of the quotient of a pair of integers logs a truth value in the place of one of them
and not an integer in the place of the pair. The widest contract cannot be curried, which is logged.
-/
theorem World.log_agrees_quotient :
    ∃ world, Obtained .standard .selfContained world (.object 2) ∧
      (∃ contract, (Handle.object 2).Holds world contract ∧
        (∀ call before, ∃ after,
          contract.apply .standard call (.single (.tuple [.i32 1, .bool true])) before =
            .finished (.error (.kindMismatch ⟨.i32, .bool⟩)) after ∧
          after.log = before.log ++ [⟨.debug, "unboxing failed",
            [("expected", .text "I32"), ("found", .text "Bool")]⟩]) ∧
        ∀ call before, ∃ after,
          contract.apply .standard call (.single (.i32 1)) before =
            .finished (.error (.kindMismatch ⟨.erased, .i32⟩)) after ∧
          after.log = before.log) ∧
      ∀ widest : Contract 22, (Handle.wide widest).Holds {} widest ∧
        ∃ after,
          (Handle.wide widest).curried .raised {} =
            .finished (.error (.unsupported ⟨"curried", 22⟩)) after ∧
          after.log = [⟨.debug, "transform not supported",
            [("operation", .text "curried"), ("arity", .number 22)]⟩] := by
  have quotient : Obtained .standard .selfContained {}
      (.wide (.leaf (.specialized (Catalog.divI32 "quotient")))) :=
    @Obtained.leaf _ _ 1 {} _ _ (.specialized (Catalog.divI32 "quotient"))
      ⟨_, rfl, fun | .cons _ (.cons _ .nil) => trivial⟩ rfl
  have ofPairs : Obtained .standard .selfContained
      (World.making {} [.tupled (.leaf (.specialized (Catalog.divI32 "quotient")))])
      (.object 0) :=
    quotient.tupled rfl
  have square : Obtained .standard .selfContained
      (World.making {} [.tupled (.leaf (.specialized (Catalog.divI32 "quotient"))),
        .leaf (.specialized (Catalog.squareI32 "square"))]) (.object 1) :=
    @Obtained.leaf _ _ 0
      (World.making {} [.tupled (.leaf (.specialized (Catalog.divI32 "quotient")))]) _ _
      (.specialized (Catalog.squareI32 "square")) ⟨_, rfl, fun | .cons _ .nil => trivial⟩ rfl
  have both : Obtained .standard .selfContained _ (.object 2) :=
    (ofPairs.earlier ⟨[_], rfl⟩).andThen square rfl
  obtain ⟨contract, held, calls⟩ := log_agrees.1 both
  cases held
  refine ⟨_, both, ⟨_, rfl, fun call before => ?_, fun call before => ?_⟩, fun widest => ?_⟩
  · obtain ⟨answer, after, ended, logged⟩ :=
      calls call (.single (.tuple [.i32 1, .bool true])) before
    cases ended
    exact ⟨_, rfl, logged⟩
  · obtain ⟨answer, after, ended, logged⟩ := calls call (.single (.i32 1)) before
    cases ended
    exact ⟨_, rfl, logged.trans (List.append_nil _)⟩
  · have held : (Handle.wide widest).Holds {} widest := rfl
    generalize asked : (Handle.wide widest).curried .raised {} = outcome
    have reported := asked ▸ (log_agrees.2 held .raised).1
    cases reported with
    | made silent => cases asked
    | refused logged =>
      cases asked
      exact ⟨held, _, rfl, logged⟩

end Erasure
