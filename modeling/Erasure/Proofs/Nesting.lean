/-
This file proves that a fault survives any number of bodies that hand it on. A body whose
call fails and that fails with that fault puts the fault into one more layer, and nothing
but that layer is added, so that asking for the fault of a call takes the layers off one
by one. A layered fault speaks like the fault inside of it. What can be taken out of a
fault at all is the failure of a body and only by the type of that failure.
-/

import Erasure.Catalog.Recipe
import Erasure.Fault.Text
import Erasure.Proofs.Bridge
import Erasure.Proofs.Faults

namespace Erasure

/-! ### Taking failures out of faults -/

namespace Fault

variable {fault : Fault} {type : FailureType}

theorem failure?_eq_some_iff {failure : Failure} :
    fault.failure? type = some failure ↔ fault = .user failure ∧ failure.type = type := by
  cases fault with
  | user other =>
    rw [failure?]
    split
    case isTrue same =>
      simp only [Option.some.injEq, user.injEq]
      exact ⟨fun equal => ⟨equal, equal ▸ same⟩, And.left⟩
    case isFalse different =>
      simp only [reduceCtorEq, user.injEq, false_iff]
      rintro ⟨rfl, same⟩
      exact different same
  | _ => simp [failure?]

/-- A fault carries a failure if one is seen in it. -/
theorem carries_eq_isSome (fault : Fault) (type : FailureType) :
    fault.carries type = (fault.failure? type).isSome := by
  cases fault with
  | user failure =>
    rw [carries, failure?]
    split
    case isTrue same => exact beq_iff_eq.mpr same
    case isFalse different => exact beq_eq_false_iff_ne.mpr different
  | _ => rfl

/-- What is taken out of a fault is what is seen in it. -/
theorem downcast_eq_elim (fault : Fault) (type : FailureType) :
    fault.downcast type = (fault.failure? type).elim (.error fault) .ok := by
  cases fault with
  | user failure =>
    rw [downcast, failure?]
    split <;> rfl
  | _ => rfl

theorem carries_iff :
    fault.carries type = true ↔ ∃ failure, fault = .user failure ∧ failure.type = type := by
  simp only [carries_eq_isSome, Option.isSome_iff_exists, failure?_eq_some_iff]

/-- A value of the wrong kind is carried if a body fails with it and not if the call does. -/
example (mismatch : KindMismatch) :
    (user (.kindMismatch mismatch)).carries .kindMismatch = true ∧
      (kindMismatch mismatch).carries .kindMismatch = false := ⟨rfl, rfl⟩

theorem downcast_eq_ok_iff {failure : Failure} :
    fault.downcast type = .ok failure ↔ fault = .user failure ∧ failure.type = type := by
  rw [downcast_eq_elim, ← failure?_eq_some_iff]
  cases fault.failure? type <;> simp

/-- A fault out of which nothing is taken is given back. -/
theorem eq_of_downcast_error {given : Fault} (refused : fault.downcast type = .error given) :
    given = fault := by
  rw [downcast_eq_elim] at refused
  cases seen : fault.failure? type <;> rw [seen] at refused <;> cases refused
  rfl

/-- A fault carries a failure of one type at most. -/
theorem type_unique {other : FailureType} (carried : fault.carries type = true)
    (otherCarried : fault.carries other = true) : type = other := by
  obtain ⟨failure, rfl, rfl⟩ := carries_iff.mp carried
  obtain ⟨same, equal, rfl⟩ := carries_iff.mp otherCarried
  cases equal
  rfl

end Fault

/-! ### Layers -/

namespace Fault

/-- A fault inside the given number of layers, each of which is the failure of a body with the fault
of a call that it made. -/
def nested (origin : Fault) : (levels : Nat) → Fault
  | 0 => origin
  | levels + 1 => .user (.call (origin.nested levels))

/-- A fault is left when the fault of a call has been taken out the given number of times. -/
inductive Peels : (layers : Nat) → Fault → Fault → Prop
  | none {fault : Fault} : Peels 0 fault fault
  | layer {layers : Nat} {fault inner last : Fault}
    (taken : fault.downcast .call = .ok (.call inner)) (others : Peels layers inner last) :
    Peels (layers + 1) fault last

/-- The layers come off one by one, and what is left has the others. -/
theorem peels_nested_iff (origin : Fault) {peeled levels : Nat} (within : peeled ≤ levels)
    (last : Fault) :
    Peels peeled (origin.nested levels) last ↔ last = origin.nested (levels - peeled) := by
  induction peeled generalizing levels with
  | zero =>
    constructor
    · rintro ⟨⟩
      rfl
    · rintro rfl
      exact .none
  | succ peeled inductionHypothesis =>
    obtain ⟨levels, rfl⟩ := Nat.exists_eq_add_one_of_ne_zero (Nat.ne_zero_of_lt within)
    rw [Nat.add_sub_add_right, ← inductionHypothesis (Nat.le_of_succ_le_succ within)]
    constructor
    · rintro (_ | ⟨taken, others⟩)
      cases (downcast_eq_ok_iff.mp taken).1
      exact others
    · exact .layer (downcast_eq_ok_iff.mpr ⟨rfl, rfl⟩)

theorem message_user_call (fault : Fault) : (user (.call fault)).message = fault.message := rfl

theorem causes_user_call (fault : Fault) : (user (.call fault)).causes = fault.causes := rfl

theorem message_nested (origin : Fault) (levels : Nat) :
    (origin.nested levels).message = origin.message := by
  induction levels with
  | zero => rfl
  | succ levels inductionHypothesis => rw [nested, message_user_call, inductionHypothesis]

theorem causes_nested (origin : Fault) (levels : Nat) :
    (origin.nested levels).causes = origin.causes := by
  induction levels with
  | zero => rfl
  | succ levels inductionHypothesis => rw [nested, causes_user_call, inductionHypothesis]

end Fault

/-! ### Bodies that hand faults on -/

namespace Program

/-- A program gets to a point: all that it asked for before was answered. -/
inductive Reaches {α : Type} (call : CallRule) : Program α → World → Program α → World → Prop
  | here {program : Program α} {world : World} : Reaches call program world program world
  | call {function : Address} {argument : Value} {next : Except Fault Value → Program α}
    {answer : Except Fault Value} {later : Program α} {world after last : World}
    (answered : call function argument world = .finished answer after)
    (onward : Reaches call (next answer) after later last) :
    Reaches call (.call function argument next) world later last
  | unbox {type : NativeType} {value : Value} {next : Except KindMismatch type.Carrier → Program α}
    {answer : Except KindMismatch type.Carrier} {later : Program α} {world after last : World}
    (answered : type.tryUnboxing value world = .finished (.ok answer) after)
    (onward : Reaches call (next answer) after later last) :
    Reaches call (.unbox type value next) world later last
  | describe {value : Value} {next : String → Program α} {later : Program α} {world last : World}
    (onward : Reaches call (next (world.text value)) world later last) :
    Reaches call (.describe value next) world later last
  | readCell {cell : Address} {next : Value → Program α} {later : Program α} {world last : World}
    (onward : Reaches call (next (world.readCell cell)) world later last) :
    Reaches call (.readCell cell next) world later last
  | writeCell {cell : Address} {value : Value} {next later : Program α} {world last : World}
    (onward : Reaches call next (world.writeCell cell value) later last) :
    Reaches call (.writeCell cell value next) world later last

/-- What is left of a program decides how it ends. -/
theorem Reaches.run_eq {α : Type} {call : CallRule} {program later : Program α} {world last : World}
    (reached : program.Reaches call world later last) :
    program.run call world = later.run call last := by
  induction reached with
  | here => rfl
  | call answered _ inductionHypothesis =>
    refine (Computation.bind_of_ok ?_ _).trans inductionHypothesis
    rw [Computation.attempt, answered]
  | unbox answered _ inductionHypothesis =>
    exact (Computation.bind_of_ok answered _).trans inductionHypothesis
  | describe _ inductionHypothesis => exact inductionHypothesis
  | readCell _ inductionHypothesis => exact inductionHypothesis
  | writeCell _ inductionHypothesis => exact inductionHypothesis

end Program

/-- A body gets to a call of a contract, and if that call fails with the given fault, then the body
fails with the fault of that call. -/
inductive Specialized.Relays (bound : CurryBound) (depth : Nat) (fault : Fault) {arity : Nat}
    (function : Specialized arity) (natives : NativeArguments function.params) (world : World) :
    (inner : Contract 1) → (argument : Value) → (middle : World) → Prop
  | intro {address : Address} {argument : Value}
    {next : Except Fault Value → Program (Except Failure function.result.Carrier)}
    {inner : Contract 1} {middle : World}
    (reached : (function.body.closure.onArguments natives).Reaches (invoke bound (depth + 1))
      (world.noting (Event.unboxings function.signature.params ++ [.began function.label]))
      (.call address argument next) middle)
    (found : middle.functions[address]? = some inner)
    (handedOn : next (.error fault) = .done (.error (.call fault))) :
    function.Relays bound depth fault natives world inner argument middle

/-- A body that fails with the fault of a call puts that fault into one layer. -/
theorem Specialized.Relays.apply_eq {bound : CurryBound} {depth arity : Nat} {fault : Fault}
    {function : Specialized arity} {natives : NativeArguments function.params} {inner : Contract 1}
    {argument : Value} {world middle after : World}
    (relays : function.Relays bound depth fault natives world inner argument middle)
    (failed : inner.apply bound (invoke bound depth) (.single argument) middle =
      .finished (.error fault) after) :
    function.apply (invoke bound (depth + 1)) natives.boxed world =
      .finished (.error (.user (.call fault))) after := by
  obtain @⟨address, _, next, _, _, reached, found, handedOn⟩ := relays
  have invoked : invoke bound (depth + 1) address argument middle =
      .finished (.error fault) after := (callWith_eq found argument).trans failed
  have attempted : (invoke bound (depth + 1) address argument).attempt middle =
      .finished (.ok (.error fault)) after := by
    rw [Computation.attempt, invoked]
  -- The fault is an answer to the body, and the failure of the body is a result of its run. Only the
  -- bridge turns it into a fault of the call.
  have ended : function.callNative (invoke bound (depth + 1)) natives
      (world.noting (Event.unboxings function.signature.params)) =
        .finished (.ok (.error (.call fault))) after := by
    rw [callNative_eq, World.noting_noting, reached.run_eq, Program.run,
      Computation.bind_of_ok attempted, handedOn]
    rfl
  rw [apply_boxed, Computation.bind_of_ok ended]
  rfl

/-- A call comes to fail with a fault that bodies hand on, the given number of them one inside the
other. The innermost call raises the fault and leaves a world behind. A body that hands it on got to
a call that comes to fail so. Outside and between the bodies, leaves may be put together in any way:
the leaf that is called last comes to fail so. -/
inductive HandsOn (bound : CurryBound) (origin : Fault) (after : World) : (levels depth : Nat) →
    {arity : Nat} → Contract arity → Row Value arity → World → Prop
  | raised {depth arity : Nat} {contract : Contract arity} {arguments : Row Value arity}
    {world : World}
    (failed : contract.apply bound (invoke bound depth) arguments world =
      .finished (.error origin) after) :
    HandsOn bound origin after 0 depth contract arguments world
  | body {levels depth arity : Nat} {function : Specialized arity}
    {natives : NativeArguments function.params} {inner : Contract 1} {argument : Value}
    {world middle : World}
    (relays :
      function.Relays bound depth (origin.nested levels) natives world inner argument middle)
    (fails : HandsOn bound origin after levels depth inner (.single argument) middle) :
    HandsOn bound origin after (levels + 1) (depth + 1) (.leaf (.specialized function))
      natives.boxed world
  | tower {levels depth arity : Nat} {contract : Contract arity} {arguments : Row Value arity}
    {world : World} {last : LeafCall}
    (listed : last ∈ (contract.account bound (fun _ function arguments =>
      function.apply (invoke bound depth) arguments) arguments world).calls.getLast?)
    (fails : HandsOn bound origin after levels depth (.leaf last.occurrence.function) last.arguments
      last.before) :
    HandsOn bound origin after levels depth contract arguments world

/-- Every body that hands a fault on adds one layer, and nothing else does. -/
theorem HandsOn.apply_eq {bound : CurryBound} {origin : Fault} {after world : World}
    {levels depth arity : Nat} {contract : Contract arity} {arguments : Row Value arity}
    (handsOn : HandsOn bound origin after levels depth contract arguments world) :
    contract.apply bound (invoke bound depth) arguments world =
      .finished (.error (origin.nested levels)) after := by
  induction handsOn with
  | raised failed => exact failed
  | body relays _ inductionHypothesis => exact relays.apply_eq inductionHypothesis
  | @tower levels depth arity contract arguments world last listed _ inductionHypothesis =>
    rw [Contract.apply, ← Contract.outcome_account]
    exact (contract.account_straight bound _ arguments world).outcome_of_last listed
      inductionHypothesis

/-! ### Nests of any depth -/

/-- A function that is applied twice hands on the fault of its first call. -/
theorem HandsOn.applyTwice {bound : CurryBound} {origin : Fault} {after world : World}
    {levels depth : Nat} {address : Address} {inner : Contract 1} {argument : Value}
    (label : String) (found : world.functions[address]? = some inner)
    (fails : HandsOn bound origin after levels depth inner (.single argument)
      (world.noting [.began label])) :
    HandsOn bound origin after (levels + 1) (depth + 1)
      (.bound (.leaf (.specialized (Catalog.applyTwice label))) (.func address)) (.single argument)
      world :=
  .tower (Option.mem_some.mpr rfl) <|
    @HandsOn.body _ _ _ _ _ _ (Catalog.applyTwice label)
      (.cons (.func address) (.cons argument .nil)) _ _ world _ (.intro .here found rfl) fails

namespace Catalog

/-- Fails always, with the given fault. -/
def raising (fault : Fault) : Handwritten 1 :=
  ⟨Nat.one_pos, one_le_widestArity, .erased 1, "raising", fun _ => .done (.error fault)⟩

/-- A function that fails with a fault, or that applies the function of the level below twice. -/
def nest (fault : Fault) : (level : Nat) → Contract 1
  | 0 => .leaf (.handwritten (raising fault))
  | level + 1 => .bound (.leaf (.specialized (applyTwice "nest"))) (.func level)

/-- A world of such functions, one for each level below the given one. -/
def nestWorld (fault : Fault) (levels : Nat) : World :=
  .making {} ((List.range levels).map (nest fault))

theorem nest_present {fault : Fault} {levels level : Nat} (below : level < levels) :
    (nestWorld fault levels).functions[level]? = some (nest fault level) := by
  simp [nestWorld, World.making, below]

end Catalog

/-- Every fault can be handed on by any number of bodies. -/
theorem HandsOn.nest (bound : CurryBound) (origin : Fault) (levels : Nat) (argument : Value)
    {world : World}
    (present : ∀ level < levels, world.functions[level]? = some (Catalog.nest origin level)) :
    HandsOn bound origin
      (world.noting (List.replicate levels (.began "nest") ++ [.began "raising"]))
      levels levels (Catalog.nest origin levels) (.single argument) world := by
  induction levels generalizing world with
  | zero =>
    refine .raised ?_
    rw [List.replicate_zero, List.nil_append, ← World.record_eq_noting]
    rfl
  | succ levels inductionHypothesis =>
    have further := @inductionHypothesis (world.noting [.began "nest"])
      fun level below => present level (Nat.lt_succ_of_lt below)
    rw [World.noting_noting, ← List.append_assoc, List.singleton_append,
      ← List.replicate_succ] at further
    exact .applyTwice "nest" (present levels (Nat.lt_succ_self levels)) further

/-- A fault that is handed on by bodies one inside the other arrives in as many layers as there are
bodies, and in no others. The fault of a call can be taken out as often as there are layers, which
leaves the fault as it was raised, and what is left on the way has the message and the causes of
that fault. For every fault and every type, whether the fault carries a failure of the type, whether
one is seen in it and whether one can be taken out of it are the same. It is so exactly if the fault
is the failure of a body and the failure is of the type, so of one type at most; the failure then
comes out as it is, and otherwise the fault is given back as it is. -/
theorem HandsOn.fault_survives {bound : CurryBound} {origin : Fault} {after world : World}
    {levels depth arity : Nat} {contract : Contract arity} {arguments : Row Value arity}
    (handsOn : HandsOn bound origin after levels depth contract arguments world) :
    contract.apply bound (invoke bound depth) arguments world =
        .finished (.error (origin.nested levels)) after ∧
      (∀ last, (origin.nested levels).Peels levels last ↔ last = origin) ∧
      (∀ peeled ≤ levels, ∃ last, (origin.nested levels).Peels peeled last ∧
        last.message = origin.message ∧ last.causes = origin.causes) ∧
      ∀ (fault : Fault) (type : FailureType),
        (fault.carries type = true ↔ ∃ failure, fault.failure? type = some failure) ∧
        (fault.carries type = true ↔ ∃ failure, fault.downcast type = .ok failure) ∧
        (fault.carries type = true ↔ ∃ failure, fault = .user failure ∧ failure.type = type) ∧
        (∀ other, fault.carries type = true → fault.carries other = true → type = other) ∧
        (∀ failure, fault.failure? type = some failure → fault = .user failure) ∧
        (∀ failure, fault.downcast type = .ok failure → fault = .user failure) ∧
        ∀ given, fault.downcast type = .error given → given = fault := by
  refine ⟨handsOn.apply_eq, fun last => ?_, fun peeled within => ?_,
    fun fault type => ?_⟩
  · have peeled := origin.peels_nested_iff (Nat.le_refl levels) last
    rwa [Nat.sub_self, Fault.nested] at peeled
  · exact ⟨origin.nested (levels - peeled), (origin.peels_nested_iff within _).mpr rfl,
      origin.message_nested _, origin.causes_nested _⟩
  · have carried : fault.carries type = true ↔
        ∃ failure, fault = .user failure ∧ failure.type = type := Fault.carries_iff
    refine ⟨?_, ?_, carried, fun other => Fault.type_unique, ?_, ?_, ?_⟩
    · simpa only [Fault.failure?_eq_some_iff] using carried
    · simpa only [Fault.downcast_eq_ok_iff] using carried
    · exact fun failure seen => (Fault.failure?_eq_some_iff.mp seen).1
    · exact fun failure taken => (Fault.downcast_eq_ok_iff.mp taken).1
    · exact fun given refused => Fault.eq_of_downcast_error refused

/-- A function of numbers that is given no number fails. If it is applied twice, and what applies it
twice is itself applied twice, then the fault arrives in two layers. So does any fault arrive in any
number of layers. -/
theorem HandsOn.fault_survives_doubleF64 :
    (∃ world after,
      (Contract.bound (.leaf (.specialized (Catalog.applyTwice "outer"))) (.func 1)).apply .standard
          (invoke .standard 2) (.single (.i32 1)) world =
        .finished (.error (.user (.call (.user (.call (.kindMismatch ⟨.f64, .i32⟩)))))) after ∧
      ∀ last, Fault.Peels 2 (.user (.call (.user (.call (.kindMismatch ⟨.f64, .i32⟩))))) last ↔
        last = .kindMismatch ⟨.f64, .i32⟩) ∧
    ∀ (origin : Fault) (levels : Nat), ∃ after,
      (Catalog.nest origin levels).apply .standard (invoke .standard levels) (.single .unit)
          (Catalog.nestWorld origin levels) =
        .finished (.error (origin.nested levels)) after ∧
      ∀ last, (origin.nested levels).Peels levels last ↔ last = origin := by
  have handsOn : HandsOn .standard (.kindMismatch ⟨.f64, .i32⟩) _ 2 2
      (.bound (.leaf (.specialized (Catalog.applyTwice "outer"))) (.func 1)) (.single (.i32 1))
      (World.making {} [.leaf (.specialized (Catalog.doubleF64 "double")),
        .bound (.leaf (.specialized (Catalog.applyTwice "inner"))) (.func 0)]) :=
    .applyTwice "outer" rfl (.applyTwice "inner" rfl (.raised rfl))
  obtain ⟨ended, peeled, _⟩ := handsOn.fault_survives
  refine ⟨⟨_, _, ended, peeled⟩, fun origin levels => ?_⟩
  obtain ⟨nestEnded, nestPeeled, _⟩ :=
    (HandsOn.nest .standard origin levels .unit fun _ => Catalog.nest_present).fault_survives
  exact ⟨_, nestEnded, nestPeeled⟩

end Erasure
