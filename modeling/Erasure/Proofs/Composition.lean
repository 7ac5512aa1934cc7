/-
This file proves that a composition of functions is settled by its stages and their
order. However the stages are put together, one behind the other or one in front of the
other, a call of the composition feeds its argument to the first stage and each result
to the next one, and ends as soon as a stage does not return a result, just as that stage
ended. Two compositions with the same stages in the same order can therefore not be told
apart by calling them, and a function that returns its argument can be left out.
-/

import Erasure.Catalog.Recipe
import Erasure.Proofs.Trace

namespace Erasure

/-! ### Pipelines -/

/-- What a pipeline does with a value at one of its places. -/
abbrev Stage := Value → Computation Value

/-- Feeds a value to the first stage and each result to the stage behind it. -/
def pipeline : List Stage → Stage
  | [], value => return value
  | stage :: rest, value => do
    let between ← stage value
    pipeline rest between

theorem pipeline_single (stage : Stage) : pipeline [stage] = stage :=
  funext fun value => Computation.bind_pure (stage value)

/-- A pipeline in two parts feeds the result of the first part to the second one. -/
theorem pipeline_append (first second : List Stage) (value : Value) :
    pipeline (first ++ second) value = pipeline first value >>= pipeline second := by
  induction first generalizing value with
  | nil => rfl
  | cons stage rest inductionHypothesis =>
    simp only [List.cons_append, pipeline, inductionHypothesis, bind_assoc]

/-- A pipeline returns a result, or it ends as the first of its stages does that returns none. The
stages before that one have all returned a result, and those behind it have no part in how the
pipeline ends. -/
theorem pipeline_ends {α : Type} (stageOf : α → Stage) (members : List α) (value : Value)
    (world : World) :
    (∃ result after,
      pipeline (members.map stageOf) value world = .finished (.ok result) after) ∨
      ∃ done member spared between before, members = done ++ member :: spared ∧
        pipeline (done.map stageOf) value world = .finished (.ok between) before ∧
        pipeline (members.map stageOf) value world = stageOf member between before ∧
        ∀ result after, stageOf member between before ≠ .finished (.ok result) after := by
  induction members generalizing value world with
  | nil => exact Or.inl ⟨value, world, rfl⟩
  | cons first rest inductionHypothesis =>
    cases ended : stageOf first value world with
    | unanswered =>
      refine Or.inr ⟨[], first, rest, value, world, rfl, rfl, ?_, ?_⟩
      · rw [ended]
        exact Computation.bind_of_unanswered ended _
      · rw [ended]
        exact fun _ _ => nofun
    | finished answer middle =>
      cases answer with
      | error fault =>
        refine Or.inr ⟨[], first, rest, value, world, rfl, rfl, ?_, ?_⟩
        · rw [ended]
          exact Computation.bind_of_error ended _
        · rw [ended]
          exact fun _ _ => nofun
      | ok next =>
        have onwards (stages : List Stage) :
            pipeline (stageOf first :: stages) value world = pipeline stages next middle :=
          Computation.bind_of_ok ended _
        rcases inductionHypothesis next middle with ⟨result, after, returned⟩ |
          ⟨done, member, spared, between, before, rfl, reached, same, failed⟩
        · exact Or.inl ⟨result, after, (onwards _).trans returned⟩
        · exact Or.inr ⟨first :: done, member, spared, between, before, rfl,
            (onwards _).trans reached, (onwards _).trans same, failed⟩

theorem pipeline_orderly {stages : List Stage}
    (orderly : ∀ stage ∈ stages, ∀ value, (stage value).Orderly) (value : Value) :
    (pipeline stages value).Orderly := by
  induction stages generalizing value with
  | nil => exact .pure value
  | cons stage rest inductionHypothesis =>
    obtain ⟨first, others⟩ := List.forall_mem_cons.mp orderly
    exact .bind (first value) (inductionHypothesis others)

/-- A contract of one parameter as a stage of a pipeline. -/
def Contract.stage (bound : CurryBound) (rule : LeafRule) (contract : Contract 1) : Stage :=
  fun value => contract.applyWith bound rule (.single value)

/-! ### Compositions -/

/-- How functions are put together. -/
inductive Composition
  /-- A function by itself. -/
  | single (function : Address)
  /-- The argument comes behind the receiver. -/
  | andThen (receiver argument : Composition)
  /-- The argument comes in front of the receiver. -/
  | compose (receiver argument : Composition)

namespace Composition

/-- The functions that are put together, in the order they are called in. -/
def stages : Composition → List Address
  | single function => [function]
  | andThen receiver argument => receiver.stages ++ argument.stages
  | compose receiver argument => argument.stages ++ receiver.stages

/-- Puts the functions together. -/
def build : Composition → Computation Address
  | single function => return function
  | andThen receiver argument => do
    let first ← receiver.build
    let second ← argument.build
    Erasure.andThen first second
  | compose receiver argument => do
    let after ← receiver.build
    let before ← argument.build
    Erasure.compose after before

/-- What is put together, if it is known which contract is at which address. -/
def contract (contractAt : Address → Contract 1) : Composition → Contract 1
  | single function => contractAt function
  | andThen receiver argument =>
    .sequence (receiver.contract contractAt) (argument.contract contractAt)
  | compose receiver argument =>
    .sequence (argument.contract contractAt) (receiver.contract contractAt)

/-- In a world the functions that are put together are the given contracts. -/
def Present (tree : Composition) (contractAt : Address → Contract 1) (world : World) : Prop :=
  ∀ function ∈ tree.stages, world.functions[function]? = some (contractAt function)

/-- A function of a world is what was given when the composition was built, now or earlier. -/
def IsBuilt (tree : Composition) (contractAt : Address → Contract 1) (function : Address)
    (now : World) : Prop :=
  ∃ world after, tree.Present contractAt world ∧
    tree.build world = .finished (.ok function) after ∧ now.Extends after

/-- A tree has at least one function in it. -/
theorem stages_ne_nil (tree : Composition) : tree.stages ≠ [] := by
  induction tree with
  | single function => exact List.cons_ne_nil _ _
  | andThen receiver argument receiverStages _ =>
    exact List.append_ne_nil_of_left_ne_nil receiverStages _
  | compose receiver argument _ argumentStages =>
    exact List.append_ne_nil_of_left_ne_nil argumentStages _

variable {bound : CurryBound} {contractAt : Address → Contract 1} {world : World}

theorem Present.of_extends {tree : Composition} {later : World}
    (present : tree.Present contractAt world) (extension : later.Extends world) :
    tree.Present contractAt later :=
  fun function member => extension.functions_eq (present function member)

/-- A sequence of functions that were found is found itself. -/
theorem andThen_made {first second : Address} {firstPart secondPart : Contract 1}
    {made : List (Contract 1)}
    (foundFirst : (world.making made).functions[first]? = some firstPart)
    (foundSecond : (world.making made).functions[second]? = some secondPart) :
    ∃ function more,
      Erasure.andThen first second (world.making made) =
        .finished (.ok function) (world.making more) ∧
      (world.making more).functions[function]? = some (.sequence firstPart secondPart) := by
  refine ⟨(world.making made).functions.size, made ++ [.sequence firstPart secondPart], ?_, ?_⟩
  · rw [Erasure.andThen_eq foundFirst foundSecond, World.making_making]
  · rw [← World.making_making]
    exact World.functions_making_size _ _

/-- Building a composition makes objects, one of which is what is put together unless that is a
function by itself. -/
theorem build_eq {tree : Composition} (present : tree.Present contractAt world) :
    ∃ function made, tree.build world = .finished (.ok function) (world.making made) ∧
      (world.making made).functions[function]? = some (tree.contract contractAt) := by
  induction tree generalizing world with
  | single function =>
    refine ⟨function, [], ?_, ?_⟩
    · rw [World.making_nil]
      rfl
    · rw [World.making_nil]
      exact present function (List.mem_singleton.mpr rfl)
  | andThen receiver argument receiverBuilt argumentBuilt =>
    obtain ⟨presentReceiver, presentArgument⟩ := List.forall_mem_append.mp present
    obtain ⟨first, made, builtFirst, foundFirst⟩ := receiverBuilt presentReceiver
    obtain ⟨second, more, builtSecond, foundSecond⟩ :=
      argumentBuilt (Present.of_extends presentArgument (world.making_extends made))
    -- What was built first is still there when the other part has been built.
    have keptFirst := ((world.making made).making_extends more).functions_eq foundFirst
    rw [World.making_making] at builtSecond keptFirst foundSecond
    rw [build, Computation.bind_of_ok builtFirst, Computation.bind_of_ok builtSecond]
    exact andThen_made keptFirst foundSecond
  | compose receiver argument receiverBuilt argumentBuilt =>
    obtain ⟨presentArgument, presentReceiver⟩ := List.forall_mem_append.mp present
    obtain ⟨after, made, builtAfter, foundAfter⟩ := receiverBuilt presentReceiver
    obtain ⟨before, more, builtBefore, foundBefore⟩ :=
      argumentBuilt (Present.of_extends presentArgument (world.making_extends made))
    have keptAfter := ((world.making made).making_extends more).functions_eq foundAfter
    rw [World.making_making] at builtBefore keptAfter foundBefore
    rw [build, Computation.bind_of_ok builtAfter, Computation.bind_of_ok builtBefore]
    exact andThen_made foundBefore keptAfter

/-- What is put together is called as a pipeline of the functions. -/
theorem contract_stage (tree : Composition) (contractAt : Address → Contract 1)
    (bound : CurryBound) (rule : LeafRule) :
    (tree.contract contractAt).stage bound rule =
      pipeline (tree.stages.map fun function => (contractAt function).stage bound rule) := by
  -- The two ways to put functions together differ in the order of their stages alone.
  induction tree with
  | single function => exact (pipeline_single _).symm
  | andThen receiver argument receiverStage argumentStage =>
    funext value
    rw [stages, List.map_append, pipeline_append, ← receiverStage, ← argumentStage]
    rfl
  | compose receiver argument receiverStage argumentStage =>
    funext value
    rw [stages, List.map_append, pipeline_append, ← receiverStage, ← argumentStage]
    rfl

/-- A composition takes what its first function takes and returns what its last one returns. -/
theorem contract_signature (tree : Composition) (contractAt : Address → Contract 1) :
    (tree.contract contractAt).signature =
      ⟨(contractAt (tree.stages.head tree.stages_ne_nil)).signature.params,
        (contractAt (tree.stages.getLast tree.stages_ne_nil)).signature.result⟩ := by
  induction tree with
  | single function => rfl
  | andThen receiver argument receiverSignature argumentSignature =>
    rw [contract, Contract.signature, receiverSignature, argumentSignature]
    simp only [stages, List.head_append_of_ne_nil receiver.stages_ne_nil,
      List.getLast_append_of_ne_nil _ argument.stages_ne_nil]
  | compose receiver argument receiverSignature argumentSignature =>
    rw [contract, Contract.signature, receiverSignature, argumentSignature]
    simp only [stages, List.head_append_of_ne_nil argument.stages_ne_nil,
      List.getLast_append_of_ne_nil _ receiver.stages_ne_nil]

theorem contract_signature_congr {tree other : Composition} {otherAt : Address → Contract 1}
    (same : other.stages.map otherAt = tree.stages.map contractAt) :
    (other.contract otherAt).signature = (tree.contract contractAt).signature := by
  have heads := congrArg List.head? same
  have lasts := congrArg List.getLast? same
  rw [List.head?_map, List.head?_map, List.head?_eq_some_head other.stages_ne_nil,
    List.head?_eq_some_head tree.stages_ne_nil] at heads
  rw [List.getLast?_map, List.getLast?_map, List.getLast?_eq_some_getLast other.stages_ne_nil,
    List.getLast?_eq_some_getLast tree.stages_ne_nil] at lasts
  rw [contract_signature, contract_signature, Option.some.inj heads, Option.some.inj lasts]

theorem IsBuilt.functions_eq {tree : Composition} {function : Address} {now : World}
    (built : tree.IsBuilt contractAt function now) :
    now.functions[function]? = some (tree.contract contractAt) := by
  obtain ⟨world, after, present, building, extension⟩ := built
  obtain ⟨other, made, expected, found⟩ := build_eq present
  rw [expected] at building
  cases building
  exact extension.functions_eq found

theorem IsBuilt.callWith_eq {tree : Composition} {function : Address} {now : World}
    (built : tree.IsBuilt contractAt function now) (bound : CurryBound) (rule : LeafRule)
    (value : Value) :
    callWith bound rule function value now =
      pipeline ((tree.stages.map contractAt).map (Contract.stage bound rule)) value now := by
  rw [Erasure.callWith_eq built.functions_eq, List.map_map]
  exact congrFun (congrFun (tree.contract_stage contractAt bound rule) value) now

end Composition

/-! ### Leaving out the identity -/

/-- Two outcomes are the same, but that in the second one the body of the given label may have begun
to run once more. -/
def Outcome.SameBut (label : String) (first second : Outcome Value) : Prop :=
  (first = .unanswered ∧ second = .unanswered) ∨
    ∃ answer, ∃ after : World, ∃ earlier noted later,
      first = .finished answer (after.withTrace (earlier ++ later)) ∧
      second = .finished answer (after.withTrace (earlier ++ noted ++ later)) ∧
      (noted = [] ∨ noted = [.began label])

theorem Outcome.SameBut.refl (label : String) (outcome : Outcome Value) :
    outcome.SameBut label outcome := by
  cases outcome with
  | unanswered => exact Or.inl ⟨rfl, rfl⟩
  | finished answer after =>
    have same : after = after.withTrace (after.trace.toList ++ []) := by
      rw [List.append_nil, World.withTrace_self]
    refine Or.inr ⟨answer, after, after.trace.toList, [], [], ?_, ?_, Or.inl rfl⟩
    · rw [← same]
    · rw [List.append_nil, ← same]

/-- An orderly computation does the same after the body of the given label began to run. -/
theorem Computation.Orderly.sameBut {computation : Computation Value}
    (orderly : computation.Orderly) (world : World) (label : String) :
    (computation world).SameBut label (computation (world.noting [.began label])) := by
  cases ended : computation world with
  | unanswered => exact Or.inl ⟨rfl, orderly.withTrace_of_unanswered ended _⟩
  | finished answer after =>
    obtain ⟨during, noted, elsewhere⟩ := orderly.withTrace ended
    refine Or.inr ⟨answer, after, world.trace.toList, [.began label], during, ?_, ?_, Or.inr rfl⟩
    · rw [← noted]
    · exact elsewhere _

/-- The identity gives its argument back, and notes that its body ran. -/
theorem identity_stage (bound : CurryBound) (call : CallRule) (label : String) (value : Value)
    (world : World) :
    (Contract.leaf (.specialized (Catalog.identity label))).stage bound
        (fun _ function arguments => function.apply call arguments) value world =
      .finished (.ok value) (world.noting [.began label]) :=
  congrArg (Outcome.finished (.ok value)) (World.record_eq_noting world (.began label))

/-- A function that returns its argument can be left out of a pipeline. -/
theorem pipeline_identity {before after : List Stage} {identity : Stage} {label : String}
    (returns : ∀ value world,
      identity value world = .finished (.ok value) (world.noting [.began label]))
    (orderly : ∀ stage ∈ after, ∀ value, (stage value).Orderly) (value : Value) (world : World) :
    (pipeline (before ++ after) value world).SameBut label
      (pipeline (before ++ identity :: after) value world) := by
  rw [pipeline_append, pipeline_append]
  cases ended : pipeline before value world with
  | unanswered =>
    rw [Computation.bind_of_unanswered ended, Computation.bind_of_unanswered ended]
    exact .refl _ _
  | finished answer middle =>
    cases answer with
    | error fault =>
      rw [Computation.bind_of_error ended, Computation.bind_of_error ended]
      exact .refl _ _
    | ok between =>
      rw [Computation.bind_of_ok ended, Computation.bind_of_ok ended, pipeline,
        Computation.bind_of_ok (returns between middle)]
      exact (pipeline_orderly orderly between).sameBut middle label

/-! ### Compositions with the same stages -/

/-- A composition depends on nothing but its stages and their order. Building it succeeds. What is
built takes what the first stage takes and returns what the last one returns, and it is called as
the pipeline of the stages: either all of them return a result, or the call ends as the first stage
that does not. Whatever else is built with the same stages has the same signature, and calls of it
come to the same in every world. If it has the function that returns its argument as one more stage,
at either end or in between, calls of it come to the same but for the run of that function. -/
theorem Composition.depends_on_order {bound : CurryBound} {tree : Composition}
    {contractAt : Address → Contract 1} {world : World} (present : tree.Present contractAt world) :
    ∃ function made, tree.build world = .finished (.ok function) (world.making made) ∧
      ∀ now : World, now.Extends (world.making made) →
        ∃ contract, now.functions[function]? = some contract ∧
          contract.signature =
            ⟨(contractAt (tree.stages.head tree.stages_ne_nil)).signature.params,
              (contractAt (tree.stages.getLast tree.stages_ne_nil)).signature.result⟩ ∧
          (∀ (rule : LeafRule) (value : Value),
            callWith bound rule function value now =
              pipeline (tree.stages.map fun stage => (contractAt stage).stage bound rule) value
                now ∧
            ((∃ result after,
              callWith bound rule function value now = .finished (.ok result) after) ∨
              ∃ done stage spared between before, tree.stages = done ++ stage :: spared ∧
                pipeline (done.map fun stage => (contractAt stage).stage bound rule) value now =
                  .finished (.ok between) before ∧
                callWith bound rule function value now =
                  (contractAt stage).stage bound rule between before ∧
                ∀ result after, (contractAt stage).stage bound rule between before ≠
                  .finished (.ok result) after)) ∧
          (∀ (other : Composition) (otherAt : Address → Contract 1) (otherFunction : Address),
            other.IsBuilt otherAt otherFunction now →
            other.stages.map otherAt = tree.stages.map contractAt →
            ∃ otherContract, now.functions[otherFunction]? = some otherContract ∧
              otherContract.signature = contract.signature ∧
              ∀ rule value, callWith bound rule otherFunction value now =
                callWith bound rule function value now) ∧
          ∀ (label : String) (other : Composition) (otherAt : Address → Contract 1)
            (otherFunction : Address) (before after : List (Contract 1)),
            other.IsBuilt otherAt otherFunction now →
            tree.stages.map contractAt = before ++ after →
            other.stages.map otherAt =
              before ++ .leaf (.specialized (Catalog.identity label)) :: after →
            ∀ depth value, (invoke bound depth function value now).SameBut label
              (invoke bound depth otherFunction value now) := by
  obtain ⟨function, made, building, _⟩ := build_eq present
  refine ⟨function, made, building, fun now extension => ?_⟩
  have built : tree.IsBuilt contractAt function now :=
    ⟨world, world.making made, present, building, extension⟩
  refine ⟨_, built.functions_eq, tree.contract_signature contractAt, ?_, ?_, ?_⟩
  · intro rule value
    rw [built.callWith_eq, List.map_map]
    exact ⟨rfl, pipeline_ends _ tree.stages value now⟩
  · intro other otherAt otherFunction otherBuilt same
    refine ⟨_, otherBuilt.functions_eq, contract_signature_congr same, fun rule value => ?_⟩
    rw [built.callWith_eq, otherBuilt.callWith_eq, same]
  · intro label other otherAt otherFunction before after otherBuilt split inserted depth value
    cases depth with
    | zero => exact .refl label .unanswered
    | succ depth =>
      rw [invoke_succ, built.callWith_eq, otherBuilt.callWith_eq, split, inserted,
        List.map_append, List.map_append, List.map_cons]
      refine pipeline_identity (identity_stage bound (invoke bound depth) label) ?_ value now
      intro stage member between
      obtain ⟨contract, _, rfl⟩ := List.mem_map.mp member
      exact contract.applyWith_orderly (Leaf.apply_orderly (invoke_orderly bound depth)) _

/-- Three functions of the catalogue by address: the square of an integer, the position of a kind
and, at all other addresses, a function of truth values that returns nothing. -/
def Catalog.sampleAt : Address → Specialized 1
  | 0 => squareI32 "square"
  | 1 => kindCode "code"
  | _ => sinkBool "sink"

/-- A world of these three functions. -/
def Catalog.sampleWorld : World :=
  World.making {} [.leaf (.specialized (sampleAt 0)), .leaf (.specialized (sampleAt 1)),
    .leaf (.specialized (sampleAt 2))]

theorem Catalog.present_sampleAt {tree : Composition}
    (within : ∀ function ∈ tree.stages, function < 3) :
    tree.Present (fun function => .leaf (.specialized (sampleAt function))) sampleWorld := by
  intro function member
  have bounded := within function member
  match function with
  | 0 => rfl
  | 1 => rfl
  | 2 => rfl

/-- The square of an integer, the position of its kind and the square of that come to the same
whether they are put together from the left or from the right. -/
theorem Composition.depends_on_order_square :
    (Composition.andThen (.andThen (.single 0) (.single 1)) (.single 0)).Present
        (fun function => .leaf (.specialized (Catalog.sampleAt function))) Catalog.sampleWorld ∧
      ∃ function made otherFunction more,
        (Composition.andThen (.andThen (.single 0) (.single 1)) (.single 0)).build
            Catalog.sampleWorld =
          .finished (.ok function) (Catalog.sampleWorld.making made) ∧
        (Composition.compose (.compose (.single 0) (.single 1)) (.single 0)).build
            (Catalog.sampleWorld.making made) =
          .finished (.ok otherFunction) (Catalog.sampleWorld.making more) ∧
        ∃ contract, (Catalog.sampleWorld.making more).functions[function]? = some contract ∧
          contract.signature = ⟨[.i32], .i32⟩ ∧
          ∀ rule value,
            callWith .standard rule otherFunction value (Catalog.sampleWorld.making more) =
              callWith .standard rule function value (Catalog.sampleWorld.making more) := by
  have present := @Catalog.present_sampleAt
    (.andThen (.andThen (.single 0) (.single 1)) (.single 0)) (by decide)
  obtain ⟨function, made, building, calls⟩ := @depends_on_order .standard _ _ _ present
  have presentAgain : (Composition.compose (.compose (.single 0) (.single 1)) (.single 0)).Present
      _ _ :=
    Present.of_extends present (World.making_extends _ made)
  obtain ⟨otherFunction, more, otherBuilding, _⟩ := build_eq presentAgain
  obtain ⟨contract, found, signature, _, same, _⟩ := calls _ (World.making_extends _ more)
  obtain ⟨_, _, _, calledSame⟩ := same _ _ _ ⟨_, _, presentAgain, otherBuilding, .refl _⟩ rfl
  simp only [World.making_making] at otherBuilding found calledSame
  exact ⟨present, function, made, otherFunction, _, building, otherBuilding, contract, found,
    signature, calledSame⟩

end Erasure
