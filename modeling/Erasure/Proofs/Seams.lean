/-
This file proves what the declared kinds of specialized functions say about a pipeline
of them. At the seam between two stages the second one takes what the first one returns
if it is declared erased or with the kind of the first one's result. If all seams fit,
every stage that is reached can unbox its argument, so that nothing but a body can fail.
If one seam cannot fit, no call returns a result and nothing behind the seam runs.
-/

import Erasure.Proofs.Composition
import Erasure.Proofs.Soundness
import Mathlib.Data.List.Chain

namespace Erasure

namespace Specialized

/-- The kind that the only parameter of a function is declared with. -/
def paramKind (function : Specialized 1) : Kind :=
  match function.params with
  | .cons type .nil => type.kind

/-- A specialized function as a stage of a pipeline. -/
def stage (call : CallRule) (function : Specialized 1) : Stage :=
  fun value => function.apply call (.single value)

/-- The second function takes whatever the first one is declared to return. -/
def Meets (first second : Specialized 1) : Prop :=
  second.paramKind.Takes first.result.kind

/-- The pipeline is well typed for values of a kind: the first stage takes these, and every other
stage takes what the one before it is declared to return. -/
structure WellTyped (entering : Kind) (stages : List (Specialized 1)) : Prop where
  entry : ∀ first ∈ stages.head?, first.paramKind.Takes entering
  seams : stages.IsChain Meets

theorem signature_params (function : Specialized 1) :
    function.signature.params = [function.paramKind] := by
  obtain ⟨_, _, params, _, _, _⟩ := function
  obtain _ | ⟨type, _ | _⟩ := params
  rfl

/-! ### One stage -/

variable {bound : CurryBound} {call : CallRule} {depth : Nat}

/-- A stage that takes its argument unboxes it, and its call agrees with that of its body. -/
theorem stage_of_takes (function : Specialized 1) {value : Value}
    (taken : function.paramKind.Takes value.kind) :
    ∃ natives : NativeArguments function.params, natives.boxed = .single value ∧
      ∀ world, function.Agree world (function.callNative (invoke bound depth) natives world)
        (function.stage (invoke bound depth) value world) := by
  have takeAll :
      Kind.TakeAll function.signature.params ((Row.single value).toList.map Value.kind) := by
    rw [signature_params]
    exact Kind.takeAll_cons_iff.mpr ⟨taken, Kind.takeAll_nil _⟩
  obtain ⟨natives, boxed⟩ := exists_boxed_of_takeAll takeAll
  refine ⟨natives, boxed, fun world => ?_⟩
  rw [stage, ← boxed]
  exact function.apply_boxed_agree (invoke_orderly bound depth) natives world

/-- A stage that does not take its argument refuses it before its body runs. -/
theorem stage_of_not_takes (function : Specialized 1) {value : Value}
    (refused : ¬ function.paramKind.Takes value.kind) (world : World) :
    function.stage call value world =
      .finished (.error (.kindMismatch ⟨function.paramKind, value.kind⟩))
        (world.noting [.unboxingFailed ⟨function.paramKind, value.kind⟩]) := by
  have first : FirstMismatch function.signature.params ((Row.single value).toList.map Value.kind) 0
      ⟨function.paramKind, value.kind⟩ := by
    rw [signature_params]
    exact FirstMismatch.head refused
  exact function.apply_of_firstMismatch call first world

/-- The conversions that are noted around the run of a body have all succeeded. -/
theorem unboxingFailed_not_mem {arity : Nat} (function : Specialized arity)
    (answer : Except Failure function.result.Carrier) (mismatch : KindMismatch) :
    Event.unboxingFailed mismatch ∉
      Event.unboxings function.signature.params ++ function.boxings answer := by
  rw [List.mem_append, not_or]
  constructor
  · simp [Event.unboxings]
  · cases answer with
    | ok native =>
      rw [boxings]
      split <;> simp
    | error failure => exact List.not_mem_nil

/-- What a stage returns is taken by every function that it meets. -/
theorem Meets.takes {first second : Specialized 1} (meets : first.Meets second)
    {value result : Value} {world after : World}
    (returned : first.stage call value world = .finished (.ok result) after) :
    second.paramKind.Takes result.kind := by
  by_cases erased : first.result.kind = .erased
  · rw [Meets, erased] at meets
    exact Or.inl (meets.elim id Eq.symm)
  · rw [kind_of_apply erased returned]
    exact meets

/-! ### Pipelines -/

/-- What is left of a well-typed pipeline behind its first stage is well typed for what that one
returns. -/
theorem WellTyped.tail {entering : Kind} {first : Specialized 1} {rest : List (Specialized 1)}
    (typed : WellTyped entering (first :: rest)) {value result : Value} {world after : World}
    (returned : first.stage call value world = .finished (.ok result) after) :
    WellTyped result.kind rest := by
  obtain ⟨meets, seams⟩ := List.isChain_cons.mp typed.seams
  exact ⟨fun second member => (meets second member).takes returned, seams⟩

/-- Every stage of a well-typed pipeline that is reached takes what it is given. -/
theorem WellTyped.takes {done spared : List (Specialized 1)} {reached : Specialized 1}
    {value between : Value} {world before : World}
    (typed : WellTyped value.kind (done ++ reached :: spared))
    (passed : pipeline (done.map (stage call)) value world = .finished (.ok between) before) :
    reached.paramKind.Takes between.kind := by
  -- By induction on the stages that are done: what is behind each is well typed for its result.
  induction done generalizing value world with
  | nil =>
    cases passed
    exact typed.entry reached rfl
  | cons first rest inductionHypothesis =>
    obtain ⟨next, middle, returned, others⟩ := Computation.exists_of_bind_ok passed
    exact inductionHypothesis (typed.tail returned) others

/-- A pipeline returns what its last stage is declared to return. -/
theorem kind_of_pipeline {stages : List (Specialized 1)} (nonempty : stages ≠ [])
    (declared : (stages.getLast nonempty).result.kind ≠ .erased) {value result : Value}
    {world after : World}
    (returned : pipeline (stages.map (stage call)) value world = .finished (.ok result) after) :
    result.kind = (stages.getLast nonempty).result.kind := by
  rw [← List.dropLast_append_getLast nonempty, List.map_append, pipeline_append] at returned
  obtain ⟨between, middle, _, last⟩ := Computation.exists_of_bind_ok returned
  rw [List.map_singleton, pipeline_single] at last
  exact kind_of_apply declared last

/-- At a seam that cannot fit the call ends, if it gets there at all. -/
theorem pipeline_of_not_meets {done : List (Specialized 1)} {first second : Specialized 1}
    (declared : first.result.kind ≠ .erased) (mismatched : ¬ first.Meets second)
    (spared : List (Specialized 1)) (value : Value) (world : World) :
    (pipeline ((done ++ first :: second :: spared).map (stage call)) value world =
        pipeline ((done ++ [first]).map (stage call)) value world ∧
      ∀ result after, pipeline ((done ++ [first]).map (stage call)) value world ≠
        .finished (.ok result) after) ∨
      ∃ between before,
        pipeline ((done ++ [first]).map (stage call)) value world =
          .finished (.ok between) before ∧
        pipeline ((done ++ first :: second :: spared).map (stage call)) value world =
          .finished (.error (.kindMismatch ⟨second.paramKind, first.result.kind⟩))
            (before.noting [.unboxingFailed ⟨second.paramKind, first.result.kind⟩]) := by
  have split : done ++ first :: second :: spared = (done ++ [first]) ++ second :: spared := by simp
  have ends : pipeline ((done ++ first :: second :: spared).map (stage call)) value world =
      (pipeline ((done ++ [first]).map (stage call)) value >>=
        pipeline ((second :: spared).map (stage call))) world := by
    rw [split, List.map_append, pipeline_append]
  rw [ends]
  cases ended : pipeline ((done ++ [first]).map (stage call)) value world with
  | unanswered => exact Or.inl ⟨Computation.bind_of_unanswered ended _, fun _ _ => nofun⟩
  | finished answer before =>
    cases answer with
    | error fault => exact Or.inl ⟨Computation.bind_of_error ended _, fun _ _ => nofun⟩
    | ok between =>
      have nonempty : done ++ [first] ≠ [] := List.append_ne_nil_of_right_ne_nil _ (by simp)
      have last : (done ++ [first]).getLast nonempty = first := List.getLast_concat
      have kind := kind_of_pipeline nonempty (last.symm ▸ declared) ended
      rw [last] at kind
      have refused : ¬ second.paramKind.Takes between.kind := kind.symm ▸ mismatched
      refine Or.inr ⟨between, before, rfl, ?_⟩
      rw [Computation.bind_of_ok ended, ← kind]
      exact Computation.bind_of_error (second.stage_of_not_takes refused before) _

/-- An outcome of a pipeline is that of the body of a stage. The stages before this one have all
returned a result, and the last one was unboxed for the body. Either the body fails, and its failure
is the fault, or it gives no answer. -/
def EndsInBody (call : CallRule) (stages : List (Specialized 1)) (value : Value) (world : World)
    (outcome : Outcome Value) : Prop :=
  ∃ (done spared : List (Specialized 1)) (reached : Specialized 1) (between : Value)
    (before : World) (natives : NativeArguments reached.params),
    stages = done ++ reached :: spared ∧
    pipeline (done.map (stage call)) value world = .finished (.ok between) before ∧
    natives.boxed = .single between ∧
    ((∃ failure direct after,
      reached.callNative call natives before = .finished (.ok (.error failure)) direct ∧
      outcome = .finished (.error (.user failure)) after) ∨
      (reached.callNative call natives before = .unanswered ∧ outcome = .unanswered))

/-- A well-typed pipeline returns what its last stage is declared to return, or it ends as the body
of the first stage that does not return a result. -/
theorem WellTyped.ends {stages : List (Specialized 1)} (nonempty : stages ≠ []) {value : Value}
    (typed : WellTyped value.kind stages) (world : World) :
    (∃ result after,
      pipeline (stages.map (stage (invoke bound depth))) value world =
        .finished (.ok result) after ∧
      ((stages.getLast nonempty).result.kind ≠ .erased →
        result.kind = (stages.getLast nonempty).result.kind)) ∨
      EndsInBody (invoke bound depth) stages value world
        (pipeline (stages.map (stage (invoke bound depth))) value world) := by
  rcases pipeline_ends (stage (invoke bound depth)) stages value world with
    ⟨result, after, returned⟩ | ⟨done, reached, spared, between, before, rfl, passed, same, failed⟩
  · exact Or.inl ⟨result, after, returned, fun declared =>
      kind_of_pipeline nonempty declared returned⟩
  · obtain ⟨natives, boxed, agree⟩ := reached.stage_of_takes (typed.takes passed)
    refine Or.inr ⟨done, spared, reached, between, before, natives, rfl, passed, boxed, ?_⟩
    rcases agree before with ⟨direct, bridge⟩ | ⟨answer, after, during, direct, bridge⟩
    · exact Or.inr ⟨direct, same.trans bridge⟩
    · cases answer with
      | ok native => exact absurd bridge (failed _ _)
      | error failure => exact Or.inl ⟨failure, _, _, direct, same.trans bridge⟩

end Specialized

/-! ### Compositions of specialized functions -/

/-- The kinds at the seams decide what a composition of specialized functions can come to. If the
first stage takes the argument and all seams fit, every stage that is reached unboxes its argument
and its call agrees with that of its body, around which no failed unboxing is noted; the composition
returns what the last stage is declared
to return, or it fails with the failure of the first body that fails, and gives no answer only if
the body of a stage gives none. If one seam cannot fit, no call returns a result: it ends as the
stages in front of the seam do, or the stage behind the seam refuses their result, and no body
behind the seam runs. -/
theorem Composition.seams_decide {bound : CurryBound} {tree : Composition}
    {stageAt : Address → Specialized 1} {world : World}
    (present : tree.Present (fun function => .leaf (.specialized (stageAt function))) world) :
    ∃ function made, tree.build world = .finished (.ok function) (world.making made) ∧
      ∀ now : World, now.Extends (world.making made) → ∀ (depth : Nat) (value : Value),
        (Specialized.WellTyped value.kind (tree.stages.map stageAt) →
          (∀ (done spared : List (Specialized 1)) (reached : Specialized 1) between before,
            tree.stages.map stageAt = done ++ reached :: spared →
            pipeline (done.map (Specialized.stage (invoke bound depth))) value now =
              .finished (.ok between) before →
            ∃ natives : NativeArguments reached.params, natives.boxed = .single between ∧
              reached.Agree before (reached.callNative (invoke bound depth) natives before)
                (reached.stage (invoke bound depth) between before) ∧
              ∀ answer mismatch, Event.unboxingFailed mismatch ∉
                Event.unboxings reached.signature.params ++ reached.boxings answer) ∧
          ((∃ result after,
            invoke bound (depth + 1) function value now = .finished (.ok result) after ∧
            ((stageAt (tree.stages.getLast tree.stages_ne_nil)).result.kind ≠ .erased →
              result.kind = (stageAt (tree.stages.getLast tree.stages_ne_nil)).result.kind)) ∨
            Specialized.EndsInBody (invoke bound depth) (tree.stages.map stageAt) value now
              (invoke bound (depth + 1) function value now))) ∧
        ∀ (done spared : List (Specialized 1)) (first second : Specialized 1),
          tree.stages.map stageAt = done ++ first :: second :: spared →
          first.result.kind ≠ .erased → second.paramKind.isPrimitive = true →
          second.paramKind ≠ first.result.kind →
          (∀ result after,
            invoke bound (depth + 1) function value now ≠ .finished (.ok result) after) ∧
          (invoke bound (depth + 1) function value now =
              pipeline ((done ++ [first]).map (Specialized.stage (invoke bound depth))) value now ∨
            ∃ between before,
              pipeline ((done ++ [first]).map (Specialized.stage (invoke bound depth))) value now =
                .finished (.ok between) before ∧
              invoke bound (depth + 1) function value now =
                .finished (.error (.kindMismatch ⟨second.paramKind, first.result.kind⟩))
                  (before.noting [.unboxingFailed ⟨second.paramKind, first.result.kind⟩])) := by
  obtain ⟨function, made, building, _⟩ := build_eq present
  refine ⟨function, made, building, fun now extension depth value => ?_⟩
  have built : tree.IsBuilt _ function now :=
    ⟨world, world.making made, present, building, extension⟩
  have called : invoke bound (depth + 1) function value now =
      pipeline ((tree.stages.map stageAt).map (Specialized.stage (invoke bound depth))) value
        now := by
    rw [invoke_succ, built.callWith_eq, List.map_map, List.map_map]
    rfl
  rw [called]
  refine ⟨fun typed => ⟨?_, ?_⟩, ?_⟩
  · intro done spared reached between before split passed
    obtain ⟨natives, boxed, agree⟩ := reached.stage_of_takes ((split ▸ typed).takes passed)
    exact ⟨natives, boxed, agree before, reached.unboxingFailed_not_mem⟩
  · have nonempty : tree.stages.map stageAt ≠ [] := by simpa using tree.stages_ne_nil
    have ends := @Specialized.WellTyped.ends bound depth _ nonempty _ typed now
    rw [List.getLast_map] at ends
    exact ends
  · intro done spared first second split declared primitive different
    have mismatched : ¬ first.Meets second := by
      rintro (erased | same)
      · rw [erased] at primitive
        cases primitive
      · exact different same.symm
    rw [split]
    rcases Specialized.pipeline_of_not_meets declared mismatched spared value now with
      ⟨same, failed⟩ | ⟨between, before, passed, refused⟩
    · exact ⟨fun result after => same.symm ▸ failed result after, Or.inl same⟩
    · refine ⟨fun result after => ?_, Or.inr ⟨between, before, passed, refused⟩⟩
      rw [refused]
      exact nofun

/-- One function of the sample world followed by another one. -/
def Catalog.sampleSequence (first second : Address) : Contract 1 :=
  .sequence (.leaf (.specialized (sampleAt first))) (.leaf (.specialized (sampleAt second)))

/-- The square of the position of a kind can be taken of every value: of a reference it is 36, which
is the square of the 6 that was unboxed for it. A function that returns nothing can be put in front
of the square of an integer, but no call of the two returns a result, and after the first function
has run the second one does not. -/
theorem Composition.seams_decide_sample :
    (Composition.andThen (.single 1) (.single 0)).Present
        (fun function => .leaf (.specialized (Catalog.sampleAt function))) Catalog.sampleWorld ∧
      Specialized.WellTyped .erased [Catalog.sampleAt 1, Catalog.sampleAt 0] ∧
      (Composition.andThen (.single 1) (.single 0)).build Catalog.sampleWorld =
        .finished (.ok 3) (Catalog.sampleWorld.making [Catalog.sampleSequence 1 0]) ∧
      (∃ after,
        invoke .standard 1 3 (.ref 0)
            (Catalog.sampleWorld.making [Catalog.sampleSequence 1 0]) =
          .finished (.ok (.i32 36)) after ∧ after.ran = ["code", "square"]) ∧
      (∃ before, ∃ natives : NativeArguments (Catalog.sampleAt 0).params,
        pipeline [(Catalog.sampleAt 1).stage (invoke .standard 0)] (.ref 0)
            (Catalog.sampleWorld.making [Catalog.sampleSequence 1 0]) =
          .finished (.ok (.i32 6)) before ∧
        natives.boxed = .single (.i32 6) ∧
        (Catalog.sampleAt 0).Agree before
          ((Catalog.sampleAt 0).callNative (invoke .standard 0) natives before)
          ((Catalog.sampleAt 0).stage (invoke .standard 0) (.i32 6) before)) ∧
      (Composition.compose (.single 0) (.single 2)).Present
        (fun function => .leaf (.specialized (Catalog.sampleAt function))) Catalog.sampleWorld ∧
      (Catalog.sampleAt 2).result.kind ≠ .erased ∧
      (Catalog.sampleAt 0).paramKind.isPrimitive = true ∧
      (Catalog.sampleAt 0).paramKind ≠ (Catalog.sampleAt 2).result.kind ∧
      (Composition.compose (.single 0) (.single 2)).build Catalog.sampleWorld =
        .finished (.ok 3) (Catalog.sampleWorld.making [Catalog.sampleSequence 2 0]) ∧
      (∃ after,
        invoke .standard 1 3 (.bool true)
            (Catalog.sampleWorld.making [Catalog.sampleSequence 2 0]) =
          .finished (.error (.kindMismatch ⟨.i32, .void⟩)) after ∧ after.ran = ["sink"]) ∧
      ∀ depth value result after,
        invoke .standard (depth + 1) 3 value
            (Catalog.sampleWorld.making [Catalog.sampleSequence 2 0]) ≠
          .finished (.ok result) after := by
  have fits := @Catalog.present_sampleAt (.andThen (.single 1) (.single 0)) (by decide)
  have clashes := @Catalog.present_sampleAt (.compose (.single 0) (.single 2)) (by decide)
  have typed : Specialized.WellTyped .erased [Catalog.sampleAt 1, Catalog.sampleAt 0] :=
    ⟨by rintro _ ⟨⟩; exact Or.inl rfl, .cons_cons (Or.inr rfl) (.singleton _)⟩
  have built : (Composition.andThen (.single 1) (.single 0)).build Catalog.sampleWorld =
      .finished (.ok 3) (Catalog.sampleWorld.making [Catalog.sampleSequence 1 0]) := rfl
  have otherBuilt : (Composition.compose (.single 0) (.single 2)).build Catalog.sampleWorld =
      .finished (.ok 3) (Catalog.sampleWorld.making [Catalog.sampleSequence 2 0]) := rfl
  obtain ⟨function, made, building, calls⟩ := @seams_decide .standard _ _ _ fits
  obtain ⟨other, more, otherBuilding, otherCalls⟩ := @seams_decide .standard _ _ _ clashes
  obtain ⟨rfl, now⟩ := Computation.result_unique built building
  obtain ⟨rfl, otherNow⟩ := Computation.result_unique otherBuilt otherBuilding
  rw [← now] at calls
  rw [← otherNow] at otherCalls
  refine ⟨fits, typed, built, ⟨_, rfl, rfl⟩, ?_, clashes, by decide, by decide, by decide,
    otherBuilt, ⟨_, rfl, rfl⟩, fun depth value => ?_⟩
  · obtain ⟨stages, _⟩ := (calls _ (.refl _) 0 (.ref 0)).1 typed
    obtain ⟨natives, boxed, agree, _⟩ := stages [Catalog.sampleAt 1] [] _ _ _ rfl rfl
    exact ⟨_, natives, rfl, boxed, agree⟩
  · exact ((otherCalls _ (.refl _) depth value).2 [] [] _ _ rfl (by decide)
      (by decide) (by decide)).1

end Erasure
