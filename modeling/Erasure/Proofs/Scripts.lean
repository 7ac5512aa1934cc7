/-
This file proves that raising the bound on currying changes nothing for those who never
ran into it. A script of which no request for a transform is refused under the standard
bound is carried out in the same way under the raised one: every step has the same answer,
runs the same bodies and logs the same events, and the names that it binds stand for the
same things. Only requests that the standard bound refuses come out differently, and of
these the raised bound still refuses the ones for the widest contracts.
-/

import Erasure.Proofs.Raising
import Erasure.Script.Session

namespace Erasure

/-- The transform that a step asks for, of the function with the given name. -/
def Step.transform? : Step → Option (Transform × String × Targets)
  | curried function targets => some (.curried, function, targets)
  | tupled function targets => some (.tupled, function, targets)
  | _ => none

/-- An answer is anything but a refusal. -/
def Answer.Granted (answer : Answer) : Prop :=
  ∀ refusal, answer ≠ .refusal refusal

/-! ### Sessions of what could be curried -/

/-- Whatever is curried in what a name is bound to could be curried under the bound. -/
def Binding.Curriable (limit : CurryBound) : Binding → Prop
  | contract held => held.handle.Curriable limit
  | value _ => True
  | fault _ => True

/-- Whatever is curried in a session could be curried under the bound. -/
structure Session.Curriable (limit : CurryBound) (session : Session) : Prop where
  world : session.world.Curriable limit
  bindings : ∀ bound ∈ session.bindings, bound.2.Curriable limit

/-- There is nothing curried in the session that every script begins with. -/
theorem Session.curriable_empty (limit : CurryBound) : Session.Curriable limit {} where
  world contract member := absurd member (Array.not_mem_empty contract)
  bindings := List.forall_mem_nil _

namespace Script

variable {α β : Type} {limit : CurryBound}

/-- Two scripts agree if they do the same in every session of what could be curried. They leave such
a session behind, and a result that they come to has the given property. -/
structure Agree (limit : CurryBound) (property : α → Prop) (script other : Script α) : Prop where
  same : ∀ session, session.Curriable limit → other session = script session
  keeps : ∀ {session result after}, session.Curriable limit →
    script session = .ok (result, after) → after.Curriable limit ∧ property result

variable {property : α → Prop}

theorem Agree.pure {result : α} (had : property result) :
    Agree limit property (pure result) (pure result) where
  same _ _ := rfl
  keeps curriable ended := by
    cases ended
    exact ⟨curriable, had⟩

/-- A script that only gives a result agrees with itself. -/
theorem Agree.skip (result : α) :
    Agree limit (fun _ => True) (Pure.pure result) (Pure.pure result) :=
  .pure trivial

/-- What is known of a result may be forgotten. -/
theorem Agree.weaken {script other : Script α} (agree : script.Agree limit property other) :
    script.Agree limit (fun _ => True) other where
  same := agree.same
  keeps curriable ended := ⟨(agree.keeps curriable ended).1, trivial⟩

theorem Agree.throw (rejection : Rejection) :
    Agree limit property (throw rejection) (throw rejection) where
  same _ _ := rfl
  keeps _ ended := by cases ended

theorem bind_eq (script : Script α) (next : α → Script β) (session : Session) :
    (script >>= next) session = (script session).bind fun pair => next pair.1 pair.2 := rfl

/-- What is done one after the other comes to its end through a session between. -/
theorem exists_of_bind_ok {script : Script α} {next : α → Script β} {session after : Session}
    {result : β} (ended : (script >>= next) session = .ok (result, after)) :
    ∃ early between, script session = .ok (early, between) ∧
      next early between = .ok (result, after) := by
  rw [bind_eq] at ended
  cases done : script session with
  | error rejection =>
    rw [done] at ended
    cases ended
  | ok pair =>
    rw [done] at ended
    exact ⟨pair.1, pair.2, rfl, ended⟩

/-- What is done one after the other agrees if its parts do. -/
theorem Agree.bind {script other : Script α} {next otherNext : α → Script β} {last : β → Prop}
    (first : script.Agree limit property other)
    (second : ∀ result, property result → (next result).Agree limit last (otherNext result)) :
    (script >>= next).Agree limit last (other >>= otherNext) where
  same session curriable := by
    rw [bind_eq, bind_eq, first.same session curriable]
    cases ended : script session with
    | error rejection => rfl
    | ok pair =>
      obtain ⟨kept, had⟩ := first.keeps curriable ended
      exact (second pair.1 had).same pair.2 kept
  keeps curriable ended := by
    obtain ⟨early, between, done, rest⟩ := exists_of_bind_ok ended
    obtain ⟨kept, had⟩ := first.keeps curriable done
    exact (second early had).keeps kept rest

theorem Agree.map {script other : Script α} (change : α → β)
    (agree : script.Agree limit property other) :
    Agree limit (fun _ => True) (change <$> script) (change <$> other) :=
  .bind agree fun _ _ => .pure trivial

theorem Agree.get : Agree limit (Session.Curriable limit) get get where
  same _ _ := rfl
  keeps curriable ended := by
    cases ended
    exact ⟨curriable, curriable⟩

theorem Agree.set {session : Session} (curriable : session.Curriable limit) :
    Agree limit (fun _ => True) (set session) (set session) where
  same _ _ := rfl
  keeps _ ended := by
    cases ended
    exact ⟨curriable, trivial⟩

/-- A session may be changed into any other one of what could be curried. -/
theorem Agree.modify {update : Session → Session}
    (keeps : ∀ session, session.Curriable limit → (update session).Curriable limit) :
    Agree limit (fun _ => True) (modify update) (modify update) where
  same _ _ := rfl
  keeps {session result after} curriable ended := by
    cases ended
    exact ⟨keeps session curriable, trivial⟩

/-! ### What scripts are put together from -/

theorem meaningless_agree : Agree limit property meaningless meaningless :=
  .throw _

theorem need_agree (option : Option α) (had : ∀ found, option = some found → property found) :
    Agree limit property (need option) (need option) := by
  cases option with
  | none => exact meaningless_agree
  | some found => exact .pure (had found rfl)

/-- Doing computations agrees if the computations do. -/
theorem perform_agree {computation other : Computation α}
    (agree : computation.Agree limit property other) :
    Agree limit (fun answer => ∀ result, answer = .ok result → property result)
      (perform computation) (perform other) := by
  refine .bind .get fun session curriable => ?_
  rw [agree.same session.world curriable.world]
  cases ended : computation session.world with
  | unanswered => exact .throw _
  | finished answer after =>
    obtain ⟨kept, had⟩ := agree.keeps curriable.world ended
    exact .bind (.modify fun _ before => ⟨kept, before.bindings⟩) fun _ _ => .pure had

/-- A fault where none can be is a step without meaning under both bounds. -/
theorem performSafely_agree {computation other : Computation α}
    (agree : computation.Agree limit property other) :
    Agree limit property (performSafely computation) (performSafely other) := by
  refine .bind (perform_agree agree) fun answer had => ?_
  cases answer with
  | ok result => exact .pure (had result rfl)
  | error fault => exact meaningless_agree

/-- What a name is bound to could be curried, like all that is bound. -/
theorem lookup_agree (name : String) :
    Agree limit (Binding.Curriable limit) (lookup name) (lookup name) := by
  refine .bind .get fun session curriable => need_agree _ fun found bound => ?_
  obtain ⟨before, after, parts, _⟩ := List.lookup_eq_some_iff.mp bound
  exact curriable.bindings (name, found) (parts ▸ List.mem_append_right _ List.mem_cons_self)

theorem bindName_agree (name : String) {binding : Binding} (curriable : binding.Curriable limit) :
    Agree limit (fun _ => True) (bindName name binding) (bindName name binding) :=
  .modify fun _ before => ⟨before.world, List.forall_mem_cons.mpr ⟨curriable, before.bindings⟩⟩

theorem bindName?_agree (name : Option String) {binding : Binding}
    (curriable : binding.Curriable limit) :
    Agree limit (fun _ => True) (bindName? name binding) (bindName? name binding) := by
  cases name with
  | none => exact .pure trivial
  | some name => exact bindName_agree name curriable

theorem forget_agree (name : String) : Agree limit (fun _ => True) (forget name) (forget name) :=
  .modify fun _ before =>
    ⟨before.world, fun bound member => before.bindings bound (List.mem_of_mem_filter member)⟩

/-- A contract that is found by its name could be curried, and so could a function among the values,
which the world holds. -/
theorem contractOf_agree (name : String) :
    Agree limit (fun contract => contract.handle.Curriable limit) (contractOf name)
      (contractOf name) := by
  refine .bind (lookup_agree name) fun binding curriable => ?_
  match binding with
  | .contract contract => exact .pure curriable
  | .value (.func address) => exact .pure trivial
  | .value (.i32 _) | .value (.i64 _) | .value (.f32 _) | .value (.f64 _) | .value (.bool _)
  | .value .unit | .value (.ref _) | .value (.tuple _) | .fault _ => exact meaningless_agree

theorem objectOf_agree (name : String) :
    Agree limit (fun _ => True) (objectOf name) (objectOf name) := by
  refine .bind (contractOf_agree name) fun contract _ => ?_
  match contract with
  | ⟨0, .object address, _⟩ => exact .pure trivial
  | ⟨fewer + 1, handle, _⟩ => exact meaningless_agree

/-! ### Literals and answers -/

theorem refer_agree (payload : Payload) :
    Agree limit (fun _ => True) (refer payload) (refer payload) :=
  .bind .get fun _ before => .bind (.set ⟨before.world, before.bindings⟩) fun _ _ => .pure trivial

mutual

/-- Literals have the same value under both bounds, as they make references and no objects. -/
theorem evaluate_agree : ∀ literal : Literal,
    Agree limit (fun _ => True) (evaluate literal) (evaluate literal)
  | .i32 _ | .i64 _ | .f32 _ | .f64 _ | .bool _ | .unit => .pure trivial
  | .tuple items => .bind (evaluateAll_agree items) fun _ _ => .pure trivial
  | .ref payload => .bind (evaluatePayload_agree payload) fun content _ => refer_agree content
  | .repeated count item => .bind (evaluate_agree item) fun _ _ => .pure trivial
  | .nested depth item => .bind (evaluate_agree item) fun _ _ => .pure trivial
  | .variable name => by
    refine .bind (lookup_agree name) fun binding _ => ?_
    match binding with
    | .value value => exact .pure trivial
    | .contract ⟨0, .object address, _⟩ => exact .pure trivial
    | .contract ⟨fewer + 1, handle, _⟩ => exact meaningless_agree
    | .fault _ => exact meaningless_agree

theorem evaluateAll_agree : ∀ literals : List Literal,
    Agree limit (fun _ => True) (evaluateAll literals) (evaluateAll literals)
  | [] => .pure trivial
  | literal :: rest =>
    .bind (evaluate_agree literal) fun _ _ =>
      .bind (evaluateAll_agree rest) fun _ _ => .pure trivial

theorem evaluatePayload_agree : ∀ payload : LiteralPayload,
    Agree limit (fun _ => True) (evaluatePayload payload) (evaluatePayload payload)
  | .text _ | .i32 _ | .unit => .pure trivial
  | .value literal => .bind (evaluate_agree literal) fun _ _ => .pure trivial

end

theorem shown_agree (value : Value) :
    Agree limit (fun _ => True) (shown value) (shown value) :=
  .bind .get fun _ before => .bind (.set ⟨before.world, before.bindings⟩) fun _ _ => .pure trivial

theorem shownAll_agree (values : List Value) :
    Agree limit (fun _ => True) (shownAll values) (shownAll values) := by
  induction values with
  | nil => exact .pure trivial
  | cons value rest inductionHypothesis =>
    exact .bind (shown_agree value) fun _ _ => .bind inductionHypothesis fun _ _ => .pure trivial

/-- What is told about a contract does not depend on the bound. -/
theorem report_agree {contract : HeldContract} (curriable : contract.handle.Curriable limit) :
    Agree limit (fun _ => True) (report contract) (report contract) := by
  refine .bind (performSafely_agree (Handle.contract_agree curriable)) fun term _ => ?_
  match contract with
  | ⟨fewer + 1, handle, _⟩ => exact .bind (.skip none) fun _ _ => .pure trivial
  | ⟨0, .object address, _⟩ =>
    refine .bind (shown_agree (.func address)) fun shown _ => ?_
    cases shown <;> exact .bind (.skip _) fun _ _ => .pure trivial

/-- A contract that is bound is told about, which is no refusal. -/
theorem bindContract_agree (name : String) {contract : HeldContract}
    (curriable : contract.handle.Curriable limit) :
    Agree limit Answer.Granted (bindContract name contract) (bindContract name contract) :=
  .bind (bindName_agree name curriable) fun _ _ =>
    .bind (report_agree curriable) fun _ _ => .pure fun _ => nofun

theorem finish_agree (targets : Targets) (answer : Except Fault Value) :
    Agree limit (fun _ => True) (finish targets answer) (finish targets answer) := by
  cases answer with
  | ok value =>
    exact .bind (bindName?_agree targets.result trivial) fun _ _ =>
      .bind (shown_agree value) fun _ _ => .pure trivial
  | error fault => exact .bind (bindName?_agree targets.fault trivial) fun _ _ => .pure trivial

/-- What is observed of scripts that agree is the same. -/
theorem observe_agree {script other : Script α} (agree : script.Agree limit property other) :
    Agree limit (fun observed => property observed.content) (observe script) (observe other) :=
  .bind agree fun _ had => .bind .get fun _ _ =>
    .bind (.modify fun _ before => ⟨before.world, before.bindings⟩) fun _ _ => .pure had

theorem partsOf_agree (value : Value) :
    Agree limit (fun _ => True) (partsOf value) (partsOf value) := by
  refine .bind .get fun session _ => ?_
  match value with
  | .ref address =>
    exact .bind (.map some (shown_agree (.ref address))) fun _ _ =>
      .bind (.skip _) fun _ _ => .bind (.skip _) fun _ _ => .pure trivial
  | .func address =>
    exact .bind (.skip _) fun _ _ =>
      .bind (.map some (shown_agree (.func address))) fun _ _ =>
        .bind (.skip _) fun _ _ => .pure trivial
  | .tuple items =>
    exact .bind (.skip _) fun _ _ => .bind (.skip _) fun _ _ =>
      .bind (.map some (shownAll_agree items)) fun _ _ => .pure trivial
  | .i32 _ | .i64 _ | .f32 _ | .f64 _ | .bool _ | .unit =>
    exact .bind (.skip _) fun _ _ => .bind (.skip _) fun _ _ =>
      .bind (.skip _) fun _ _ => .pure trivial

/-- A function that is made is a leaf, in which nothing is curried. -/
theorem makeFunction_agree (name : String) (recipe : Recipe) :
    Agree limit (fun contract => contract.handle.Curriable limit) (makeFunction name recipe)
      (makeFunction name recipe) := by
  refine .bind .get fun session before => .bind (need_agree _ fun _ _ => trivial) fun made _ => ?_
  obtain ⟨fewer, leaf⟩ := made
  have leafCurriable : (Contract.leaf leaf).Curriable limit := trivial
  exact .bind (.set ⟨before.world, before.bindings⟩) fun _ _ =>
    .bind (performSafely_agree (Handle.share_agree leafCurriable)) fun _ kept => .pure kept

/-! ### Steps under two bounds -/

section Bounds

variable {narrow wide : CurryBound}

/-- Direct calls under two bounds can differ by the calls that the body makes alone. -/
theorem callDirectly_agree (wider : narrow.limit ≤ wide.limit) {arity : Nat}
    (function : Specialized arity) (path : DirectPath) (arguments : Row Value arity) :
    (callDirectly narrow function path arguments).Agree narrow (fun _ => True)
      (callDirectly wide function path arguments) := by
  refine .bind (Computation.Agree.congruence.unboxingAll _ _) fun natives _ => ?_
  have called :=
    Computation.Agree.congruence.callNative (invoke_agree wider callDepth) function natives
  cases path <;>
    exact .bind called fun answer _ => Computation.Agree.congruence.carryOver function answer

/-- A chain goes on with the same function under both bounds, as the call before it agreed. -/
theorem callChain_agree (wider : narrow.limit ≤ wide.limit) (targets : Targets)
    (function : Address) (values : List Value) :
    Agree narrow (fun _ => True) (callChain narrow targets function values)
      (callChain wide targets function values) := by
  induction values generalizing function with
  | nil => exact .pure trivial
  | cons value rest inductionHypothesis =>
    refine .bind (perform_agree (invoke_agree wider callDepth function value)) fun answer _ =>
      .bind (observe_agree (finish_agree _ answer)) fun first _ => ?_
    match answer with
    | .ok (.func next) => exact .bind (inductionHypothesis next) fun _ _ => .pure trivial
    | .ok (.i32 _) | .ok (.i64 _) | .ok (.f32 _) | .ok (.f64 _) | .ok (.bool _) | .ok .unit
    | .ok (.ref _) | .ok (.tuple _) | .error _ => exact .pure trivial

/-- What a transform gives is bound, and its refusal answered, alike under both bounds. -/
theorem transform_agree (targets : Targets) {computation other : Computation Address}
    (agree : computation.Agree narrow (fun _ => True) other) :
    Agree narrow (fun _ => True) (transform targets computation) (transform targets other) := by
  refine .bind (perform_agree agree) fun answer _ => ?_
  match answer with
  | .ok address =>
    exact .bind (need_agree _ fun _ _ => trivial) fun name _ =>
      .weaken (bindContract_agree name trivial)
  | .error (.unsupported refusal) =>
    exact .bind (bindName?_agree targets.fault trivial) fun _ _ => .pure trivial
  | .error (.kindMismatch _) | .error (.tupleMismatch _ _) | .error (.user _) =>
    exact meaningless_agree

/-- A step that asks for no transform is carried out alike under both bounds, and is not refused. -/
theorem carryOut_agree (wider : narrow.limit ≤ wide.limit) {step : Step}
    (other : step.transform? = none) :
    Agree narrow Answer.Granted (carryOut narrow step) (carryOut wide step) := by
  cases step with
  | letValue name literal =>
    exact .bind (evaluate_agree literal) fun value _ => .bind (bindName_agree name trivial)
      fun _ _ => .bind (shown_agree value) fun _ _ => .pure fun _ => nofun
  | describe literal =>
    exact .bind (evaluate_agree literal) fun _ _ => .bind .get fun _ _ => .pure fun _ => nofun
  | access literal =>
    exact .bind (evaluate_agree literal) fun value _ => .bind (partsOf_agree value)
      fun _ _ => .pure fun _ => nofun
  | compare left right =>
    exact .bind (evaluate_agree left) fun _ _ => .bind (evaluate_agree right)
      fun _ _ => .pure fun _ => nofun
  | unbox type literal =>
    refine .bind (evaluate_agree literal) fun value _ =>
      .bind (perform_agree (Computation.Agree.congruence.unboxing type value)) fun answer _ => ?_
    cases answer with
    | ok native => exact .bind (shown_agree _) fun _ _ => .pure fun _ => nofun
    | error fault => exact .pure fun _ => nofun
  | makeFunction name recipe =>
    exact .bind (makeFunction_agree name recipe) fun _ curriable =>
      bindContract_agree name curriable
  | wrap name function pointer =>
    exact .bind (contractOf_agree function) fun _ curriable =>
      .bind (performSafely_agree (Handle.forward_agree pointer curriable)) fun _ wrapped =>
        bindContract_agree name wrapped
  | signature function =>
    exact .bind (contractOf_agree function) fun _ curriable =>
      .bind (performSafely_agree (Handle.contract_agree curriable)) fun _ _ => .pure fun _ => nofun
  | apply function literals targets =>
    exact .bind (contractOf_agree function) fun _ curriable =>
      .bind (evaluateAll_agree literals) fun _ _ =>
        .bind (need_agree _ fun _ _ => trivial) fun arguments _ =>
          .bind (perform_agree (Handle.apply_agree wider callDepth curriable arguments))
            fun answer _ => .bind (finish_agree targets answer) fun _ _ => .pure fun _ => nofun
  | direct function path literals targets =>
    exact .bind (contractOf_agree function) fun _ _ =>
      .bind (need_agree _ fun _ _ => trivial) fun specialized _ =>
        .bind (evaluateAll_agree literals) fun _ _ =>
          .bind (need_agree _ fun _ _ => trivial) fun arguments _ =>
            .bind (perform_agree (callDirectly_agree wider specialized path arguments))
              fun answer _ => .bind (finish_agree targets answer) fun _ _ => .pure fun _ => nofun
  | chain function literals targets =>
    exact .bind (objectOf_agree function) fun address _ =>
      .bind (evaluateAll_agree literals) fun values _ =>
        .bind (callChain_agree wider targets address values) fun _ _ => .pure fun _ => nofun
  | curried function targets => cases other
  | tupled function targets => cases other
  | andThen name first second =>
    exact .bind (objectOf_agree first) fun firstObject _ =>
      .bind (objectOf_agree second) fun secondObject _ =>
        .bind (performSafely_agree (andThen_agree firstObject secondObject)) fun _ _ =>
          bindContract_agree name trivial
  | compose name after before =>
    exact .bind (objectOf_agree after) fun afterObject _ =>
      .bind (objectOf_agree before) fun beforeObject _ =>
        .bind (performSafely_agree (andThen_agree beforeObject afterObject)) fun _ _ =>
          bindContract_agree name trivial
  | makeFault name fault =>
    exact .bind (bindName_agree name trivial) fun _ _ => .pure fun _ => nofun
  | downcast name type =>
    refine .bind (lookup_agree name) fun binding _ => ?_
    cases binding with
    | contract contract => exact meaningless_agree
    | value value => exact meaningless_agree
    | fault fault =>
      dsimp only
      cases fault.downcast type with
      | error kept => exact .bind (bindName_agree name trivial) fun _ _ => .pure fun _ => nofun
      | ok failure =>
        cases failure with
        | call inner => exact .bind (bindName_agree name trivial) fun _ _ => .pure fun _ => nofun
        | _ => exact .bind (forget_agree name) fun _ _ => .pure fun _ => nofun

/-! ### Steps that ask for transforms -/

/-- A step that asks for a transform finds a contract and makes one request for it. -/
theorem carryOut_eq_of_transform {step : Step} {transform : Transform} {function : String}
    {targets : Targets} (asked : step.transform? = some (transform, function, targets))
    (bound : CurryBound) :
    carryOut bound step = contractOf function >>= fun contract =>
      Script.transform targets (transform.request bound contract.handle) := by
  cases step <;> cases asked <;> rfl

/-- A request that is refused is answered with the refusal. -/
theorem transform_refuse (targets : Targets) (operation : String) (arity : Nat)
    (session : Session) : ∃ after,
      transform targets (refuse operation arity) session =
        .ok (.refusal ⟨operation, arity⟩, after) := by
  cases targets with
  | mk result fault => cases fault <;> exact ⟨_, rfl⟩

/-- A step that is not refused under the lower bound is carried out alike under both. -/
theorem carryOut_same (wider : narrow.limit ≤ wide.limit) {step : Step} {session : Session}
    (curriable : session.Curriable narrow)
    (granted : ∀ {answer after}, carryOut narrow step session = .ok (answer, after) →
      answer.Granted) :
    carryOut wide step session = carryOut narrow step session ∧
      ∀ {answer after}, carryOut narrow step session = .ok (answer, after) →
        after.Curriable narrow := by
  cases asked : step.transform? with
  | none =>
    have agree := carryOut_agree wider asked
    exact ⟨agree.same session curriable, fun ended => (agree.keeps curriable ended).1⟩
  | some request =>
    obtain ⟨transform, function, targets⟩ := request
    rw [carryOut_eq_of_transform asked, bind_eq] at granted ⊢
    rw [carryOut_eq_of_transform asked, bind_eq]
    cases named : contractOf function session with
    | error rejection => exact ⟨rfl, nofun⟩
    | ok pair =>
      obtain ⟨contract, after⟩ := pair
      obtain ⟨kept, held⟩ := (contractOf_agree function).keeps curriable named
      cases supported : narrow.supports (contract.fewer + 1) with
      | true =>
        have agree := transform_agree targets (transform.request_agree wider supported held)
        exact ⟨agree.same after kept, fun ended => (agree.keeps kept ended).1⟩
      | false =>
        -- Above the lower bound the answer would have been a refusal.
        rw [named] at granted
        obtain ⟨last, refused⟩ :=
          transform_refuse targets transform.operation (contract.fewer + 1) after
        refine absurd rfl (granted (Eq.trans ?_ refused) _)
        show Script.transform targets (transform.request narrow contract.handle) after = _
        rw [Transform.request_of_not_supported supported]

/-! ### Whole scripts -/

/-- No step of a script is refused, as far as the script can be carried out. -/
def Unrefused (bound : CurryBound) (steps : List Step) (session : Session) : Prop :=
  ∀ {before answers after}, before <+: steps →
    carryOutAll bound before session = .ok (answers, after) →
    ∀ answer ∈ answers, answer.content.Granted

theorem observe_eq (script : Script α) (session : Session) :
    observe script session = (script session).bind fun pair =>
      .ok (⟨pair.1, pair.2.world.ran, pair.2.world.log⟩,
        { pair.2 with world := { pair.2.world with trace := #[] } }) := rfl

/-- A script is given up at the first step that is rejected. -/
theorem carryOutAll_cons_of_error {bound : CurryBound} {step : Step} {session : Session}
    {rejection : Rejection} (ended : observe (carryOut bound step) session = .error rejection)
    (rest : List Step) : carryOutAll bound (step :: rest) session = .error rejection := by
  rw [carryOutAll, bind_eq, ended]
  rfl

theorem carryOutAll_cons_of_ok {bound : CurryBound} {step : Step} {session after : Session}
    {first : Observed Answer} (ended : observe (carryOut bound step) session = .ok (first, after))
    (rest : List Step) :
    carryOutAll bound (step :: rest) session =
      (carryOutAll bound rest after).bind fun others => .ok (first :: others.1, others.2) := by
  rw [carryOutAll, bind_eq, ended]
  rfl

/-- The first step is not refused, as a script may end behind it. -/
theorem Unrefused.head {bound : CurryBound} {step : Step} {rest : List Step}
    {session after : Session} {answer : Answer}
    (unrefused : Unrefused bound (step :: rest) session)
    (ended : carryOut bound step session = .ok (answer, after)) : answer.Granted := by
  have observed : ∃ first last, observe (carryOut bound step) session = .ok (first, last) ∧
      first.content = answer := by
    rw [observe_eq, ended]
    exact ⟨_, _, rfl, rfl⟩
  obtain ⟨first, last, alone, rfl⟩ := observed
  exact unrefused (List.prefix_append [step] rest) (carryOutAll_cons_of_ok alone []) first
    List.mem_cons_self

/-- What is left of a script is not refused anything either. -/
theorem Unrefused.tail {bound : CurryBound} {step : Step} {rest : List Step}
    {session after : Session} {first : Observed Answer}
    (unrefused : Unrefused bound (step :: rest) session)
    (ended : observe (carryOut bound step) session = .ok (first, after)) :
    Unrefused bound rest after := by
  intro before answers last start ran answer member
  have together : carryOutAll bound (step :: before) session = .ok (first :: answers, last) := by
    rw [carryOutAll_cons_of_ok ended, ran]
    rfl
  exact unrefused ((List.prefix_cons_inj step).mpr start) together answer
    (List.mem_cons_of_mem first member)

theorem observe_same {script other : Script α} {session : Session}
    (same : other session = script session) : observe other session = observe script session := by
  rw [observe_eq, observe_eq, same]

theorem curriable_of_observe {limit : CurryBound} {script : Script α} {session after : Session}
    {observed : Observed α} (ended : observe script session = .ok (observed, after))
    (kept : ∀ {result last}, script session = .ok (result, last) → last.Curriable limit) :
    after.Curriable limit := by
  obtain ⟨result, last, done, rest⟩ := exists_of_bind_ok ended
  cases rest
  exact ⟨(kept done).world, (kept done).bindings⟩

/-- A script that is not refused anything under the lower bound is carried out alike under both. -/
theorem carryOutAll_same (wider : narrow.limit ≤ wide.limit) {steps : List Step}
    {session : Session} (curriable : session.Curriable narrow)
    (unrefused : Unrefused narrow steps session) :
    carryOutAll wide steps session = carryOutAll narrow steps session := by
  -- That everything in the session could be curried under the lower bound is what each step hands
  -- on to the next.
  induction steps generalizing session with
  | nil => rfl
  | cons step rest inductionHypothesis =>
    obtain ⟨same, kept⟩ := carryOut_same wider curriable unrefused.head
    have observed := observe_same same
    cases ended : observe (carryOut narrow step) session with
    | error rejection =>
      rw [carryOutAll_cons_of_error ended, carryOutAll_cons_of_error (observed.trans ended)]
    | ok pair =>
      rw [carryOutAll_cons_of_ok ended, carryOutAll_cons_of_ok (observed.trans ended),
        inductionHypothesis (curriable_of_observe ended kept) (unrefused.tail ended)]

end Bounds

/-! ### Which steps are refused -/

section Refusals

variable {bound : CurryBound} {session after : Session}

theorem finished_of_perform {computation : Computation α} {answer : Except Fault α}
    (ended : perform computation session = .ok (answer, after)) :
    computation session.world = .finished answer after.world := by
  obtain ⟨before, between, got, rest⟩ := exists_of_bind_ok ended
  cases got
  cases done : computation session.world with
  | unanswered =>
    rw [done] at rest
    cases rest
  | finished answer last =>
    rw [done] at rest
    cases rest
    rfl

/-- A contract that was bound is an answer that is no refusal. -/
theorem bindContract_granted {name : String} {contract : HeldContract} {answer : Answer}
    (ended : bindContract name contract session = .ok (answer, after)) : answer.Granted := by
  obtain ⟨_, _, _, told⟩ := exists_of_bind_ok ended
  obtain ⟨_, _, _, answered⟩ := exists_of_bind_ok told
  cases answered
  exact fun _ => nofun

/-- A transform that the bound allows is not refused. -/
theorem transform_granted {arity : Nat} (supported : bound.supports arity = true)
    {handle : Handle arity} {asked : Transform} {targets : Targets} {answer : Answer}
    (ended : transform targets (asked.request bound handle) session = .ok (answer, after)) :
    answer.Granted := by
  obtain ⟨result, between, performed, rest⟩ := exists_of_bind_ok ended
  have requested := finished_of_perform performed
  match result with
  | .ok address =>
    obtain ⟨name, _, _, bound⟩ := exists_of_bind_ok rest
    exact bindContract_granted bound
  | .error (.unsupported refusal) =>
    exact absurd requested (asked.request_of_supports supported handle)
  | .error (.kindMismatch _) | .error (.tupleMismatch _ _) | .error (.user _) => cases rest

/-- A step is refused only if it asks for a transform of a contract that lies above the bound. -/
theorem unsupported_of_refusal {step : Step} {refusal : Unsupported}
    (curriable : session.Curriable bound)
    (refused : carryOut bound step session = .ok (.refusal refusal, after)) :
    ∃ asked function targets contract between,
      step.transform? = some (asked, function, targets) ∧
      contractOf function session = .ok (contract, between) ∧
      bound.supports (contract.fewer + 1) = false := by
  cases asks : step.transform? with
  | none =>
    have granted := ((carryOut_agree (Nat.le_refl bound.limit) asks).keeps curriable refused).2
    exact absurd rfl (granted refusal)
  | some request =>
    obtain ⟨asked, function, targets⟩ := request
    rw [carryOut_eq_of_transform asks] at refused
    obtain ⟨contract, between, named, rest⟩ := exists_of_bind_ok refused
    refine ⟨asked, function, targets, contract, between, rfl, named, ?_⟩
    cases supported : bound.supports (contract.fewer + 1) with
    | true => exact absurd rfl (transform_granted supported rest refusal)
    | false => rfl

theorem unrefused_nil : Unrefused bound [] session := by
  intro before answers last start ran
  cases List.prefix_nil.mp start
  cases ran
  exact List.forall_mem_nil _

/-- A script is not refused if every transform that it asks for is one of a contract within the
bound. -/
theorem Unrefused.cons {step : Step} {rest : List Step} (curriable : session.Curriable bound)
    (within : ∀ {asked function targets contract between},
      step.transform? = some (asked, function, targets) →
      contractOf function session = .ok (contract, between) →
      bound.supports (contract.fewer + 1) = true)
    (others : ∀ {first after}, observe (carryOut bound step) session = .ok (first, after) →
      after.Curriable bound → Unrefused bound rest after) :
    Unrefused bound (step :: rest) session := by
  have granted {answer last} (ended : carryOut bound step session = .ok (answer, last)) :
      answer.Granted := by
    rintro refusal rfl
    obtain ⟨_, _, _, _, _, asks, named, unsupported⟩ := unsupported_of_refusal curriable ended
    exact absurd (within asks named) (by rw [unsupported]; decide)
  intro before answers last start ran
  cases before with
  | nil =>
    cases ran
    exact List.forall_mem_nil _
  | cons head before =>
    obtain ⟨rfl, shorter⟩ := List.cons_prefix_cons.mp start
    obtain ⟨first, between, ended, onwards⟩ := exists_of_bind_ok ran
    obtain ⟨later, _, ranLater, answered⟩ := exists_of_bind_ok onwards
    cases answered
    have kept := curriable_of_observe ended
      (carryOut_same (Nat.le_refl bound.limit) curriable granted).2
    obtain ⟨result, _, done, told⟩ := exists_of_bind_ok ended
    cases told
    exact List.forall_mem_cons.mpr ⟨granted done, others ended kept shorter ranLater⟩

end Refusals

/-! ### The raised bound -/

/-- The raised bound takes nothing back. A script of which no request for a transform is refused
under the standard bound is carried out in the same way under the raised one, with the same answers,
the same bodies run and the same records logged for every step, and the same session in the end.
The standard bound refuses requests for contracts of more than eight parameters. Such a request is
refused under the raised bound exactly if it is for a contract of twenty-two, and then with the same
refusal. Nothing happens for a refused request but that the refusal is noted, so that no contract is
called for it. -/
theorem raising_conserves :
    (∀ steps : List Step, Unrefused .standard steps {} →
      carryOutAll .raised steps {} = carryOutAll .standard steps {}) ∧
    ∀ {arity : Nat} (handle : Handle arity) (world : World) (transform : Transform)
      (refusal : Unsupported),
      (transform.Refused .standard handle world refusal ↔
        8 < arity ∧ refusal = ⟨transform.operation, arity⟩) ∧
      (transform.Refused .standard handle world refusal → ∀ other,
        (transform.Refused .raised handle world other ↔ arity = 22 ∧ other = refusal)) ∧
      ∀ (bound : CurryBound) (after : World),
        transform.request bound handle world = .finished (.error (.unsupported refusal)) after →
        after = world.noting [.refused refusal] ∧ after.ran = world.ran := by
  refine ⟨fun steps unrefused => ?_, fun handle world transform refusal => ⟨?_, ?_, ?_⟩⟩
  · exact carryOutAll_same (by decide) (Session.curriable_empty .standard) unrefused
  · exact transform.refused_iff
  · exact fun refused other => transform.refused_raised_iff refused other
  · intro bound after refused
    obtain ⟨_, _, rfl⟩ := transform.request_refused_iff.mp refused
    refine ⟨rfl, ?_⟩
    rw [← World.record_eq_noting, World.ran_record]
    exact List.append_nil _

/-- A script that makes the sum of two integers, curries it and calls it on one after the other. -/
def sumScript : List Step :=
  [.makeFunction "sum" .addI32, .curried "sum" ⟨some "links", none⟩,
    .chain "links" [.i32 1, .i32 2] {}]

/-- A sum is curried and called alike under both bounds. A contract of nine parameters can be
curried under the raised one only, the widest one under neither. -/
theorem raising_conserves_sum :
    (Unrefused .standard sumScript {} ∧
      carryOutAll .raised sumScript {} = carryOutAll .standard sumScript {}) ∧
    (∀ nine : Contract 9, Transform.curried.Refused .standard (.wide nine) {} ⟨"curried", 9⟩ ∧
      ∀ other, ¬ Transform.curried.Refused .raised (.wide nine) {} other) ∧
    ∀ widest : Contract 22,
      Transform.curried.Refused .standard (.wide widest) {} ⟨"curried", 22⟩ ∧
      Transform.curried.Refused .raised (.wide widest) {} ⟨"curried", 22⟩ := by
  have unrefused : Unrefused .standard sumScript {} := by
    refine Unrefused.cons (Session.curriable_empty .standard) nofun fun made curriable => ?_
    cases made
    refine Unrefused.cons curriable (fun asks named => ?_) fun _ later =>
      Unrefused.cons later (fun asks => ?_) fun _ _ => unrefused_nil
    · cases asks
      cases named
      rfl
    · cases asks
  refine ⟨⟨unrefused, raising_conserves.1 _ unrefused⟩, fun nine => ?_, fun widest => ?_⟩
  · have refused : Transform.curried.Refused .standard (.wide nine) {} ⟨"curried", 9⟩ := ⟨_, rfl⟩
    refine ⟨refused, fun other again => ?_⟩
    have only := (raising_conserves.2 (.wide nine) {} .curried ⟨"curried", 9⟩).2.1 refused other
    exact absurd (only.mp again).1 (by decide)
  · have refused : Transform.curried.Refused .standard (.wide widest) {} ⟨"curried", 22⟩ := ⟨_, rfl⟩
    exact ⟨refused, ((raising_conserves.2 (.wide widest) {} .curried ⟨"curried", 22⟩).2.1
      refused ⟨"curried", 22⟩).mpr ⟨rfl, rfl⟩⟩

end Script

end Erasure
