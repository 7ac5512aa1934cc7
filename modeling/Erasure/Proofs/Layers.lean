/-
This file proves that the pointers a contract is behind are not observed but by asking for
the identity of the object. A contract behind any number of pointers declares what the
contract declares and is called as the contract is, alone and as a part of sequences and of
tupled forms: the very same computation is done in every world. Curried forms are the one
exception, as their links are new objects that hold the pointers, too; runs with and
without pointers then leave worlds behind that are the same but for pointers.
-/

import Erasure.Proofs.Bare
import Erasure.Proofs.Composition
import Erasure.Proofs.Faults

namespace Erasure

/-! ### Putting contracts behind pointers -/

/-- The object that a handle is, if it is one. -/
def Handle.address? : {arity : Nat} → Handle arity → Option Address
  | _, object address => some address
  | _, wide _ => none

/-- Puts a contract behind several pointers, the first being the outermost. -/
def Handle.forwardAll {arity : Nat} (handle : Handle arity) :
    List Pointer → Computation (Handle arity)
  | [] => return handle
  | pointer :: rest => do
    let inner ← handle.forwardAll rest
    inner.forward pointer

/-- Putting a contract behind pointers succeeds and gives hold of the contract behind them. If that
is an object, it is a new one for every pointer. -/
theorem Handle.forwardAll_eq {arity : Nat} {handle : Handle arity} {contract : Contract arity}
    {world : World} (held : handle.Holds world contract) (pointers : List Pointer) :
    ∃ wrapped made,
      handle.forwardAll pointers world = .finished (.ok wrapped) (world.making made) ∧
      wrapped.Holds (world.making made) (contract.behind pointers) := by
  induction pointers with
  | nil =>
    refine ⟨handle, [], ?_, ?_⟩
    · rw [World.making_nil]
      rfl
    · rw [World.making_nil]
      exact held
  | cons pointer rest inductionHypothesis =>
    obtain ⟨inner, made, building, holds⟩ := inductionHypothesis
    obtain ⟨wrapped, more, forwarding, holdsWrapped⟩ := forward_eq holds pointer
    refine ⟨wrapped, made ++ more, ?_, ?_⟩
    · rw [forwardAll, Computation.bind_of_ok building, forwarding, World.making_making]
    · rw [← World.making_making]
      exact holdsWrapped

/-- An object that is held was made before those that are made next. -/
theorem Handle.Holds.address_lt {arity : Nat} {handle : Handle arity} {contract : Contract arity}
    {world : World} (held : handle.Holds world contract) {own : Address}
    (isOwn : own ∈ handle.address?) : own < world.functions.size := by
  cases handle with
  | object address =>
    cases isOwn
    exact (Array.getElem?_eq_some_iff.mp (holds_object_iff.mp held)).1
  | wide inner => cases isOwn

/-- An object that is held has the signature of the contract. -/
theorem Handle.Holds.signatureAt_eq {arity : Nat} {handle : Handle arity}
    {contract : Contract arity} {world : World} (held : handle.Holds world contract)
    {own : Address} (isOwn : own ∈ handle.address?) :
    world.signatureAt own = contract.signature := by
  cases handle with
  | object address =>
    cases isOwn
    exact World.signatureAt_eq (holds_object_iff.mp held)
  | wide inner => cases isOwn

/-- Putting an object behind a pointer makes the next object. -/
theorem Handle.address_of_forward {arity : Nat} {handle wrapped : Handle arity}
    {contract : Contract arity} {world after : World} {pointer : Pointer}
    (held : handle.Holds world contract)
    (forwarding : handle.forward pointer world = .finished (.ok wrapped) after) {new : Address}
    (isNew : new ∈ wrapped.address?) : new = world.functions.size := by
  cases handle with
  | object address =>
    have found : Computation.lookup address world = .finished (.ok contract) world := held
    rw [forward, Computation.bind_of_ok found] at forwarding
    cases forwarding
    cases isNew
    rfl
  | wide inner =>
    cases forwarding
    cases isNew

/-- An object is put behind pointers without becoming another one only if there are none. -/
theorem Handle.address_forwardAll_iff {arity : Nat} {handle wrapped : Handle arity}
    {contract : Contract arity} {world after : World} {pointers : List Pointer}
    (held : handle.Holds world contract)
    (building : handle.forwardAll pointers world = .finished (.ok wrapped) after)
    {own new : Address} (isOwn : own ∈ handle.address?) (isNew : new ∈ wrapped.address?) :
    new = own ↔ pointers = [] := by
  cases pointers with
  | nil =>
    cases building
    exact iff_of_true (Option.some.inj (isNew.symm.trans isOwn)) rfl
  | cons pointer rest =>
    obtain ⟨inner, made, early, holds⟩ := forwardAll_eq held rest
    rw [forwardAll, Computation.bind_of_ok early] at building
    have ownMade := (held.of_extends (world.making_extends made)).address_lt isOwn
    rw [address_of_forward holds building isNew]
    exact iff_of_false (Nat.ne_of_gt ownMade) (List.cons_ne_nil _ _)

/-! ### Contracts that cannot be told apart -/

/-- Two contracts cannot be told apart by calling them. They declare the same, and whatever the
leaves answer, calls of them call the same leaves on the same arguments, and come to the same in
every world. -/
structure Contract.Indistinguishable (bound : CurryBound) {arity : Nat}
    (first second : Contract arity) : Prop where
  signature : second.signature = first.signature
  accounts : ∀ rule arguments world,
    second.account bound rule arguments world = first.account bound rule arguments world
  calls : ∀ rule arguments,
    second.applyWith bound rule arguments = first.applyWith bound rule arguments

/-- What two handles hold in a world cannot be told apart by calling it. -/
def Handle.Matches (bound : CurryBound) (now : World) {arity : Nat}
    (first second : Handle arity) : Prop :=
  ∃ contract other, first.Holds now contract ∧ second.Holds now other ∧
    contract.Indistinguishable bound other

namespace Contract.Indistinguishable

variable {bound : CurryBound}

/-- Contracts whose calls go the same way also come to the same. -/
theorem of_accounts {arity : Nat} {first second : Contract arity}
    (signature : second.signature = first.signature)
    (accounts : ∀ rule arguments world,
      second.account bound rule arguments world = first.account bound rule arguments world) :
    first.Indistinguishable bound second where
  signature := signature
  accounts := accounts
  calls rule arguments := by
    funext world
    rw [← outcome_account, ← outcome_account, accounts]

/-- Pointers in front of a contract are not noticed. -/
theorem behind {arity : Nat} (contract : Contract arity) (pointers : List Pointer) :
    contract.Indistinguishable bound (contract.behind pointers) := by
  refine of_accounts ?_ fun rule arguments world => ?_
  · induction pointers with
    | nil => rfl
    | cons pointer rest inductionHypothesis => exact inductionHypothesis
  · induction pointers with
    | nil => rfl
    | cons pointer rest inductionHypothesis => exact inductionHypothesis

theorem tupled {arity : Nat} {first second : Contract arity}
    (same : first.Indistinguishable bound second) :
    (Contract.tupled first).Indistinguishable bound (.tupled second) := by
  refine of_accounts rfl fun rule arguments world => ?_
  obtain _ | ⟨value, _ | _⟩ := arguments
  rw [account, account]
  cases argumentsOfTuple arity value with
  | ok items => exact same.accounts rule items world
  | error fault => rfl

theorem sequence {first second otherFirst otherSecond : Contract 1}
    (early : first.Indistinguishable bound otherFirst)
    (late : second.Indistinguishable bound otherSecond) :
    (Contract.sequence first second).Indistinguishable bound
      (.sequence otherFirst otherSecond) := by
  refine of_accounts ?_ fun rule arguments world => ?_
  · rw [Contract.signature, Contract.signature, early.signature, late.signature]
  · rw [account, account, early.accounts]
    exact congrArg _ (funext fun between => funext fun after => by rw [late.accounts])

end Contract.Indistinguishable

/-! ### Compositions with pointers in front of some of their functions -/

/-- Two compositions are put together in one way out of functions that are the same but for
pointers in front of those of the second one. -/
inductive Composition.Layered (contractAt layeredAt : Address → Contract 1) :
    Composition → Composition → Prop
  | single {function layered : Address} (pointers : List Pointer)
    (behind : layeredAt layered = (contractAt function).behind pointers) :
    Layered contractAt layeredAt (.single function) (.single layered)
  | andThen {receiver argument layeredReceiver layeredArgument : Composition}
    (first : Layered contractAt layeredAt receiver layeredReceiver)
    (second : Layered contractAt layeredAt argument layeredArgument) :
    Layered contractAt layeredAt (.andThen receiver argument)
      (.andThen layeredReceiver layeredArgument)
  | compose {receiver argument layeredReceiver layeredArgument : Composition}
    (first : Layered contractAt layeredAt receiver layeredReceiver)
    (second : Layered contractAt layeredAt argument layeredArgument) :
    Layered contractAt layeredAt (.compose receiver argument)
      (.compose layeredReceiver layeredArgument)

theorem Composition.Layered.indistinguishable {bound : CurryBound}
    {contractAt layeredAt : Address → Contract 1} {tree layered : Composition}
    (alike : Layered contractAt layeredAt tree layered) :
    (tree.contract contractAt).Indistinguishable bound (layered.contract layeredAt) := by
  induction alike with
  | @single function layered pointers behind =>
    rw [contract, contract, behind]
    exact .behind (contractAt function) pointers
  | andThen _ _ receiverSame argumentSame => exact .sequence receiverSame argumentSame
  | compose _ _ receiverSame argumentSame => exact .sequence argumentSame receiverSame

/-! ### Pointers are not observed -/

/-- Does one computation after the other and gives both results. -/
def Computation.both {α β : Type} (first : Computation α) (second : Computation β) :
    Computation (α × β) := do
  let early ← first
  let late ← second
  return (early, late)

theorem Computation.both_eq {α β : Type} {first : Computation α} {second : Computation β}
    {early : α} {late : β} {world : World} {made more : List (Contract 1)}
    (one : first world = .finished (.ok early) (world.making made))
    (other : second (world.making made) =
      .finished (.ok late) ((world.making made).making more)) :
    first.both second world = .finished (.ok (early, late)) (world.making (made ++ more)) := by
  rw [both, bind_of_ok one, bind_of_ok other, World.making_making]
  rfl

namespace Handle

variable {bound : CurryBound} {arity : Nat} {handle layered : Handle arity}
  {contract : Contract arity} {pointers : List Pointer} {now : World}

/-- The tupled forms of a contract and of the contract behind pointers cannot be told apart. -/
theorem tupled_matches (held : handle.Holds now contract)
    (heldLayered : layered.Holds now (contract.behind pointers))
    (supported : bound.supports arity = true) :
    ∃ function other made,
      (handle.tupled bound).both (layered.tupled bound) now =
        .finished (.ok (function, other)) (now.making made) ∧
      ∀ later : World, later.Extends (now.making made) →
        (object function).Matches bound later (object other) := by
  have extension := now.making_extends [.tupled contract]
  have one := tupled_eq held supported
  have other := tupled_eq (heldLayered.of_extends extension) supported
  refine ⟨_, _, _, Computation.both_eq one other, fun later kept => ?_⟩
  have found := now.functions_making_size (.tupled contract)
  have foundOther := (now.making [.tupled contract]).functions_making_size
    (.tupled (contract.behind pointers))
  rw [← World.making_making] at kept
  refine ⟨_, _, holds_object_iff.mpr ?_, holds_object_iff.mpr (kept.functions_eq foundOther),
    .tupled (.behind contract pointers)⟩
  exact (kept.trans (World.making_extends _ _)).functions_eq found

/-- The function of one parameter is its own curried form, and no other function is. -/
theorem address?_eq_curried_iff (held : handle.Holds now contract) {function : Address}
    {after : World} (curried : handle.curried bound now = .finished (.ok function) after) :
    handle.address? = some function ↔ arity = 1 := by
  cases handle with
  | object address =>
    cases curried
    exact iff_of_true rfl rfl
  | wide inner => exact iff_of_false nofun (by omega)

/-- The curried forms of a contract and of the contract behind pointers gather arguments alike. All
that sets chains of their calls apart is that the links of the second one hold the pointers. -/
theorem curried_matches (held : handle.Holds now contract)
    (heldLayered : layered.Holds now (contract.behind pointers))
    (supported : bound.supports arity = true) :
    ∃ function other made,
      (handle.curried bound).both (layered.curried bound) now =
        .finished (.ok (function, other)) (now.making made) ∧
      (handle.address? = some function ↔ arity = 1) ∧
      (layered.address? = some other ↔ arity = 1) ∧
      ∀ later : World, later.Extends (now.making made) →
        later.signatureAt other = later.signatureAt function ∧
        (∀ arguments : Row Value arity, ∃ links layeredLinks, ∀ rule,
          (callWith bound rule).chain function arguments.toList later =
            contract.applyWith bound rule arguments (later.making links) ∧
          (callWith bound rule).chain other arguments.toList later =
            contract.applyWith bound rule arguments (later.making layeredLinks)) ∧
        ∀ depth value rest,
          ((invoke bound depth).chain other (value :: rest) later).bare =
            ((invoke bound depth).chain function (value :: rest) later).bare := by
  obtain ⟨fewer, rfl⟩ := CurryBound.exists_succ_of_supports supported
  obtain ⟨function, made, currying, found⟩ := curried_eq held supported
  have stillHeld := heldLayered.of_extends (now.making_extends made)
  obtain ⟨other, more, curryingLayered, foundOther⟩ := curried_eq stillHeld supported
  refine ⟨function, other, _, Computation.both_eq currying curryingLayered,
    address?_eq_curried_iff held currying, address?_eq_curried_iff stillHeld curryingLayered,
    fun later extension => ?_⟩
  rw [← World.making_making] at extension
  have kept := (extension.trans (World.making_extends _ _)).functions_eq found
  have keptOther := extension.functions_eq foundOther
  have same : contract.Indistinguishable bound (contract.behind pointers) :=
    .behind contract pointers
  have bare : (contract.behind pointers).link.bare = contract.link.bare := by
    rw [Contract.bare_link, Contract.bare_link, Contract.bare_behind]
  refine ⟨?_, fun arguments => ?_, invoke_chain_bare kept keptOther bare⟩
  · rw [World.signatureAt_eq kept, World.signatureAt_eq keptOther, ← Contract.signature_bare, bare,
      Contract.signature_bare]
  · obtain ⟨links, called⟩ := chain_of_arguments kept supported arguments
    obtain ⟨layeredLinks, calledOther⟩ := chain_of_arguments keptOther supported arguments
    refine ⟨links, layeredLinks, fun rule => ⟨called rule, ?_⟩⟩
    rw [calledOther rule, same.calls]

end Handle

/-- Compositions that are put together alike, with pointers in front of some of the functions of the
second one, cannot be told apart. -/
theorem Composition.Layered.matches {bound : CurryBound} {contractAt layeredAt : Address → Contract 1}
    {tree layered : Composition} (alike : Layered contractAt layeredAt tree layered) {now : World}
    (present : tree.Present contractAt now) (presentLayered : layered.Present layeredAt now) :
    ∃ function other made,
      tree.build.both layered.build now =
        .finished (.ok (function, other)) (now.making made) ∧
      ∀ later : World, later.Extends (now.making made) →
        (Handle.object function).Matches bound later (.object other) := by
  obtain ⟨function, made, building, found⟩ := build_eq present
  obtain ⟨other, more, buildingLayered, foundOther⟩ :=
    build_eq (presentLayered.of_extends (now.making_extends made))
  refine ⟨function, other, _, Computation.both_eq building buildingLayered,
    fun later extension => ?_⟩
  rw [← World.making_making] at extension
  refine ⟨_, _, Handle.holds_object_iff.mpr ?_,
    Handle.holds_object_iff.mpr (extension.functions_eq foundOther), alike.indistinguishable⟩
  exact (extension.trans (World.making_extends _ _)).functions_eq found

/-- Pointers are not observed. Putting a contract behind any number of pointers succeeds. In every
world that has come about since, the contract behind the pointers declares what the contract
declares, and each call of it calls the same leaves and comes to the same. As objects the two have
the same texts, and they are equal only if there are no pointers. Tupling and currying are refused
of both alike. The tupled forms cannot be told apart either. The curried forms are the functions
themselves for a single parameter and new objects otherwise; a chain of calls on all arguments is
one call of the contract, and any chain comes to the same on both sides, but for the pointers that
its links hold. Compositions cannot be told apart from those with pointers in front of some of
their functions. -/
theorem Handle.pointers_unobservable {bound : CurryBound} {arity : Nat} {handle : Handle arity}
    {contract : Contract arity} {world : World} (held : handle.Holds world contract)
    (pointers : List Pointer) :
    ∃ wrapped made,
      handle.forwardAll pointers world = .finished (.ok wrapped) (world.making made) ∧
      ∀ now : World, now.Extends (world.making made) →
        handle.Matches bound now wrapped ∧
        (∀ own ∈ handle.address?, ∀ new ∈ wrapped.address?,
          now.text (.func new) = now.text (.func own) ∧
          now.layout (.func new) = now.layout (.func own) ∧
          Contract.layoutOf (now.signatureAt new) = Contract.layoutOf (now.signatureAt own) ∧
          ((Value.func new).same (.func own) = true ↔ pointers = [])) ∧
        (bound.supports arity = false →
          handle.tupled bound = refuse "tupled" arity ∧
          wrapped.tupled bound = refuse "tupled" arity ∧
          handle.curried bound = refuse "curried" arity ∧
          wrapped.curried bound = refuse "curried" arity) ∧
        (bound.supports arity = true →
          (∃ function other made,
            (handle.tupled bound).both (wrapped.tupled bound) now =
              .finished (.ok (function, other)) (now.making made) ∧
            ∀ later : World, later.Extends (now.making made) →
              (object function).Matches bound later (object other)) ∧
          ∃ function other made,
            (handle.curried bound).both (wrapped.curried bound) now =
              .finished (.ok (function, other)) (now.making made) ∧
            (handle.address? = some function ↔ arity = 1) ∧
            (wrapped.address? = some other ↔ arity = 1) ∧
            ∀ later : World, later.Extends (now.making made) →
              later.signatureAt other = later.signatureAt function ∧
              (∀ arguments : Row Value arity, ∃ links layeredLinks, ∀ rule,
                (callWith bound rule).chain function arguments.toList later =
                  contract.applyWith bound rule arguments (later.making links) ∧
                (callWith bound rule).chain other arguments.toList later =
                  contract.applyWith bound rule arguments (later.making layeredLinks)) ∧
              ∀ depth value rest,
                ((invoke bound depth).chain other (value :: rest) later).bare =
                  ((invoke bound depth).chain function (value :: rest) later).bare) ∧
        ∀ (tree layered : Composition) (contractAt layeredAt : Address → Contract 1),
          tree.Layered contractAt layeredAt layered →
          tree.Present contractAt now → layered.Present layeredAt now →
          ∃ function other made,
            tree.build.both layered.build now =
              .finished (.ok (function, other)) (now.making made) ∧
            ∀ later : World, later.Extends (now.making made) →
              (object function).Matches bound later (object other) := by
  obtain ⟨wrapped, made, building, holds⟩ := forwardAll_eq held pointers
  refine ⟨wrapped, made, building, fun now extension => ?_⟩
  have stillHeld := (held.of_extends (world.making_extends made)).of_extends extension
  have wrappedHeld := holds.of_extends extension
  have same : contract.Indistinguishable bound (contract.behind pointers) :=
    .behind contract pointers
  refine ⟨⟨contract, _, stillHeld, wrappedHeld, same⟩, fun own isOwn new isNew => ?_,
    fun unsupported => ?_, fun supported => ?_,
    fun _ _ _ _ alike present => alike.matches present⟩
  · have signatures : now.signatureAt new = now.signatureAt own := by
      rw [wrappedHeld.signatureAt_eq isNew, stillHeld.signatureAt_eq isOwn, same.signature]
    refine ⟨?_, ?_, congrArg Contract.layoutOf signatures, ?_⟩
    · rw [World.text, World.text, Value.text, Value.text, signatures]
    · rw [World.layout, World.layout, Value.layout, Value.layout, signatures]
    · rw [Value.same_iff, Value.func.injEq]
      exact address_forwardAll_iff held building isOwn isNew
  · exact ⟨tupled_of_not_supported unsupported handle, tupled_of_not_supported unsupported wrapped,
      curried_of_not_supported unsupported handle, curried_of_not_supported unsupported wrapped⟩
  · exact ⟨tupled_matches stillHeld wrappedHeld supported,
      curried_matches stillHeld wrappedHeld supported⟩

namespace Catalog

/-- The square of an integer behind two pointers. -/
def layeredSquare : Contract 1 :=
  .forward .shared (.forward .owned (.leaf (.specialized (sampleAt 0))))

/-- The sample world after the square was put behind the pointers, which made two objects. -/
def layeredWorld : World :=
  sampleWorld.making [.forward .owned (.leaf (.specialized (sampleAt 0))), layeredSquare]

/-- The contracts of that world by address, with the square behind both pointers at the last one. -/
def layeredAt : Address → Contract 1
  | 4 => layeredSquare
  | function => .leaf (.specialized (sampleAt function))

theorem present_layeredAt :
    (Composition.andThen (.single 1) (.single 4)).Present layeredAt layeredWorld := by
  intro function member
  obtain rfl | rfl : function = 1 ∨ function = 4 := List.mem_pair.mp member
  · rfl
  · rfl

/-- The difference of two integers, as a contract. -/
def difference : Contract 2 :=
  .leaf (.specialized (subI32 "difference"))

end Catalog

/-- The square of an integer behind two pointers is another object with the same text. It is called as
the square is, also in tupled form and behind the position of a kind. The difference of two integers
can be curried behind a pointer, too: both chains of calls come to the difference. -/
theorem Handle.pointers_unobservable_square :
    (Handle.object 0).Holds Catalog.sampleWorld (.leaf (.specialized (Catalog.sampleAt 0))) ∧
      (Handle.object 0).forwardAll [.shared, .owned] Catalog.sampleWorld =
        .finished (.ok (.object 4)) Catalog.layeredWorld ∧
      (Handle.object 0).Matches .standard Catalog.layeredWorld (.object 4) ∧
      Catalog.layeredWorld.text (.func 4) = Catalog.layeredWorld.text (.func 0) ∧
      (Value.func 4).same (.func 0) = false ∧
      (∃ function other made,
        ((Handle.object 0).tupled .standard).both ((Handle.object 4).tupled .standard)
            Catalog.layeredWorld =
          .finished (.ok (function, other)) (Catalog.layeredWorld.making made) ∧
        (Handle.object function).Matches .standard (Catalog.layeredWorld.making made)
          (.object other)) ∧
      (∃ function other made,
        (Composition.andThen (.single 1) (.single 0)).build.both
            (Composition.andThen (.single 1) (.single 4)).build Catalog.layeredWorld =
          .finished (.ok (function, other)) (Catalog.layeredWorld.making made) ∧
        (Handle.object function).Matches .standard (Catalog.layeredWorld.making made)
          (.object other)) ∧
      (Handle.wide Catalog.difference).Holds {} Catalog.difference ∧
      ∃ function other made,
        ((Handle.wide Catalog.difference).curried .standard).both
            ((Handle.wide (.forward .owned Catalog.difference)).curried .standard) {} =
          .finished (.ok (function, other)) (World.making {} made) ∧
        ∀ address ∈ [function, other], ∃ after,
          (invoke .standard 1).chain address [.i32 7, .i32 5] (World.making {} made) =
            .finished (.ok (.i32 2)) after ∧ after.ran = ["difference"] := by
  have held : (Handle.object 0).Holds Catalog.sampleWorld
      (.leaf (.specialized (Catalog.sampleAt 0))) := rfl
  have built : (Handle.object 0).forwardAll [.shared, .owned] Catalog.sampleWorld =
      .finished (.ok (.object 4)) Catalog.layeredWorld := rfl
  have heldWide : (Handle.wide Catalog.difference).Holds {} Catalog.difference := rfl
  have builtWide : (Handle.wide Catalog.difference).forwardAll [.owned] {} =
      .finished (.ok (.wide (.forward .owned Catalog.difference))) {} := rfl
  have present : (Composition.andThen (.single 1) (.single 0)).Present
      (fun function => .leaf (.specialized (Catalog.sampleAt function))) Catalog.layeredWorld :=
    Composition.Present.of_extends (Catalog.present_sampleAt (by decide))
      (World.making_extends _ _)
  obtain ⟨wrapped, made, building, unobserved⟩ :=
    @Handle.pointers_unobservable .standard 1 _ _ _ held [.shared, .owned]
  obtain ⟨rfl, now⟩ := Computation.result_unique built building
  rw [← now] at unobserved
  obtain ⟨same, objects, _, transforms, compositions⟩ := unobserved _ (.refl _)
  obtain ⟨text, _, _, distinct⟩ := objects 0 rfl 4 rfl
  obtain ⟨⟨function, other, more, tupling, tupledSame⟩, _⟩ := transforms (by decide)
  obtain ⟨first, second, parts, composing, composedSame⟩ := compositions _ _ _ Catalog.layeredAt
    (.andThen (.single [] rfl) (.single [.shared, .owned] rfl)) present Catalog.present_layeredAt
  obtain ⟨_, _, buildingWide, unobservedWide⟩ :=
    @Handle.pointers_unobservable .standard 2 _ _ _ heldWide [.owned]
  obtain ⟨rfl, nowWide⟩ := Computation.result_unique builtWide buildingWide
  rw [← nowWide] at unobservedWide
  obtain ⟨_, _, _, transformsWide, _⟩ := unobservedWide _ (.refl _)
  obtain ⟨_, left, right, links, currying, _, _, chains⟩ := transformsWide (by decide)
  obtain ⟨_, called, _⟩ := chains _ (.refl _)
  obtain ⟨_, _, agree⟩ := called (.cons (.i32 7) (.cons (.i32 5) .nil))
  obtain ⟨early, late⟩ := agree fun _ function arguments =>
    function.apply (invoke .standard 0) arguments
  refine ⟨held, built, same, text, Bool.eq_false_iff.mpr fun equal => ?_,
    ⟨function, other, more, tupling, tupledSame _ (.refl _)⟩,
    ⟨first, second, parts, composing, composedSame _ (.refl _)⟩, heldWide, left, right, links,
    currying, ?_⟩
  · exact List.cons_ne_nil _ _ (distinct.mp equal)
  · intro address member
    obtain rfl | rfl := List.mem_pair.mp member
    · exact ⟨_, early, rfl⟩
    · exact ⟨_, late, rfl⟩

end Erasure
