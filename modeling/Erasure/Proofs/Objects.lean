/-
This file says what the transforms of contracts make. Each of them that is not refused
adds one object to the world and changes nothing else, and the contract of that object
is known from the contract it was made of. What a call of an object comes to is said
here for leaves that answer by any rule, so that a law about such calls holds for leaves
of every kind and for every depth of nested calls.
-/

import Erasure.Contract.Apply

namespace Erasure

/-! ### Worlds with more objects -/

namespace World

/-- The world with more objects, which were made one after the other. -/
def making (world : World) (contracts : List (Contract 1)) : World :=
  { world with functions := world.functions ++ contracts.toArray }

@[simp]
theorem making_nil (world : World) : world.making [] = world := by
  rw [making, Array.append_empty]

/-- Objects that are made one group after the other are made together. -/
@[simp]
theorem making_making (world : World) (first second : List (Contract 1)) :
    (world.making first).making second = world.making (first ++ second) := by
  simp only [making, Array.append_assoc, List.append_toArray]

/-- A new object is found at the first address that was free. -/
theorem functions_making_size (world : World) (contract : Contract 1) :
    (world.making [contract]).functions[world.functions.size]? = some contract := by
  rw [making, ← Array.push_eq_append]
  exact Array.getElem?_push_size

/-- The signature at an address is that of the contract there. -/
theorem signatureAt_eq {world : World} {address : Address} {contract : Contract 1}
    (found : world.functions[address]? = some contract) :
    world.signatureAt address = contract.signature := by
  rw [signatureAt, found]

/-- A world extends another one if it has all its objects at their addresses and perhaps some
more. -/
def Extends (later earlier : World) : Prop :=
  ∃ made : List (Contract 1), later.functions.toList = earlier.functions.toList ++ made

theorem Extends.refl (world : World) : world.Extends world :=
  ⟨[], (List.append_nil _).symm⟩

theorem Extends.trans {first second third : World} (later : third.Extends second)
    (earlier : second.Extends first) : third.Extends first := by
  obtain ⟨moreMade, laterFunctions⟩ := later
  obtain ⟨made, earlierFunctions⟩ := earlier
  exact ⟨made ++ moreMade, by rw [laterFunctions, earlierFunctions, List.append_assoc]⟩

theorem making_extends (world : World) (contracts : List (Contract 1)) :
    (world.making contracts).Extends world :=
  ⟨contracts, by rw [making, Array.toList_append]⟩

/-- An object stays at its address. -/
theorem Extends.functions_eq {later earlier : World} (extension : later.Extends earlier)
    {address : Address} {contract : Contract 1}
    (found : earlier.functions[address]? = some contract) :
    later.functions[address]? = some contract := by
  obtain ⟨made, functions⟩ := extension
  rw [← Array.getElem?_toList] at found ⊢
  rw [functions]
  exact List.getElem?_append_left (List.getElem?_eq_some_iff.mp found).1 ▸ found

end World

namespace Computation

/-- In a world a computation comes to one result and to one world after it. -/
theorem result_unique {α : Type} {computation : Computation α} {world after last : World}
    {result other : α} (ended : computation world = .finished (.ok result) after)
    (again : computation world = .finished (.ok other) last) : result = other ∧ after = last := by
  rw [ended] at again
  cases again
  exact ⟨rfl, rfl⟩

/-- A new object stands behind all others, at the first address that was free. -/
theorem allocate_eq (contract : Contract 1) (world : World) :
    allocate contract world =
      .finished (.ok world.functions.size) (world.making [contract]) := by
  rw [allocate, World.making, ← Array.push_eq_append]

/-- Looking a function up changes nothing. -/
theorem lookup_eq_iff {world : World} {address : Address} {contract : Contract 1} :
    lookup address world = .finished (.ok contract) world ↔
      world.functions[address]? = some contract := by
  rw [lookup]
  cases world.functions[address]? <;> simp

end Computation

/-! ### Held contracts -/

/-- A handle holds a contract in a world if the contract is what is called through it there. -/
def Handle.Holds {arity : Nat} (handle : Handle arity) (world : World)
    (contract : Contract arity) : Prop :=
  handle.contract world = .finished (.ok contract) world

theorem Handle.holds_object_iff {world : World} {address : Address} {contract : Contract 1} :
    (object address).Holds world contract ↔ world.functions[address]? = some contract :=
  Computation.lookup_eq_iff

theorem Handle.holds_wide_iff {fewer : Nat} {world : World}
    {held contract : Contract (fewer + 2)} : (wide held).Holds world contract ↔ held = contract := by
  constructor
  · intro holds
    cases holds
    rfl
  · rintro rfl
    rfl

/-- What is held stays held when objects are made. -/
theorem Handle.Holds.of_extends {arity : Nat} {handle : Handle arity} {world later : World}
    {contract : Contract arity} (held : handle.Holds world contract)
    (extension : later.Extends world) : handle.Holds later contract := by
  cases handle with
  | object address =>
    rw [holds_object_iff] at held ⊢
    exact extension.functions_eq held
  | wide inner =>
    rw [holds_wide_iff] at held ⊢
    exact held

/-! ### Transforms -/

/-- The curried form of a contract, which for a single parameter is the contract itself. -/
def Contract.link : {fewer : Nat} → Contract (fewer + 1) → Contract 1
  | 0, contract => contract
  | _ + 1, contract => .curried contract

namespace Handle

/-- A contract that is taken hold of is held from then on. -/
theorem share_eq {fewer : Nat} (contract : Contract (fewer + 1)) (world : World) :
    ∃ handle made, Handle.share contract world = .finished (.ok handle) (world.making made) ∧
      handle.Holds (world.making made) contract := by
  cases fewer with
  | zero =>
    exact ⟨.object world.functions.size, [contract],
      Computation.bind_of_ok (Computation.allocate_eq contract world) _,
      holds_object_iff.mpr (world.functions_making_size contract)⟩
  | succ fewer =>
    refine ⟨.wide contract, [], ?_, holds_wide_iff.mpr rfl⟩
    rw [World.making_nil]
    rfl

/-- Putting a contract behind a pointer gives hold of the forwarding contract. -/
theorem forward_eq {arity : Nat} {handle : Handle arity} {contract : Contract arity}
    {world : World} (held : handle.Holds world contract) (pointer : Pointer) :
    ∃ wrapped made,
      handle.forward pointer world = .finished (.ok wrapped) (world.making made) ∧
      wrapped.Holds (world.making made) (.forward pointer contract) := by
  cases handle with
  | object address =>
    have found : Computation.lookup address world = .finished (.ok contract) world := held
    refine ⟨.object world.functions.size, [.forward pointer contract], ?_,
      holds_object_iff.mpr (world.functions_making_size _)⟩
    rw [forward, Computation.bind_of_ok found]
    exact Computation.bind_of_ok (Computation.allocate_eq _ world) _
  | wide inner =>
    obtain rfl := holds_wide_iff.mp held
    refine ⟨.wide (.forward pointer inner), [], ?_, holds_wide_iff.mpr rfl⟩
    rw [World.making_nil]
    rfl

/-- Currying gives the curried form, at the address of a new object if that is not the function
itself. -/
theorem curried_eq {bound : CurryBound} {fewer : Nat} {handle : Handle (fewer + 1)}
    {contract : Contract (fewer + 1)} {world : World} (held : handle.Holds world contract)
    (supported : bound.supports (fewer + 1) = true) :
    ∃ function made, handle.curried bound world = .finished (.ok function) (world.making made) ∧
      (world.making made).functions[function]? = some contract.link := by
  cases handle with
  | object address =>
    refine ⟨address, [], ?_, ?_⟩
    · rw [World.making_nil]
      rfl
    · rw [World.making_nil]
      exact holds_object_iff.mp held
  | wide inner =>
    obtain rfl := holds_wide_iff.mp held
    refine ⟨world.functions.size, [.curried inner], ?_, world.functions_making_size _⟩
    rw [curried, if_pos supported, Computation.allocate_eq]

/-- A tupled form within the bound is one new object, whatever it is made of. -/
theorem tupled_eq {bound : CurryBound} {arity : Nat} {handle : Handle arity}
    {contract : Contract arity} {world : World} (held : handle.Holds world contract)
    (supported : bound.supports arity = true) :
    handle.tupled bound world =
      .finished (.ok world.functions.size) (world.making [.tupled contract]) := by
  cases handle with
  | object address =>
    have found : Computation.lookup address world = .finished (.ok contract) world := held
    rw [tupled, Computation.bind_of_ok found, Computation.allocate_eq]
  | wide inner =>
    obtain rfl := holds_wide_iff.mp held
    rw [tupled, if_pos supported, Computation.allocate_eq]

/-- A contract with too many parameters is not curried. -/
theorem curried_of_not_supported {bound : CurryBound} {arity : Nat}
    (unsupported : bound.supports arity = false) (handle : Handle arity) :
    handle.curried bound = refuse "curried" arity := by
  cases handle with
  | object address => exact absurd unsupported (by cases bound <;> decide)
  | wide inner =>
    rw [curried, unsupported]
    rfl

theorem tupled_of_not_supported {bound : CurryBound} {arity : Nat}
    (unsupported : bound.supports arity = false) (handle : Handle arity) :
    handle.tupled bound = refuse "tupled" arity := by
  cases handle with
  | object address => exact absurd unsupported (by cases bound <;> decide)
  | wide inner =>
    rw [tupled, unsupported]
    rfl

theorem supports_of_curried {bound : CurryBound} {arity : Nat} {handle : Handle arity}
    {world after : World} {function : Address}
    (curried : handle.curried bound world = .finished (.ok function) after) :
    bound.supports arity = true := by
  cases supported : bound.supports arity with
  | true => rfl
  | false =>
    rw [curried_of_not_supported supported] at curried
    cases curried

theorem supports_of_tupled {bound : CurryBound} {arity : Nat} {handle : Handle arity}
    {world after : World} {function : Address}
    (tupled : handle.tupled bound world = .finished (.ok function) after) :
    bound.supports arity = true := by
  cases supported : bound.supports arity with
  | true => rfl
  | false =>
    rw [tupled_of_not_supported supported] at tupled
    cases tupled

/-- The curried form of a contract that was just made is a new object, if it is not refused. -/
theorem share_curried_eq {bound : CurryBound} {fewer : Nat} (contract : Contract (fewer + 1)) :
    (Handle.share contract >>= fun rest => rest.curried bound) =
      if bound.supports (fewer + 1) then Computation.allocate contract.link
      else refuse "curried" (fewer + 1) := by
  cases fewer with
  | zero =>
    rw [if_pos (by cases bound <;> decide)]
    exact Computation.bind_pure (Computation.allocate contract)
  | succ fewer => rfl

end Handle

theorem andThen_eq {first second : Address} {firstPart secondPart : Contract 1} {world : World}
    (foundFirst : world.functions[first]? = some firstPart)
    (foundSecond : world.functions[second]? = some secondPart) :
    andThen first second world =
      .finished (.ok world.functions.size) (world.making [.sequence firstPart secondPart]) := by
  rw [andThen, Computation.bind_of_ok (Computation.lookup_eq_iff.mpr foundFirst),
    Computation.bind_of_ok (Computation.lookup_eq_iff.mpr foundSecond), Computation.allocate_eq]

/-! ### Calls of objects -/

/-- Calls the function at an address, in whose contract the leaves answer by the given rule. -/
def callWith (bound : CurryBound) (rule : LeafRule) : CallRule := fun function argument => do
  let contract ← Computation.lookup function
  contract.applyWith bound rule (.single argument)

/-- Functions that bodies may call to a depth of nested calls are called by such a rule. -/
theorem invoke_succ (bound : CurryBound) (depth : Nat) :
    invoke bound (depth + 1) =
      callWith bound fun _ function arguments => function.apply (invoke bound depth) arguments :=
  rfl

theorem callWith_eq {bound : CurryBound} {rule : LeafRule} {world : World} {function : Address}
    {contract : Contract 1} (found : world.functions[function]? = some contract)
    (argument : Value) :
    callWith bound rule function argument world =
      contract.applyWith bound rule (.single argument) world :=
  Computation.bind_of_ok (Computation.lookup_eq_iff.mpr found) _

/-- A curried form that is called makes the curried form of what is left when its first argument is
fixed, or is refused that. -/
theorem Contract.applyWith_curried_eq {bound : CurryBound} {fewer : Nat}
    (inner : Contract (fewer + 2)) (rule : LeafRule) (argument : Value) :
    (Contract.curried inner).applyWith bound rule (.single argument) =
      (if bound.supports (fewer + 1) then
        Computation.allocate (Contract.bound inner argument).link
      else refuse "curried" (fewer + 1)) >>= fun link => pure (Value.func link) := by
  rw [← Handle.share_curried_eq, bind_assoc]
  rfl

/-- A curried form that is called fixes its first argument and answers with the curried form of
what is left. -/
theorem Contract.applyWith_curried {bound : CurryBound} {fewer : Nat}
    (inner : Contract (fewer + 2)) (supported : bound.supports (fewer + 2) = true)
    (rule : LeafRule) (argument : Value) (world : World) :
    (Contract.curried inner).applyWith bound rule (.single argument) world =
      .finished (.ok (.func world.functions.size))
        (world.making [(Contract.bound inner argument).link]) := by
  have fewerSupported : bound.supports (fewer + 1) = true :=
    CurryBound.supports_of_le (by omega) (by omega) supported
  rw [applyWith_curried_eq, if_pos fewerSupported,
    Computation.bind_of_ok (Computation.allocate_eq _ world)]
  rfl

end Erasure
