/-
This file says which contracts can be built out of given leaves. On one side stand the
operations, each done in a world that others may have changed in between: taking hold of
a leaf, putting a contract behind a pointer, composing, currying, tupling, and calling a
curried form on some of its arguments. On the other side stands a property of contracts,
that all their leaves are among the given ones. Whatever the operations give has it.
-/

import Erasure.Proofs.Currying

namespace Erasure

/-- A class of leaves. -/
abbrev LeafClass := (arity : Nat) → Leaf arity → Prop

/-- The leaves that are specialized functions. -/
def LeafClass.specialized : LeafClass := fun _ function =>
  ∃ specialized, function = .specialized specialized

/-- All leaves of a contract are of the given class. -/
def Contract.BuiltFrom (leaves : LeafClass) : {arity : Nat} → Contract arity → Prop
  | arity, leaf function => leaves arity function
  | _, forward _ inner => inner.BuiltFrom leaves
  | _, sequence first second => first.BuiltFrom leaves ∧ second.BuiltFrom leaves
  | _, tupled inner => inner.BuiltFrom leaves
  | _, curried inner => inner.BuiltFrom leaves
  | _, bound inner _ => inner.BuiltFrom leaves

/-- What the operations on contracts give hold of in a world, if leaves of the given class are all
there is to begin with. -/
inductive Obtained (bound : CurryBound) (leaves : LeafClass) :
    World → {arity : Nat} → Handle arity → Prop
  /-- A leaf that was taken hold of. -/
  | leaf {fewer : Nat} {world after : World} {handle : Handle (fewer + 1)}
    {function : Leaf (fewer + 1)} (allowed : leaves (fewer + 1) function)
    (shared : Handle.share (.leaf function) world = .finished (.ok handle) after) :
    Obtained bound leaves after handle
  /-- What was obtained before other objects came into the world. -/
  | earlier {arity : Nat} {world later : World} {handle : Handle arity}
    (obtained : Obtained bound leaves world handle) (extension : later.Extends world) :
    Obtained bound leaves later handle
  /-- A contract behind a pointer. -/
  | forward {arity : Nat} {world after : World} {handle wrapped : Handle arity}
    {pointer : Pointer} (obtained : Obtained bound leaves world handle)
    (made : handle.forward pointer world = .finished (.ok wrapped) after) :
    Obtained bound leaves after wrapped
  /-- A function followed by another one. -/
  | andThen {world after : World} {first second function : Address}
    (obtainedFirst : Obtained bound leaves world (.object first))
    (obtainedSecond : Obtained bound leaves world (.object second))
    (made : Erasure.andThen first second world = .finished (.ok function) after) :
    Obtained bound leaves after (.object function)
  /-- A function that comes after another one. -/
  | compose {world after : World} {last before function : Address}
    (obtainedLast : Obtained bound leaves world (.object last))
    (obtainedBefore : Obtained bound leaves world (.object before))
    (made : Erasure.compose last before world = .finished (.ok function) after) :
    Obtained bound leaves after (.object function)
  /-- A curried form that was not refused. -/
  | curried {arity : Nat} {world after : World} {handle : Handle arity} {function : Address}
    (obtained : Obtained bound leaves world handle)
    (made : handle.curried bound world = .finished (.ok function) after) :
    Obtained bound leaves after (.object function)
  /-- A tupled form that was not refused. -/
  | tupled {arity : Nat} {world after : World} {handle : Handle arity} {function : Address}
    (obtained : Obtained bound leaves world handle)
    (made : handle.tupled bound world = .finished (.ok function) after) :
    Obtained bound leaves after (.object function)
  /-- A link, which a curried form answers with that was called on some but not all arguments. -/
  | link {arity : Nat} {world after now later : World} {handle : Handle arity}
    {function link : Address} {rule : LeafRule} {values : List Value}
    (obtained : Obtained bound leaves world handle)
    (made : handle.curried bound world = .finished (.ok function) after)
    (extension : now.Extends after) (short : values.length < arity)
    (called : (callWith bound rule).chain function values now = .finished (.ok (.func link)) later) :
    Obtained bound leaves later (.object link)

/-! ### What the operations keep -/

/-- A property of contracts that leaves of the given class have and that every operation hands on to
what it makes. Of the transforms only those that are not refused need to hand it on. -/
structure Inherited (bound : CurryBound) (leaves : LeafClass)
    (property : {arity : Nat} → Contract arity → Prop) : Prop where
  leaf : ∀ {arity : Nat} {function : Leaf arity},
    leaves arity function → property (.leaf function)
  forward : ∀ {arity : Nat} {inner : Contract arity} (pointer : Pointer),
    property inner → property (.forward pointer inner)
  sequence : ∀ {first second : Contract 1},
    property first → property second → property (.sequence first second)
  tupled : ∀ {arity : Nat} {inner : Contract arity},
    bound.supports arity = true → property inner → property (.tupled inner)
  curried : ∀ {arity : Nat} {inner : Contract (arity + 2)},
    bound.supports (arity + 2) = true → property inner → property (.curried inner)
  fixed : ∀ {arity : Nat} {inner : Contract (arity + 2)} (first : Value),
    property inner → property (.bound inner first)

namespace Inherited

variable {bound : CurryBound} {leaves : LeafClass}
  {property : {arity : Nat} → Contract arity → Prop}

theorem link (inherited : Inherited bound leaves property) {fewer : Nat}
    {contract : Contract (fewer + 1)} (supported : bound.supports (fewer + 1) = true)
    (had : property contract) : property contract.link := by
  cases fewer with
  | zero => exact had
  | succ fewer => exact inherited.curried supported had

theorem supply (inherited : Inherited bound leaves property) {count fewer : Nat}
    {contract : Contract (fewer + count + 1)} (had : property contract)
    (values : Row Value count) : property (contract.supply values) := by
  induction values with
  | nil => exact had
  | cons first rest inductionHypothesis => exact inductionHypothesis (inherited.fixed first had)

/-- Two properties that are handed on are handed on together. -/
theorem and {other : {arity : Nat} → Contract arity → Prop}
    (first : Inherited bound leaves property) (second : Inherited bound leaves other) :
    Inherited bound leaves fun contract => property contract ∧ other contract where
  leaf allowed := ⟨first.leaf allowed, second.leaf allowed⟩
  forward pointer had := ⟨first.forward pointer had.1, second.forward pointer had.2⟩
  sequence early late := ⟨first.sequence early.1 late.1, second.sequence early.2 late.2⟩
  tupled supported had := ⟨first.tupled supported had.1, second.tupled supported had.2⟩
  curried supported had := ⟨first.curried supported had.1, second.curried supported had.2⟩
  fixed value had := ⟨first.fixed value had.1, second.fixed value had.2⟩

/-- That all leaves are of the given class is handed on. -/
theorem builtFrom (bound : CurryBound) (leaves : LeafClass) :
    Inherited bound leaves (Contract.BuiltFrom leaves) where
  leaf := id
  forward _ := id
  sequence := And.intro
  tupled _ := id
  curried _ := id
  fixed _ := id

end Inherited

namespace Obtained

variable {bound : CurryBound} {leaves : LeafClass}
  {property : {arity : Nat} → Contract arity → Prop}

/-- A handle holds a contract that has a property. -/
def Sound (property : {arity : Nat} → Contract arity → Prop) (world : World) {arity : Nat}
    (handle : Handle arity) : Prop :=
  ∃ contract, handle.Holds world contract ∧ property contract

/-- What an operation gives at once is held from then on. -/
theorem sound_object {world : World} {function : Address} {contract : Contract 1}
    (found : world.functions[function]? = some contract) (had : property contract) :
    Sound property world (.object function) :=
  ⟨contract, Handle.holds_object_iff.mpr found, had⟩

theorem sound_andThen (inherited : Inherited bound leaves property) {world after : World}
    {first second function : Address} (soundFirst : Sound property world (.object first))
    (soundSecond : Sound property world (.object second))
    (made : Erasure.andThen first second world = .finished (.ok function) after) :
    Sound property after (.object function) := by
  obtain ⟨firstPart, heldFirst, hadFirst⟩ := soundFirst
  obtain ⟨secondPart, heldSecond, hadSecond⟩ := soundSecond
  rw [andThen_eq (Handle.holds_object_iff.mp heldFirst) (Handle.holds_object_iff.mp heldSecond)]
    at made
  cases made
  exact sound_object (world.functions_making_size _) (inherited.sequence hadFirst hadSecond)

/-- Whatever the operations give hold of has a property that is handed on. -/
theorem inherits (inherited : Inherited bound leaves property) {world : World} {arity : Nat}
    {handle : Handle arity} (obtained : Obtained bound leaves world handle) :
    Sound property world handle := by
  induction obtained with
  | @leaf fewer world after handle function allowed shared =>
    obtain ⟨held, made, sharing, holds⟩ := Handle.share_eq (.leaf function) world
    rw [sharing] at shared
    cases shared
    exact ⟨_, holds, inherited.leaf allowed⟩
  | earlier obtained extension inductionHypothesis =>
    obtain ⟨contract, held, had⟩ := inductionHypothesis
    exact ⟨contract, held.of_extends extension, had⟩
  | @forward _ world after handle wrapped pointer obtained made inductionHypothesis =>
    obtain ⟨contract, held, had⟩ := inductionHypothesis
    obtain ⟨other, objects, forwarding, holds⟩ := Handle.forward_eq held pointer
    rw [forwarding] at made
    cases made
    exact ⟨_, holds, inherited.forward pointer had⟩
  | andThen obtainedFirst obtainedSecond made soundFirst soundSecond =>
    exact sound_andThen inherited soundFirst soundSecond made
  | compose obtainedLast obtainedBefore made soundLast soundBefore =>
    exact sound_andThen inherited soundBefore soundLast made
  | @curried arity world after handle function obtained made inductionHypothesis =>
    obtain ⟨contract, held, had⟩ := inductionHypothesis
    have supported := Handle.supports_of_curried made
    obtain ⟨fewer, rfl⟩ := CurryBound.exists_succ_of_supports supported
    obtain ⟨other, objects, currying, found⟩ := Handle.curried_eq held supported
    rw [currying] at made
    cases made
    exact sound_object found (inherited.link supported had)
  | @tupled arity world after handle function obtained made inductionHypothesis =>
    obtain ⟨contract, held, had⟩ := inductionHypothesis
    have supported := Handle.supports_of_tupled made
    rw [Handle.tupled_eq held supported] at made
    cases made
    exact sound_object (world.functions_making_size _) (inherited.tupled supported had)
  | @link arity world after now later handle function link rule values obtained made extension short
      called inductionHypothesis =>
    obtain ⟨contract, held, had⟩ := inductionHypothesis
    obtain ⟨missing, rfl⟩ : ∃ missing, arity = missing + values.length + 1 :=
      ⟨arity - values.length - 1, by omega⟩
    have supported := CurryBound.supports_of_le (Nat.le_add_left 1 missing) (by omega)
      (Handle.supports_of_curried made)
    obtain ⟨last, more, chained, kept⟩ := chain_of_curried held made extension
    rw [chained] at called
    cases called
    exact sound_object kept (inherited.link supported (inherited.supply had _))

/-- Whatever the operations give hold of is built from the given leaves. -/
theorem sound {world : World} {arity : Nat} {handle : Handle arity}
    (obtained : Obtained bound leaves world handle) :
    Sound (Contract.BuiltFrom leaves) world handle :=
  obtained.inherits (.builtFrom bound leaves)

end Obtained

end Erasure
