/-
This file proves that the signatures of contracts that are built out of specialized
functions keep their promises. A signature has one kind for each parameter and could be
that of a contract; a result is of the declared kind unless that is erased; and a value
that does not fit a primitive position is refused before any body runs. Handwritten
functions may declare what they like and have no part in this.
-/

import Erasure.Catalog.Recipe
import Erasure.Proofs.Bridge
import Erasure.Proofs.Building

namespace Erasure

/-! ### Kinds -/

theorem Value.eq_unit_of_kind {value : Value} (nothing : value.kind = .void) : value = .unit := by
  cases value with
  | unit => rfl
  | _ => cases nothing

theorem NativeType.kind_ne_void (type : NativeType) : type.kind ≠ .void := by
  cases type <;> exact nofun

/-- A boxed result is of the declared kind unless that is erased. -/
theorem ReturnType.kind_box {type : ReturnType} (declared : type.kind ≠ .erased)
    (native : type.Carrier) : (type.box native).kind = type.kind := by
  cases type with
  | nothing => rfl
  | native type =>
    cases type with
    | generic => exact absurd rfl declared
    | _ => rfl

theorem Kind.isPrimitive_of_ne {kind : Kind} (notVoid : kind ≠ .void) (notErased : kind ≠ .erased) :
    kind.isPrimitive = true := by
  cases kind with
  | void => exact absurd rfl notVoid
  | erased => exact absurd rfl notErased
  | _ => rfl

/-- Nothing is refused at positions that are all erased. -/
theorem FirstMismatch.not_replicate_erased {count position : Nat} {actual : List Kind}
    {mismatch : KindMismatch} :
    ¬ FirstMismatch (List.replicate count .erased) actual position mismatch := by
  intro first
  have erased := List.eq_of_mem_replicate (List.mem_of_getElem? first.expected)
  exact first.refused (Or.inl erased)

/-! ### Signatures -/

/-- A signature is valid if the number of its parameters is that of a contract and none of them is
void. -/
theorem Signature.validate_eq_ok {signature : Signature} (positive : 1 ≤ signature.arity)
    (bounded : signature.arity ≤ maxArity) (notVoid : .void ∉ signature.params) :
    signature.validate = .ok () := by
  have absent : signature.params.findIdx? Kind.isVoid = none := by
    rw [List.findIdx?_eq_none_iff]
    intro kind member
    cases kind with
    | void => exact absurd member notVoid
    | _ => rfl
  rw [validate, if_neg (by omega), absent]

namespace Contract

theorem arity_pos {arity : Nat} (contract : Contract arity) : 1 ≤ arity := by
  induction contract with
  | leaf function => exact function.arity_pos
  | forward pointer inner inductionHypothesis => exact inductionHypothesis
  | _ => omega

theorem arity_le {arity : Nat} (contract : Contract arity) : arity ≤ widestArity := by
  induction contract with
  | leaf function => exact function.arity_le
  | forward pointer inner inductionHypothesis => exact inductionHypothesis
  | bound inner first inductionHypothesis => omega
  | _ => decide

/-- Built out of specialized functions, a contract declares as many parameters as it takes. -/
theorem BuiltFrom.arity_signature {arity : Nat} {contract : Contract arity}
    (built : contract.BuiltFrom .specialized) : contract.signature.arity = arity := by
  induction contract with
  | leaf function =>
    obtain ⟨specialized, rfl⟩ := built
    show (specialized.params.toList.map NativeType.kind).length = _
    rw [List.length_map, Row.length_toList]
  | forward pointer inner inductionHypothesis => exact inductionHypothesis built
  | sequence first second firstDeclares _ => exact firstDeclares built.1
  | tupled inner => rfl
  | curried inner => rfl
  | bound inner first => exact List.length_replicate

/-- Built out of specialized functions, a contract declares no parameter void. -/
theorem BuiltFrom.void_not_mem_params {arity : Nat} {contract : Contract arity}
    (built : contract.BuiltFrom .specialized) : .void ∉ contract.signature.params := by
  induction contract with
  | leaf function =>
    obtain ⟨specialized, rfl⟩ := built
    intro member
    obtain ⟨type, _, declared⟩ := List.mem_map.mp member
    exact type.kind_ne_void declared
  | forward pointer inner inductionHypothesis => exact inductionHypothesis built
  | sequence first second firstDeclares _ => exact firstDeclares built.1
  | _ =>
    intro member
    cases List.eq_of_mem_replicate member

/-- Built out of specialized functions, a contract declares a valid signature. -/
theorem BuiltFrom.validate_signature {arity : Nat} {contract : Contract arity}
    (built : contract.BuiltFrom .specialized) : contract.signature.validate = .ok () := by
  refine Signature.validate_eq_ok ?_ ?_ built.void_not_mem_params
  · rw [built.arity_signature]
    exact contract.arity_pos
  · rw [built.arity_signature, maxArity_eq_widestArity]
    exact contract.arity_le

end Contract

/-! ### Results -/

/-- A specialized function returns what it declares. -/
theorem Specialized.kind_of_apply {call : CallRule} {arity : Nat} {function : Specialized arity}
    {arguments : Row Value arity} {world after : World} {value : Value}
    (declared : function.result.kind ≠ .erased)
    (returned : function.apply call arguments world = .finished (.ok value) after) :
    value.kind = function.result.kind := by
  obtain ⟨natives, unboxed, _, rest⟩ := Computation.exists_of_bind_ok returned
  obtain ⟨answer, last, _, carried⟩ := Computation.exists_of_bind_ok rest
  rw [carryOver_eq] at carried
  cases answer with
  | ok native =>
    cases carried
    exact ReturnType.kind_box declared native
  | error failure => cases carried

namespace Contract

variable {limit : CurryBound} {call : CallRule}

/-- Built out of specialized functions, a contract returns what it declares. -/
theorem BuiltFrom.kind_of_apply {arity : Nat} {contract : Contract arity}
    (built : contract.BuiltFrom .specialized) (declared : contract.signature.result ≠ .erased)
    {arguments : Row Value arity} {world after : World} {value : Value}
    (returned : contract.apply limit call arguments world = .finished (.ok value) after) :
    value.kind = contract.signature.result := by
  induction contract generalizing world with
  | leaf function =>
    obtain ⟨specialized, rfl⟩ := built
    exact Specialized.kind_of_apply declared returned
  | forward pointer inner inductionHypothesis => exact inductionHypothesis built declared returned
  | sequence first second _ secondReturns =>
    obtain ⟨between, middle, _, rest⟩ := Computation.exists_of_bind_ok returned
    exact secondReturns built.2 declared rest
  | _ => exact absurd rfl declared

/-! ### Refusals -/

/-- Built out of specialized functions, a contract answers with the leftmost misfit, which the
first specialized function that it calls finds while it unboxes. -/
theorem BuiltFrom.apply_of_firstMismatch {arity : Nat} {contract : Contract arity}
    (built : contract.BuiltFrom .specialized) {arguments : Row Value arity} {position : Nat}
    {mismatch : KindMismatch}
    (first : FirstMismatch contract.signature.params (arguments.toList.map Value.kind) position
      mismatch) (world : World) :
    contract.apply limit call arguments world =
      .finished (.error (.kindMismatch mismatch))
        (world.noting (Event.unboxings (contract.signature.params.take position) ++
          [.unboxingFailed mismatch])) := by
  induction contract with
  | leaf function =>
    obtain ⟨specialized, rfl⟩ := built
    exact specialized.apply_of_firstMismatch call first world
  | forward pointer inner inductionHypothesis => exact inductionHypothesis built first
  | sequence firstPart secondPart firstRefuses _ =>
    exact Computation.bind_of_error (firstRefuses built.1 first) _
  | _ => exact absurd first FirstMismatch.not_replicate_erased

end Contract

/-! ### The promises of a signature -/

/-- The signature of whatever the operations give out of specialized functions is sound. It declares
as many parameters as the contract takes and is valid. A result is of the declared kind, unless that
is erased, and one declared void is the token for that. If some value does not fit a primitive
position, the leftmost such value is the answer, and no body begins to run. -/
theorem Obtained.signature_sound {bound : CurryBound} {world : World} {arity : Nat}
    {handle : Handle arity} (obtained : Obtained bound .specialized world handle) :
    ∃ contract, handle.Holds world contract ∧
      contract.signature.arity = arity ∧ contract.signature.validate = .ok () ∧
      (∀ call arguments before value after,
        contract.apply bound call arguments before = .finished (.ok value) after →
        contract.signature.result ≠ .erased →
        value.kind = contract.signature.result ∧
          (contract.signature.result = .void → value = .unit)) ∧
      ∀ (call : CallRule) (arguments : Row Value arity) (before : World),
        (∃ (position : Nat) (expected found : Kind),
          contract.signature.params[position]? = some expected ∧ expected.isPrimitive = true ∧
          (arguments.toList.map Value.kind)[position]? = some found ∧ found ≠ expected) →
        ∃ position mismatch noted,
          FirstMismatch contract.signature.params (arguments.toList.map Value.kind) position
            mismatch ∧
          mismatch.expected.isPrimitive = true ∧
          contract.apply bound call arguments before =
            .finished (.error (.kindMismatch mismatch)) (before.noting noted) ∧
          ∀ label, Event.began label ∉ noted := by
  obtain ⟨contract, held, built⟩ := obtained.sound
  refine ⟨contract, held, built.arity_signature, built.validate_signature, ?_, ?_⟩
  · intro call arguments before value after returned declared
    have kept := built.kind_of_apply declared returned
    exact ⟨kept, fun nothing => Value.eq_unit_of_kind (kept.trans nothing)⟩
  · rintro call arguments before ⟨place, expected, found, declared, primitive, given, different⟩
    have refused : ¬ Kind.TakeAll contract.signature.params (arguments.toList.map Value.kind) := by
      intro taken
      rcases taken place expected found declared given with rfl | same
      · cases primitive
      · exact different same
    obtain ⟨position, mismatch, first⟩ := FirstMismatch.exists_of_not_takeAll refused
    refine ⟨position, mismatch, _, first, ?_, built.apply_of_firstMismatch first before, ?_⟩
    · refine Kind.isPrimitive_of_ne ?_ fun erased => first.refused (Or.inl erased)
      intro nothing
      exact built.void_not_mem_params (nothing ▸ List.mem_of_getElem? first.expected)
    · intro label began
      rcases List.mem_append.mp began with unboxed | failed
      · exact Event.began_not_mem_unboxings label _ unboxed
      · cases List.mem_singleton.mp failed

/-- The square of an integer followed by the position of its kind is declared to take an integer,
and refuses a truth value. -/
theorem Obtained.signature_sound_sequence :
    ∃ world function, Obtained .standard .specialized world (.object function) ∧
      ∃ contract, (Handle.object function).Holds world contract ∧
        contract.signature = ⟨[.i32], .i32⟩ ∧ contract.signature.validate = .ok () ∧
        ∀ call before, ∃ noted,
          contract.apply .standard call (.single (.bool true)) before =
            .finished (.error (.kindMismatch ⟨.i32, .bool⟩)) (before.noting noted) ∧
          ∀ label, Event.began label ∉ noted := by
  have square : Obtained .standard .specialized
      (World.making {} [.leaf (.specialized (Catalog.squareI32 "square"))]) (.object 0) :=
    @Obtained.leaf _ _ 0 {} _ _ (.specialized (Catalog.squareI32 "square")) ⟨_, rfl⟩ rfl
  have code : Obtained .standard .specialized
      (World.making {} [.leaf (.specialized (Catalog.squareI32 "square")),
        .leaf (.specialized (Catalog.kindCode "code"))]) (.object 1) :=
    @Obtained.leaf _ _ 0 (World.making {} [.leaf (.specialized (Catalog.squareI32 "square"))]) _ _
      (.specialized (Catalog.kindCode "code")) ⟨_, rfl⟩ rfl
  have both : Obtained .standard .specialized _ (.object 2) :=
    (square.earlier ⟨[_], rfl⟩).andThen code rfl
  refine ⟨_, 2, both, ?_⟩
  obtain ⟨contract, held, _, valid, _, refuses⟩ := both.signature_sound
  cases held
  refine ⟨_, rfl, rfl, valid, fun call before => ?_⟩
  obtain ⟨position, mismatch, noted, first, _, refused, silent⟩ :=
    refuses call (.single (.bool true)) before ⟨0, .i32, .bool, rfl, rfl, rfl, by decide⟩
  rcases first.cases_cons with ⟨rfl, rfl, _⟩ | ⟨_, _, _, others⟩
  · exact ⟨noted, refused, silent⟩
  · cases others.expected

end Erasure
