/-
This file proves that the check of a signature is neither too strict nor too lax. It
accepts a signature if and only if there is a specialized function of that signature, the
signature of such a function being read off its native types. What is reported about any
other signature is said here, too: a number of parameters that no contract has, whatever
the parameters are, and otherwise the leftmost parameter that is void.
-/

import Erasure.Proofs.Soundness

namespace Erasure

/-! ### Kinds of native types -/

namespace NativeType

/-- Every kind but one is that of a parameter. -/
theorem exists_kind_eq {kind : Kind} (notVoid : kind ≠ .void) :
    ∃ type : NativeType, type.kind = kind := by
  cases kind with
  | void => exact absurd rfl notVoid
  | i32 => exact ⟨.i32, rfl⟩
  | i64 => exact ⟨.i64, rfl⟩
  | f32 => exact ⟨.f32, rfl⟩
  | f64 => exact ⟨.f64, rfl⟩
  | bool => exact ⟨.bool, rfl⟩
  | erased => exact ⟨.generic, rfl⟩

/-- Kinds of which none is void are those of parameters. -/
theorem exists_map_kind_eq {kinds : List Kind} (notVoid : .void ∉ kinds) :
    ∃ types : List NativeType, types.map kind = kinds := by
  induction kinds with
  | nil => exact ⟨[], rfl⟩
  | cons first rest inductionHypothesis =>
    obtain ⟨type, rfl⟩ := exists_kind_eq (List.ne_of_not_mem_cons notVoid).symm
    obtain ⟨types, rfl⟩ := inductionHypothesis (List.not_mem_of_not_mem_cons notVoid)
    exact ⟨type :: types, rfl⟩

end NativeType

/-! ### Void kinds -/

namespace Kind

theorem isVoid_iff {kind : Kind} : kind.isVoid = true ↔ kind = .void := by
  cases kind <;> simp [Kind.isVoid]

theorem findIdx?_isVoid_eq_none_iff {kinds : List Kind} :
    kinds.findIdx? Kind.isVoid = none ↔ .void ∉ kinds := by
  simp only [List.findIdx?_eq_none_iff, Bool.eq_false_iff, ne_eq, isVoid_iff]
  exact ⟨fun none member => none _ member rfl, fun notVoid _ member void => notVoid (void ▸ member)⟩

theorem findIdx?_isVoid_eq_some_iff {kinds : List Kind} {position : Nat} :
    kinds.findIdx? Kind.isVoid = some position ↔
      kinds[position]? = some .void ∧ ∀ earlier < position, kinds[earlier]? ≠ some .void := by
  rw [List.findIdx?_eq_some_iff_getElem]
  constructor
  · rintro ⟨inside, void, leftmost⟩
    refine ⟨List.getElem?_eq_some_iff.mpr ⟨inside, isVoid_iff.mp void⟩, ?_⟩
    intro earlier before found
    obtain ⟨_, other⟩ := List.getElem?_eq_some_iff.mp found
    exact leftmost earlier before (isVoid_iff.mpr other)
  · rintro ⟨found, leftmost⟩
    obtain ⟨inside, void⟩ := List.getElem?_eq_some_iff.mp found
    refine ⟨inside, isVoid_iff.mpr void, fun earlier before other => leftmost earlier before ?_⟩
    exact List.getElem?_eq_some_iff.mpr ⟨Nat.lt_trans before inside, isVoid_iff.mp other⟩

end Kind

/-! ### Signatures of specialized functions -/

/-- What is asked of a signature for a contract to have it: as many parameters as some contract
takes, and none of them void. -/
structure Signature.Specializable (signature : Signature) : Prop where
  positive : 1 ≤ signature.arity
  bounded : signature.arity ≤ maxArity
  notVoid : .void ∉ signature.params

/-- The signature of a specialized function is that of the contract that it is a leaf of. -/
theorem Specialized.specializable_signature {arity : Nat} (function : Specialized arity) :
    function.signature.Specializable := by
  have built : (Contract.leaf (.specialized function)).BuiltFrom .specialized := ⟨function, rfl⟩
  have same : function.signature.arity = arity := built.arity_signature
  refine ⟨?_, ?_, built.void_not_mem_params⟩
  · rw [same]
    exact function.arity_pos
  · rw [same, maxArity_eq_widestArity]
    exact function.arity_le

namespace Signature

variable {signature : Signature}

/-- Of every such signature there is a specialized function, for instance a probe. -/
theorem Specializable.exists_specialized (specializable : signature.Specializable) :
    ∃ arity, ∃ function : Specialized arity, function.signature = signature := by
  obtain ⟨params, result⟩ := signature
  obtain ⟨positive, bounded, notVoid⟩ := specializable
  obtain ⟨types, rfl⟩ := NativeType.exists_map_kind_eq notVoid
  rw [maxArity_eq_widestArity] at bounded
  rw [arity, List.length_map] at positive bounded
  refine ⟨_, Catalog.probe "probe" positive bounded (.ofList types) (.ofKind result), ?_⟩
  show (⟨(Row.ofList types).toList.map NativeType.kind, (ReturnType.ofKind result).kind⟩ :
    Signature) = _
  rw [Row.toList_ofList, ReturnType.kind_ofKind]

/-! ### What the check reports -/

/-- The defect that a signature is found to have. -/
inductive HasDefect (signature : Signature) : Defect → Prop
  /-- No contract takes that many parameters, whatever they are. -/
  | arityOutOfRange (outside : signature.arity = 0 ∨ maxArity < signature.arity) :
    HasDefect signature (.arityOutOfRange signature.arity)
  /-- A parameter is void and none to the left of it is. -/
  | voidParameter {position : Nat} (positive : 1 ≤ signature.arity)
    (bounded : signature.arity ≤ maxArity) (void : signature.params[position]? = some .void)
    (leftmost : ∀ earlier < position, signature.params[earlier]? ≠ some .void) :
    HasDefect signature (.voidParameter position)

theorem validate_eq_ok_iff : signature.validate = .ok () ↔ signature.Specializable := by
  constructor
  · intro accepted
    unfold validate at accepted
    split at accepted
    · cases accepted
    · next inside =>
      split at accepted
      · cases accepted
      · next absent =>
        exact ⟨by omega, by omega, Kind.findIdx?_isVoid_eq_none_iff.mp absent⟩
  · rintro ⟨positive, bounded, notVoid⟩
    exact validate_eq_ok positive bounded notVoid

/-- The check finds one defect of a signature. Void parameters are looked for only if their number
is in range. -/
theorem validate_eq_error_iff {defect : Defect} :
    signature.validate = .error defect ↔ signature.HasDefect defect := by
  constructor
  · intro refused
    unfold validate at refused
    split at refused
    · next outside =>
      cases refused
      exact .arityOutOfRange outside
    · next inside =>
      split at refused
      · next found =>
        cases refused
        obtain ⟨void, leftmost⟩ := Kind.findIdx?_isVoid_eq_some_iff.mp found
        exact .voidParameter (by omega) (by omega) void leftmost
      · cases refused
  · rintro (outside | ⟨positive, bounded, void, leftmost⟩)
    · rw [validate, if_pos outside]
    · rw [validate, if_neg (by omega), Kind.findIdx?_isVoid_eq_some_iff.mpr ⟨void, leftmost⟩]

/-- The check of a signature accepts it if and only if there is a specialized function of that
signature. It refuses any other signature with the defect that it has: if the number of parameters
is that of no contract, with that number, even if some parameter is void, and otherwise with the
position of the leftmost void parameter. -/
theorem validate_iff_specialized (signature : Signature) :
    (signature.validate = .ok () ↔
      ∃ arity, ∃ function : Specialized arity, function.signature = signature) ∧
    ∀ defect, signature.validate = .error defect ↔ signature.HasDefect defect := by
  refine ⟨?_, fun defect => validate_eq_error_iff⟩
  rw [validate_eq_ok_iff]
  constructor
  · exact Specializable.exists_specialized
  · rintro ⟨arity, function, rfl⟩
    exact function.specializable_signature

end Signature

end Erasure
