/-
This file proves that equality of values is a congruence. It is an equivalence relation
that looks through tuples of any depth, at the bits of floats and at the identity of
objects. Equal values cannot be told apart, neither by what can be read or unboxed out of
them nor by their texts, and those stay the same while more objects are made. Conversely,
values that look alike to every reader are equal.
-/

import Erasure.Catalog.Recipe
import Erasure.Proofs.Objects
import Mathlib.Data.List.Forall2

namespace Erasure

namespace Value

/-! ### Equivalence -/

/-- Equality of values is reflexive, symmetric and transitive. -/
theorem same_equivalence : Equivalence fun left right : Value => left.same right = true where
  refl := same_self
  symm equal := same_iff.mpr (same_iff.mp equal).symm
  trans first second := same_iff.mpr ((same_iff.mp first).trans (same_iff.mp second))

/-- Tuples are compared item by item. -/
theorem sameItems_iff {left right : List Value} :
    sameItems left right = true ↔
      List.Forall₂ (fun item other => item.same other = true) left right := by
  induction left generalizing right with
  | nil => cases right <;> simp [sameItems]
  | cons item rest inductionHypothesis =>
    cases right with
    | nil => simp [sameItems]
    | cons other others =>
      rw [sameItems, Bool.and_eq_true, inductionHypothesis, List.forall₂_cons]

/-! ### What can be read off -/

/-- What can be read off two values agrees. The items of tuples are compared as values. -/
structure Alike (left right : Value) : Prop where
  kind : left.kind = right.kind
  isUnit : left.isUnit = right.isUnit
  i32? : left.i32? = right.i32?
  i64? : left.i64? = right.i64?
  f32? : left.f32? = right.f32?
  f64? : left.f64? = right.f64?
  bool? : left.bool? = right.bool?
  ref? : left.ref? = right.ref?
  func? : left.func? = right.func?
  items? : Option.Rel (List.Forall₂ fun item other => item.same other = true)
    left.items? right.items?

theorem Alike.refl (value : Value) : value.Alike value where
  kind := rfl
  isUnit := rfl
  i32? := rfl
  i64? := rfl
  f32? := rfl
  f64? := rfl
  bool? := rfl
  ref? := rfl
  func? := rfl
  items? := by
    cases value.items? with
    | none => exact .none
    | some items => exact .some (sameItems_iff.mp (sameItems_self items))

/-- Values that look alike are equal, for every form of a value has its reader. -/
theorem Alike.same {left right : Value} (alike : left.Alike right) : left.same right = true := by
  cases left with
  | i32 number =>
    have read := alike.i32?
    cases right <;> simp_all [Value.i32?, Value.same]
  | i64 number =>
    have read := alike.i64?
    cases right <;> simp_all [Value.i64?, Value.same]
  | f32 bits =>
    have read := alike.f32?
    cases right <;> simp_all [Value.f32?, Value.same]
  | f64 bits =>
    have read := alike.f64?
    cases right <;> simp_all [Value.f64?, Value.same]
  | bool truth =>
    have read := alike.bool?
    cases right <;> simp_all [Value.bool?, Value.same]
  | unit =>
    have read := alike.isUnit
    cases right <;> simp_all [Value.isUnit, Value.same]
  | ref address =>
    have read := alike.ref?
    cases right <;> simp_all [Value.ref?, Value.same]
  | func address =>
    have read := alike.func?
    cases right <;> simp_all [Value.func?, Value.same]
  | tuple items =>
    have read := alike.items?
    cases right with
    | tuple others =>
      cases read with
      | some related => rw [Value.same, sameItems_iff.mpr related]
    | _ => cases read

/-- Equality is being alike. -/
theorem same_iff_alike {left right : Value} : left.same right = true ↔ left.Alike right :=
  ⟨fun equal => eq_of_same equal ▸ .refl left, Alike.same⟩

/-! ### Texts -/

mutual

/-- The functions that a value holds, also inside of tuples. -/
def functions : Value → List Address
  | func address => [address]
  | tuple items => itemsFunctions items
  | i32 _ | i64 _ | f32 _ | f64 _ | bool _ | unit | ref _ => []

/-- The functions that several values hold. -/
def itemsFunctions : List Value → List Address
  | [] => []
  | item :: rest => item.functions ++ itemsFunctions rest

end

section

variable {signatureAt later : Address → Signature}

mutual

/-- All that the text of a value takes from elsewhere is the signatures of its functions. -/
theorem text_congr : ∀ {value : Value},
    (∀ address ∈ value.functions, later address = signatureAt address) →
    value.text later = value.text signatureAt
  | i32 _, _ | i64 _, _ | f32 _, _ | f64 _, _ | bool _, _ | unit, _ | ref _, _ => by simp [text]
  | func address, kept => by
    rw [text, text, kept address (by simp [functions])]
  | tuple items, kept => by
    rw [functions] at kept
    rw [text, text, itemsText_congr kept]

theorem itemsText_congr : ∀ {items : List Value},
    (∀ address ∈ itemsFunctions items, later address = signatureAt address) →
    itemsText later items = itemsText signatureAt items
  | [], _ => by simp [itemsText]
  | item :: rest, kept => by
    rw [itemsFunctions] at kept
    have first := text_congr fun address held => kept address (List.mem_append_left _ held)
    have others := itemsText_congr fun address held => kept address (List.mem_append_right _ held)
    cases rest with
    | nil => rw [itemsText, itemsText, first]
    | cons next following => rw [itemsText, itemsText, first, others]

end

mutual

/-- All that the layout of a value takes from elsewhere is the signatures of its functions. -/
theorem layout_congr : ∀ {value : Value},
    (∀ address ∈ value.functions, later address = signatureAt address) →
    value.layout later = value.layout signatureAt
  | i32 _, _ | i64 _, _ | f32 _, _ | f64 _, _ | bool _, _ | unit, _ | ref _, _ => by simp [layout]
  | func address, kept => by
    rw [layout, layout, kept address (by simp [functions])]
  | tuple items, kept => by
    rw [functions] at kept
    rw [layout, layout, itemLayouts_congr kept]

theorem itemLayouts_congr : ∀ {items : List Value},
    (∀ address ∈ itemsFunctions items, later address = signatureAt address) →
    itemLayouts later items = itemLayouts signatureAt items
  | [], _ => by simp [itemLayouts]
  | item :: rest, kept => by
    rw [itemsFunctions] at kept
    rw [itemLayouts, itemLayouts,
      layout_congr fun address held => kept address (List.mem_append_left _ held),
      itemLayouts_congr fun address held => kept address (List.mem_append_right _ held)]

end

end

/-- A value of a world holds functions of that world only. -/
def Inhabits (value : Value) (world : World) : Prop :=
  ∀ address ∈ value.functions, address < world.functions.size

end Value

namespace World

variable {world later : World} {value : Value}

/-- The functions of a value keep their signatures while more objects are made. -/
theorem Extends.signatureAt_eq (extension : later.Extends world) (inhabits : value.Inhabits world)
    (address : Address) (held : address ∈ value.functions) :
    later.signatureAt address = world.signatureAt address := by
  have found := Array.getElem?_eq_getElem (inhabits address held)
  rw [World.signatureAt_eq found, World.signatureAt_eq (extension.functions_eq found)]

/-- The text of a value stays the same while more objects are made. -/
theorem Extends.text_eq (extension : later.Extends world) (inhabits : value.Inhabits world) :
    later.text value = world.text value :=
  Value.text_congr (extension.signatureAt_eq inhabits)

/-- The layout of a value stays the same while more objects are made. -/
theorem Extends.layout_eq (extension : later.Extends world) (inhabits : value.Inhabits world) :
    later.layout value = world.layout value :=
  Value.layout_congr (extension.signatureAt_eq inhabits)

end World

/-! ### Equality is a congruence -/

/-- Equality of values is an equivalence relation. Floats are equal exactly if their bits are,
functions and references if they are the same object, and tuples if they are equally long and
equal item by item. Values are equal exactly if all that can be read off them agrees. Then they are
unboxed to the same, or refused with the same mismatch, at every type, and they have the same texts,
also if one of them is shown only after more objects were made. What was unboxed at any type is
boxed again to an equal value. -/
theorem Value.equality_is_congruence :
    (Equivalence fun left right : Value => left.same right = true) ∧
    (∀ left right, (Value.f32 left).same (.f32 right) = true ↔ left = right) ∧
    (∀ left right, (Value.f64 left).same (.f64 right) = true ↔ left = right) ∧
    (∀ left right, (Value.ref left).same (.ref right) = true ↔ left = right) ∧
    (∀ left right, (Value.func left).same (.func right) = true ↔ left = right) ∧
    (∀ left right, (Value.tuple left).same (.tuple right) = true ↔
      left.length = right.length ∧
        ∀ (position : Nat) (inLeft : position < left.length) (inRight : position < right.length),
          left[position].same right[position] = true) ∧
    (∀ left right : Value, left.same right = true ↔ left.Alike right) ∧
    (∀ left right : Value, left.same right = true →
      (∀ type : NativeType, type.unbox left = type.unbox right) ∧
      (∀ world : World, world.text left = world.text right ∧
        (world.layout left).flat = (world.layout right).flat ∧
        ∀ depth, (world.layout left).spread depth = (world.layout right).spread depth) ∧
      ∀ world later : World, later.Extends world → left.Inhabits world →
        later.text right = world.text left ∧ later.layout right = world.layout left) ∧
    ∀ (type : NativeType) (value : Value) (native : type.Carrier),
      type.unbox value = .ok native → (type.box native).same value = true := by
  refine ⟨same_equivalence, fun left right => ?_, fun left right => ?_, fun left right => ?_,
    fun left right => ?_, fun left right => ?_, fun left right => same_iff_alike,
    fun left right equal => ?_, fun type value native unboxed => ?_⟩
  · rw [same, beq_iff_eq]
  · rw [same, beq_iff_eq]
  · rw [same, beq_iff_eq]
  · rw [same, beq_iff_eq]
  · rw [same, sameItems_iff]
    exact List.forall₂_iff_get
  · obtain rfl := eq_of_same equal
    exact ⟨fun _ => rfl, fun _ => ⟨rfl, rfl, fun _ => rfl⟩, fun _ _ extension inhabits =>
      ⟨extension.text_eq inhabits, extension.layout_eq inhabits⟩⟩
  · exact same_iff.mpr (NativeType.box_of_unbox unboxed)

/-- A world whose only function is the square of an integer. -/
def Catalog.squareWorld : World :=
  .making {} [.leaf (.specialized (squareI32 "square"))]

/-- A tuple with a function and a NaN looks like itself but not like the same tuple with another NaN,
and its text stays the same when the function is made anew elsewhere. A negative zero is unboxed and
boxed to itself and differs from zero. -/
theorem Value.equality_is_congruence_nan :
    (Value.tuple [.func 0, .tuple [.f32 0x7FC00001]]).Alike
        (.tuple [.func 0, .tuple [.f32 0x7FC00001]]) ∧
      ¬(Value.tuple [.func 0, .tuple [.f32 0x7FC00001]]).Alike
        (.tuple [.func 0, .tuple [.f32 0x7FC00000]]) ∧
      (Catalog.squareWorld.making [.leaf (.specialized (Catalog.squareI32 "square"))]).text
          (.tuple [.func 0, .tuple [.f32 0x7FC00001]]) =
        Catalog.squareWorld.text (.tuple [.func 0, .tuple [.f32 0x7FC00001]]) ∧
      (NativeType.f64.box (0x8000000000000000 : UInt64)).same (.f64 0x8000000000000000) = true ∧
      (Value.f64 0x8000000000000000).same (.f64 0) = false := by
  obtain ⟨equivalence, _, doubles, _, _, _, alike, congruence, boxed⟩ := equality_is_congruence
  have equal := equivalence.refl (.tuple [.func 0, .tuple [.f32 0x7FC00001]])
  have inhabits : (Value.tuple [.func 0, .tuple [.f32 0x7FC00001]]).Inhabits
      Catalog.squareWorld := by
    intro address held
    obtain rfl : address = 0 := by simpa [functions, itemsFunctions] using held
    exact Nat.zero_lt_one
  refine ⟨(alike _ _).mp equal, fun seen => absurd ((alike _ _).mpr seen) (by decide),
    ((congruence _ _ equal).2.2 _ _ (World.making_extends _ _) inhabits).1,
    boxed .f64 (.f64 0x8000000000000000) _ rfl, Bool.eq_false_iff.mpr fun same => ?_⟩
  exact absurd ((doubles _ _).mp same) (by decide)

end Erasure
