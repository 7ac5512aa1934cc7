/-
This file proves that a value of integers, truth values and units can be told from its
layout as text, on one line and on several, however deep its tuples are nested. Each such
word names its form and ends where its bracket does, so that none is the beginning of
another one and layouts of these words are legible. The plain text of a value says less.
-/

import Erasure.Proofs.Equality
import Erasure.Proofs.Legibility
import Mathlib

namespace Erasure

namespace Value

/-! ### Scalars -/

/-- An integer, a truth value or the token for "no value". -/
inductive Scalar : Value → Prop
  | i32 (number : Int32) : Scalar (.i32 number)
  | i64 (number : Int64) : Scalar (.i64 number)
  | bool (truth : Bool) : Scalar (.bool truth)
  | unit : Scalar .unit

/-- The word that describes a scalar. -/
def word (value : Value) : String :=
  (value.layout fun _ => .erased 1).flat

theorem Scalar.layout_eq {value : Value} (scalar : value.Scalar)
    (signatureAt : Address → Signature) : value.layout signatureAt = .word value.word := by
  cases scalar <;> rfl

/-- What ends with a bracket is read up to that bracket. -/
theorem eq_of_closed_begins {inner other : List Char} (unclosed : ')' ∉ other)
    (begins : inner ++ [')'] <+: other ++ [')']) : inner = other := by
  obtain ⟨rest, equal⟩ := begins
  rw [List.append_assoc] at equal
  exact ((List.append_cons_inj_of_notMem unclosed List.not_mem_nil).mp equal.symm).1.symm

/-- The text of a number is made of digits and perhaps a sign. -/
theorem not_mem_numeral (number : Int) : ')' ∉ (toString number).toList := by
  have digits : ∀ natural : Nat, ')' ∉ natural.repr.toList := fun natural member => by
    rw [Nat.toList_repr] at member
    exact absurd (Nat.isDigit_of_mem_toDigits (by decide) (by decide) member) (by decide)
  rw [Int.toString_eq_repr, Int.repr_eq_if]
  split
  · exact digits _
  · rw [String.toList_append, List.mem_append, not_or]
    exact ⟨by decide, digits _⟩

/-- A number is read up to the bracket behind it. -/
theorem eq_of_numeral_begins {number other : Int}
    (begins : (toString number).toList ++ [')'] <+: (toString other).toList ++ [')']) :
    number = other := by
  have same := String.toList_inj.mp (eq_of_closed_begins (not_mem_numeral other) begins)
  rwa [Int.toString_eq_repr, Int.toString_eq_repr, Int.repr_inj] at same

theorem toList_closed (name inner : String) :
    (name ++ inner ++ ")").toList = name.toList ++ (inner.toList ++ [')']) := by
  rw [String.toList_append, String.toList_append, List.append_assoc]
  rfl

theorem word_i32 (number : Int32) :
    (word (.i32 number)).toList = "I32(".toList ++ ((toString number.toInt).toList ++ [')']) :=
  toList_closed _ _

theorem word_i64 (number : Int64) :
    (word (.i64 number)).toList = "I64(".toList ++ ((toString number.toInt).toList ++ [')']) :=
  toList_closed _ _

theorem word_bool (truth : Bool) :
    (word (.bool truth)).toList = "Bool(".toList ++ ((truthText truth).toList ++ [')']) :=
  toList_closed _ _

theorem word_unit : word .unit = "Unit" :=
  rfl

/-- No word of a scalar is the beginning of another one. -/
theorem eq_of_word_begins {left right : Value} (scalar : left.Scalar) (scalarOther : right.Scalar)
    (begins : left.word.toList <+: right.word.toList) : left = right := by
  cases scalar with
  | i32 number =>
    cases scalarOther with
    | i32 other =>
      rw [word_i32, word_i32, List.prefix_append_right_inj] at begins
      rw [Int32.toInt_inj.mp (eq_of_numeral_begins begins)]
    | _ => simp [word_i32, word_i64, word_bool, word_unit] at begins
  | i64 number =>
    cases scalarOther with
    | i64 other =>
      rw [word_i64, word_i64, List.prefix_append_right_inj] at begins
      rw [Int64.toInt_inj.mp (eq_of_numeral_begins begins)]
    | _ => simp [word_i32, word_i64, word_bool, word_unit] at begins
  | bool truth =>
    cases scalarOther with
    | bool other => cases truth <;> cases other <;> first | rfl | exact absurd begins (by decide)
    | _ => simp [word_i32, word_i64, word_bool, word_unit] at begins
  | unit =>
    cases scalarOther with
    | unit => rfl
    | _ => simp [word_i32, word_i64, word_bool, word_unit] at begins

/-- The word of a scalar begins with one of three letters. -/
theorem Scalar.word_begins {value : Value} (scalar : value.Scalar) :
    ∃ first ∈ ['I', 'B', 'U'], ∃ rest, value.word.toList = first :: rest := by
  cases scalar with
  | i32 number => exact ⟨'I', by decide, _, word_i32 number⟩
  | i64 number => exact ⟨'I', by decide, _, word_i64 number⟩
  | bool truth => exact ⟨'B', by decide, _, word_bool truth⟩
  | unit => exact ⟨'U', by decide, _, rfl⟩

/-- A text that begins otherwise than the words of scalars do is told from all of them. -/
theorem Scalar.word_apart {value : Value} (scalar : value.Scalar) {first : Char} {rest : List Char}
    (otherwise : first ∉ ['I', 'B', 'U']) :
    ¬value.word.toList <+: first :: rest ∧ ¬first :: rest <+: value.word.toList := by
  obtain ⟨own, member, further, word⟩ := scalar.word_begins
  rw [word, List.cons_prefix_cons, List.cons_prefix_cons]
  exact ⟨fun begins => otherwise (begins.1 ▸ member), fun begins => otherwise (begins.1 ▸ member)⟩

/-! ### Plain values -/

/-- A value of scalars, which tuples may hold to any depth. -/
inductive Plain : Value → Prop
  | scalar {value : Value} (scalar : value.Scalar) : Plain value
  | tuple {items : List Value} (each : ∀ item ∈ items, Plain item) : Plain (.tuple items)

/-- The openings in the layout of a plain value. -/
inductive Vocabulary : Layout.Opening → Prop
  | word {value : Value} (scalar : value.Scalar) : Vocabulary (.word value.word)
  | tuple : Vocabulary (.bracket "Tuple" .round)
  | items : Vocabulary (.bracket "" .square)

/-- The words of scalars are clear next to the brackets of tuples. -/
theorem clear_vocabulary : Layout.Clear Vocabulary where
  prefixFree first second begins := by
    cases first with
    | word scalar =>
      cases second with
      | word scalarOther => rw [eq_of_word_begins scalar scalarOther begins]
      | tuple | items => exact absurd begins (scalar.word_apart (by decide)).1
    | tuple =>
      cases second with
      | word scalar => exact absurd begins (scalar.word_apart (by decide)).2
      | tuple => rfl
      | items => exact absurd begins (by decide)
    | items =>
      cases second with
      | word scalar => exact absurd begins (scalar.word_apart (by decide)).2
      | tuple => exact absurd begins (by decide)
      | items => rfl
  begins known := by
    cases known with
    | word scalar =>
      obtain ⟨first, member, rest, word⟩ := scalar.word_begins
      have opens : ∀ first ∈ ['I', 'B', 'U'], first ∉ [')', ']'] := by simp
      exact ⟨first, opens first member, rest, word⟩
    | tuple => exact ⟨'T', by decide, _, rfl⟩
    | items => exact ⟨'[', by decide, _, rfl⟩

theorem itemLayouts_eq_map (signatureAt : Address → Signature) (items : List Value) :
    itemLayouts signatureAt items = items.map (layout signatureAt) := by
  induction items with
  | nil => rw [itemLayouts, List.map_nil]
  | cons item rest inductionHypothesis => rw [itemLayouts, inductionHypothesis, List.map_cons]

variable {left right : Value} {signatureAt other : Address → Signature}

/-- The layout of a plain value is legible. -/
theorem Plain.legible (plain : left.Plain) : (left.layout signatureAt).Legible Vocabulary := by
  induction plain with
  | scalar scalar =>
    rw [scalar.layout_eq]
    exact .word (.word scalar)
  | tuple each inductionHypothesis =>
    rw [layout, itemLayouts_eq_map]
    refine .group nofun .tuple (List.forall_mem_singleton.mpr ?_)
    exact .group nofun .items (List.forall_mem_map.mpr inductionHypothesis)

/-- Plain values have the same layout only if they are equal. -/
theorem Plain.eq_of_layout (plain : left.Plain) (plainOther : right.Plain)
    (equal : left.layout signatureAt = right.layout other) : left = right := by
  induction plain generalizing right with
  | scalar scalar =>
    rw [scalar.layout_eq] at equal
    cases plainOther with
    | scalar scalarOther =>
      rw [scalarOther.layout_eq, Layout.word.injEq] at equal
      exact eq_of_word_begins scalar scalarOther (equal ▸ List.prefix_refl _)
    | tuple _ => simp [layout, Layout.constructed] at equal
  | @tuple items each inductionHypothesis =>
    cases plainOther with
    | scalar scalarOther => simp [scalarOther.layout_eq, layout, Layout.constructed] at equal
    | @tuple others eachOther =>
      simp only [layout, itemLayouts_eq_map, Layout.constructed, Layout.list, Layout.group.injEq,
        List.cons.injEq, and_true, true_and] at equal
      -- The lists of layouts agree at each position, where the induction hypothesis applies.
      have lengths : items.length = others.length := by simpa using congrArg List.length equal
      refine congrArg Value.tuple (List.ext_getElem lengths fun position inItems inOthers => ?_)
      have sameItem : items[position].layout signatureAt = others[position].layout other := by
        simpa [inItems, inOthers] using congrArg (·[position]?) equal
      exact inductionHypothesis _ (List.getElem_mem _) (eachOther _ (List.getElem_mem _)) sameItem

theorem itemsFunctions_eq_flatMap (items : List Value) :
    itemsFunctions items = items.flatMap functions := by
  induction items with
  | nil => rw [itemsFunctions, List.flatMap_nil]
  | cons item rest inductionHypothesis =>
    rw [itemsFunctions, inductionHypothesis, List.flatMap_cons]

theorem Plain.functions_eq (plain : left.Plain) : left.functions = [] := by
  induction plain with
  | scalar scalar => cases scalar <;> simp [functions]
  | tuple each inductionHypothesis =>
    rw [functions, itemsFunctions_eq_flatMap, List.flatMap_eq_nil_iff]
    exact inductionHypothesis

/-- Plain values have the same layout if they are equal, wherever these are looked at. -/
theorem Plain.layout_eq_iff (plain : left.Plain) (plainOther : right.Plain) :
    left.layout signatureAt = right.layout other ↔ left = right := by
  refine ⟨plain.eq_of_layout plainOther, ?_⟩
  rintro rfl
  refine layout_congr fun address held => ?_
  rw [plain.functions_eq] at held
  exact absurd held List.not_mem_nil

end Value

/-- Plain values, whatever their tuples hold and however deep, have the same text as layouts exactly
if they are equal, both on one line and on lines of their own. Their plain texts say less, for the
token for "no value" is written like a tuple without items there and does not equal it. -/
theorem Value.inspection_identifies {left right : Value} (plain : left.Plain)
    (plainOther : right.Plain) (world other : World) :
    ((world.layout left).flat = (other.layout right).flat ↔ left.same right = true) ∧
    (∀ depth, (world.layout left).spread depth = (other.layout right).spread depth ↔
      left.same right = true) ∧
    world.text .unit = world.text (.tuple []) ∧ Value.unit.same (.tuple []) = false := by
  rw [same_iff]
  refine ⟨?_, fun depth => ?_, by simp [World.text, text, itemsText], by decide⟩
  · exact (Layout.flat_eq_iff clear_vocabulary plain.legible plainOther.legible).trans
      (plain.layout_eq_iff plainOther)
  · exact (Layout.spread_eq_iff clear_vocabulary plain.legible plainOther.legible).trans
      (plain.layout_eq_iff plainOther)

/-- A tuple with the token for "no value" and one with an empty tuple in its place have the same plain
text and are told apart as layouts. -/
theorem Value.inspection_identifies_unit :
    (Value.tuple [.unit, .i32 (-1)]).Plain ∧ (Value.tuple [.tuple [], .i32 (-1)]).Plain ∧
      World.text {} (.tuple [.unit, .i32 (-1)]) = World.text {} (.tuple [.tuple [], .i32 (-1)]) ∧
      (World.layout {} (.tuple [.unit, .i32 (-1)])).flat ≠
        (World.layout {} (.tuple [.tuple [], .i32 (-1)])).flat ∧
      (World.layout {} (.tuple [.unit, .i32 (-1)])).spread 0 ≠
        (World.layout {} (.tuple [.tuple [], .i32 (-1)])).spread 0 := by
  have token : (Value.tuple [.unit, .i32 (-1)]).Plain := by
    refine .tuple fun item member => ?_
    rw [List.mem_pair] at member
    obtain rfl | rfl := member
    · exact .scalar .unit
    · exact .scalar (.i32 (-1))
  have empty : (Value.tuple [.tuple [], .i32 (-1)]).Plain := by
    refine .tuple fun item member => ?_
    rw [List.mem_pair] at member
    obtain rfl | rfl := member
    · exact .tuple nofun
    · exact .scalar (.i32 (-1))
  obtain ⟨flat, spread, _⟩ := Value.inspection_identifies token empty {} {}
  exact ⟨token, empty, by simp [World.text, text, itemsText],
    fun same => absurd (flat.mp same) (by decide),
    fun same => absurd ((spread 0).mp same) (by decide)⟩

example : (World.layout {} (.tuple [.i32 1, .tuple []])).spread 0 =
    "Tuple(\n    [\n        I32(1),\n        Tuple(\n            [],\n        ),\n    ],\n)" := by
  decide

end Erasure
