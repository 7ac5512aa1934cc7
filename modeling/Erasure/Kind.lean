/-
This file defines the kinds that a position of a function can be declared with.
A primitive kind says that the position holds a native number or truth value,
`void` that a function returns nothing, and `erased` that the position takes any
value at all and passes it on unconverted.
-/

namespace Erasure

/-- What a parameter or a result of a function is declared to hold. -/
inductive Kind
  | i32
  | i64
  | f32
  | f64
  | bool
  /-- No value; only a result may be declared so. -/
  | void
  /-- Any value, passed on as it is. -/
  | erased
  deriving DecidableEq, Repr, Inhabited

namespace Kind

/-- The kinds, in the order of their positions. -/
def all : List Kind :=
  [i32, i64, f32, f64, bool, void, erased]

/-- The name a kind is written with wherever it is shown. -/
def name : Kind → String
  | i32 => "I32"
  | i64 => "I64"
  | f32 => "F32"
  | f64 => "F64"
  | bool => "Bool"
  | void => "Void"
  | erased => "Erased"

/-- The kind that has the given name, if one has. -/
def ofName? (text : String) : Option Kind :=
  all.find? fun kind => kind.name == text

/-- The place of a kind among all kinds, counted from zero. -/
def position : Kind → Nat
  | i32 => 0
  | i64 => 1
  | f32 => 2
  | f64 => 3
  | bool => 4
  | void => 5
  | erased => 6

/-- Whether values of this kind have a native representation that they are unboxed to. -/
def isPrimitive : Kind → Bool
  | i32 | i64 | f32 | f64 | bool => true
  | void | erased => false

/-- Whether this is the kind of "no value". -/
def isVoid : Kind → Bool
  | void => true
  | _ => false

/-- Whether this is the kind of an unconverted position. -/
def isErased : Kind → Bool
  | erased => true
  | _ => false

@[simp]
theorem isErased_iff {kind : Kind} : kind.isErased = true ↔ kind = erased := by
  cases kind <;> simp [isErased]

/-! ### Names -/

/-- A kind is found by its name. -/
@[simp]
theorem ofName?_name (kind : Kind) : ofName? kind.name = some kind := by
  cases kind <;> decide

/-- No two kinds share a name. -/
theorem name_injective {left right : Kind} (same : left.name = right.name) : left = right := by
  have found := ofName?_name left
  rw [same, ofName?_name] at found
  exact (Option.some.inj found).symm

/-- Looking a text up gives a kind exactly when the text is the name of that kind. -/
theorem ofName?_eq_some_iff {text : String} {kind : Kind} :
    ofName? text = some kind ↔ text = kind.name := by
  constructor
  · intro found
    have named := List.find?_some found
    exact (eq_of_beq named).symm
  · rintro rfl
    exact ofName?_name kind

end Kind

end Erasure
