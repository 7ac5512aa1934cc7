/-
This file defines rows, lists of a fixed length. The arguments of a function and the
types of its parameters are rows of one length, so that a call never has to ask whether
it was given the right number of arguments.
-/

namespace Erasure

/-- Exactly `length` things in order. -/
inductive Row (α : Type) : (length : Nat) → Type
  | nil : Row α 0
  | cons {length : Nat} (first : α) (rest : Row α length) : Row α (length + 1)

namespace Row

variable {α : Type}

/-- A row of one thing. -/
def single (first : α) : Row α 1 :=
  cons first nil

/-- A row of two things. -/
def pair (first second : α) : Row α 2 :=
  cons first (single second)

/-- A row of three things. -/
def triple (first second third : α) : Row α 3 :=
  cons first (pair second third)

/-- The things of a row as a list. -/
def toList : {length : Nat} → Row α length → List α
  | _, nil => []
  | _, cons first rest => first :: rest.toList

/-- A list as a row of its own length. -/
def ofList : (items : List α) → Row α items.length
  | [] => nil
  | item :: rest => cons item (ofList rest)

/-- A list as a row of the given length, if that is the length of the list. -/
def ofList? : (length : Nat) → List α → Option (Row α length)
  | 0, [] => some nil
  | length + 1, item :: rest => (ofList? length rest).map (cons item)
  | _, _ => none

/-! ### Rows and lists -/

/-- A row has as many things as its type says. -/
@[simp]
theorem length_toList {length : Nat} (row : Row α length) : row.toList.length = length := by
  induction row with
  | nil => rfl
  | cons first rest inductionHypothesis => simp [toList, inductionHypothesis]

/-- A row is read back from the list of its things. -/
@[simp]
theorem ofList?_toList {length : Nat} (row : Row α length) :
    ofList? length row.toList = some row := by
  induction row with
  | nil => rfl
  | cons first rest inductionHypothesis => simp [toList, ofList?, inductionHypothesis]

/-- A row that was made of a list has the things of the list. -/
@[simp]
theorem toList_ofList (items : List α) : (ofList items).toList = items := by
  induction items with
  | nil => rfl
  | cons item rest inductionHypothesis => rw [ofList, toList, inductionHypothesis]

/-- Rows with the same things in the same order are one row. -/
theorem toList_injective {length : Nat} {left right : Row α length}
    (same : left.toList = right.toList) : left = right := by
  have read := ofList?_toList left
  rw [same, ofList?_toList] at read
  exact (Option.some.inj read).symm

/-- A list makes a row exactly if it is the list of that row. -/
theorem ofList?_eq_some_iff {length : Nat} {items : List α} {row : Row α length} :
    ofList? length items = some row ↔ row.toList = items := by
  constructor
  · intro made
    induction length generalizing items with
    | zero =>
      cases items with
      | nil => cases made; rfl
      | cons item rest => simp [ofList?] at made
    | succ length inductionHypothesis =>
      cases items with
      | nil => simp [ofList?] at made
      | cons item rest =>
        obtain ⟨others, found, rfl⟩ := Option.map_eq_some_iff.mp made
        simp [toList, inductionHypothesis found]
  · rintro rfl
    exact ofList?_toList row

/-- A list makes no row exactly if it has another length. -/
theorem ofList?_eq_none_iff {length : Nat} {items : List α} :
    ofList? length items = none ↔ items.length ≠ length := by
  constructor
  · rintro missing rfl
    have made : ofList? items.length items = some (ofList items) := by
      clear missing
      induction items with
      | nil => rfl
      | cons item rest inductionHypothesis => simp [ofList?, ofList, inductionHypothesis]
    simp [made] at missing
  · intro different
    cases made : ofList? length items with
    | none => rfl
    | some row =>
      rw [ofList?_eq_some_iff] at made
      exact absurd (made ▸ row.length_toList) different

end Row

end Erasure
