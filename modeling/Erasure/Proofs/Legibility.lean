/-
This file proves that a layout can be read back from its text, flat or spread. What is
asked for is that its words and the openings of its brackets are clear: none of them is the
beginning of another one, and none begins like the end of a bracket. Then the text of a
layout can be told from whatever follows it, which is shown along the layout, and no two
layouts have the same text.
-/

import Erasure.Layout

namespace Erasure

namespace Bracket

/-- Round and square brackets end with the same sign on one line and on several. -/
theorem close_of_ne_brace {bracket : Bracket} (unbraced : bracket ≠ brace) :
    ∃ closing ∈ [')', ']'], bracket.closeFlat.toList = [closing] ∧
      bracket.closeSpread.toList = [closing] := by
  cases bracket with
  | round => exact ⟨')', by decide, rfl, rfl⟩
  | square => exact ⟨']', by decide, rfl, rfl⟩
  | brace => exact absurd rfl unbraced

/-- Round and square brackets begin with the same sign on one line and on several. -/
theorem openSpread_of_ne_brace {bracket : Bracket} (unbraced : bracket ≠ brace) :
    bracket.openSpread = bracket.openFlat := by
  cases bracket with
  | round | square => rfl
  | brace => exact absurd rfl unbraced

end Bracket

namespace Layout

/-! ### Clear openings -/

/-- What the text of a layout begins with, which is a whole word or the opening of a bracket. -/
inductive Opening
  | word (text : String)
  | bracket (name : String) (bracket : Bracket)

/-- The text of an opening. -/
def Opening.text : Opening → String
  | .word text => text
  | .bracket name sign => name ++ sign.openFlat

/-- A vocabulary of openings is clear if no opening is the beginning of another one and none begins
with a closing bracket. -/
structure Clear (vocabulary : Opening → Prop) : Prop where
  prefixFree : ∀ {first second : Opening}, vocabulary first → vocabulary second →
    first.text.toList <+: second.text.toList → first = second
  begins : ∀ {opening : Opening}, vocabulary opening →
    ∃ first ∉ [')', ']'], ∃ rest, opening.text.toList = first :: rest

/-- A layout is legible if all its words and brackets are in the vocabulary. Records are left out. -/
inductive Legible (vocabulary : Opening → Prop) : Layout → Prop
  | word {text : String} (known : vocabulary (.word text)) : Legible vocabulary (.word text)
  | group {name : String} {bracket : Bracket} {items : List Layout} (unbraced : bracket ≠ .brace)
    (known : vocabulary (.bracket name bracket))
    (each : ∀ item ∈ items, Legible vocabulary item) :
    Legible vocabulary (.group name bracket items)

/-- No legible layout is mistaken for this one, whatever follows the two. -/
def Separated (vocabulary : Opening → Prop) (write : Layout → String) (layout : Layout) : Prop :=
  ∀ {other : Layout}, other.Legible vocabulary → ∀ {rest others : List Char},
    (write layout).toList ++ rest = (write other).toList ++ others →
      layout = other ∧ rest = others

variable {vocabulary : Opening → Prop} {layout : Layout} {closing : Char} {rest others : List Char}
  {depth : Nat}

/-- A clear opening can be told from whatever follows it. -/
theorem Clear.cancel (clear : Clear vocabulary) {first second : Opening}
    (knownFirst : vocabulary first) (knownSecond : vocabulary second)
    (equal : first.text.toList ++ rest = second.text.toList ++ others) :
    first = second ∧ rest = others := by
  have same : first = second := by
    obtain shorter | shorter := List.prefix_or_prefix_of_prefix
      (List.prefix_append first.text.toList rest) (equal ▸ List.prefix_append _ others)
    · exact clear.prefixFree knownFirst knownSecond shorter
    · exact (clear.prefixFree knownSecond knownFirst shorter).symm
  subst same
  exact ⟨rfl, List.append_cancel_left equal⟩

/-- Layouts are separated if the insides of their brackets are, for they begin with their openings. -/
theorem Legible.separated (clear : Clear vocabulary) {write : Layout → String}
    {inside : Bracket → List Layout → List Char} (legible : layout.Legible vocabulary)
    (writeWord : ∀ text, write (.word text) = text)
    (writeGroup : ∀ name bracket items, bracket ≠ .brace →
      (write (.group name bracket items)).toList =
        (Opening.bracket name bracket).text.toList ++ inside bracket items)
    (insideSeparated : ∀ {name bracket items}, layout = .group name bracket items →
      bracket ≠ .brace → ∀ {otherItems : List Layout},
      (∀ item ∈ otherItems, item.Legible vocabulary) → ∀ {rest others : List Char},
        inside bracket items ++ rest = inside bracket otherItems ++ others →
          items = otherItems ∧ rest = others) :
    layout.Separated vocabulary write := by
  intro other legibleOther rest others equal
  -- A word and a bracket differ in their openings already, and so do two words or two brackets of
  -- different names. What is left are the insides of one bracket.
  cases legible with
  | word known =>
    rw [writeWord] at equal
    cases legibleOther with
    | word knownOther =>
      rw [writeWord] at equal
      obtain ⟨same, behind⟩ := clear.cancel known knownOther equal
      exact ⟨congrArg _ (Opening.word.inj same), behind⟩
    | group unbraced knownOther _ =>
      rw [writeGroup _ _ _ unbraced, List.append_assoc] at equal
      cases (clear.cancel known knownOther equal).1
  | group unbraced known _ =>
    rw [writeGroup _ _ _ unbraced, List.append_assoc] at equal
    cases legibleOther with
    | word knownOther =>
      rw [writeWord] at equal
      cases (clear.cancel known knownOther equal).1
    | group unbracedOther knownOther eachOther =>
      rw [writeGroup _ _ _ unbracedOther, List.append_assoc] at equal
      obtain ⟨same, further⟩ := clear.cancel known knownOther equal
      cases same
      obtain ⟨rfl, behind⟩ := insideSeparated rfl unbraced eachOther further
      exact ⟨rfl, behind⟩

/-! ### On one line -/

/-- The items that follow another one on the same line. -/
def flatRest : List Layout → List Char
  | [] => []
  | item :: rest => ',' :: ' ' :: (item.flat.toList ++ flatRest rest)

theorem flatItems_cons (item : Layout) (rest : List Layout) :
    (flatItems (item :: rest)).toList = item.flat.toList ++ flatRest rest := by
  induction rest generalizing item with
  | nil => simp [flatItems, flatRest]
  | cons next following inductionHypothesis => simp [flatItems, flatRest, inductionHypothesis]

theorem flat_group (name : String) (bracket : Bracket) (items : List Layout) :
    (group name bracket items).flat.toList =
      (Opening.bracket name bracket).text.toList ++
        ((flatItems items).toList ++ bracket.closeFlat.toList) := by
  simp only [flat, Opening.text, String.toList_append, List.append_assoc]

/-- The text of a legible layout does not begin like the end of a bracket. -/
theorem Legible.flat_ne_closing (clear : Clear vocabulary) (legible : layout.Legible vocabulary)
    (closes : closing ∈ [')', ']']) : layout.flat.toList ++ rest ≠ closing :: others := by
  have opened : ∃ opening more, vocabulary opening ∧
      layout.flat.toList = opening.text.toList ++ more := by
    cases legible with
    | @word text known =>
      refine ⟨.word text, [], known, ?_⟩
      rw [flat, Opening.text, List.append_nil]
    | group _ known _ => exact ⟨_, _, known, flat_group _ _ _⟩
  obtain ⟨opening, more, known, text⟩ := opened
  obtain ⟨first, opens, following, begins⟩ := clear.begins known
  rw [text, begins]
  intro equal
  exact opens ((List.cons.inj equal).1 ▸ closes)

/-- Items that follow another one can be told from the end of their bracket. -/
theorem flatRest_cancel (closes : closing ∈ [')', ']']) {items : List Layout}
    (separated : ∀ item ∈ items, item.Separated vocabulary flat) {otherItems : List Layout}
    (eachOther : ∀ item ∈ otherItems, item.Legible vocabulary)
    (equal : flatRest items ++ closing :: rest = flatRest otherItems ++ closing :: others) :
    items = otherItems ∧ rest = others := by
  have noComma : closing ≠ ',' := by
    rintro rfl
    exact absurd closes (by decide)
  induction items generalizing otherItems with
  | nil =>
    cases otherItems with
    | nil => exact ⟨rfl, (List.cons.inj equal).2⟩
    | cons _ _ => exact absurd (List.cons.inj equal).1 noComma
  | cons item tail inductionHypothesis =>
    rw [List.forall_mem_cons] at separated
    cases otherItems with
    | nil => exact absurd (List.cons.inj equal).1.symm noComma
    | cons other otherTail =>
      rw [List.forall_mem_cons] at eachOther
      simp only [flatRest, List.cons_append, List.append_assoc, List.cons.injEq,
        true_and] at equal
      obtain ⟨rfl, further⟩ := separated.1 eachOther.1 equal
      obtain ⟨same, behind⟩ := inductionHypothesis separated.2 eachOther.2 further
      exact ⟨congrArg _ same, behind⟩

/-- Items on one line can be told from the end of their bracket. -/
theorem flatItems_cancel (clear : Clear vocabulary) (closes : closing ∈ [')', ']'])
    {items : List Layout} (each : ∀ item ∈ items, item.Legible vocabulary)
    (separated : ∀ item ∈ items, item.Separated vocabulary flat) {otherItems : List Layout}
    (eachOther : ∀ item ∈ otherItems, item.Legible vocabulary)
    (equal : (flatItems items).toList ++ closing :: rest =
      (flatItems otherItems).toList ++ closing :: others) :
    items = otherItems ∧ rest = others := by
  cases items with
  | nil =>
    cases otherItems with
    | nil => exact ⟨rfl, (List.cons.inj equal).2⟩
    | cons other otherTail =>
      rw [flatItems_cons, List.append_assoc] at equal
      exact absurd equal.symm ((eachOther other List.mem_cons_self).flat_ne_closing clear closes)
  | cons item tail =>
    rw [flatItems_cons, List.append_assoc] at equal
    cases otherItems with
    | nil => exact absurd equal ((each item List.mem_cons_self).flat_ne_closing clear closes)
    | cons other otherTail =>
      rw [List.forall_mem_cons] at separated eachOther
      rw [flatItems_cons, List.append_assoc] at equal
      obtain ⟨rfl, further⟩ := separated.1 eachOther.1 equal
      obtain ⟨same, behind⟩ := flatRest_cancel closes separated.2 eachOther.2 further
      exact ⟨congrArg _ same, behind⟩

/-- A legible layout on one line can be told from whatever follows it. -/
theorem Legible.flat_separated (clear : Clear vocabulary) (legible : layout.Legible vocabulary) :
    layout.Separated vocabulary flat := by
  induction legible with
  | word known =>
    exact (word known).separated clear (fun _ => rfl) (fun _ _ _ _ => flat_group _ _ _) nofun
  | group unbraced known each inductionHypothesis =>
    refine (group unbraced known each).separated clear (fun _ => rfl)
      (fun _ _ _ _ => flat_group _ _ _) ?_
    rintro _ _ _ ⟨⟩ _ otherItems eachOther rest others equal
    obtain ⟨closing, closes, close, _⟩ := Bracket.close_of_ne_brace unbraced
    rw [close, List.append_assoc, List.append_assoc] at equal
    exact flatItems_cancel clear closes each inductionHypothesis eachOther equal

/-! ### On lines of their own -/

theorem margin_succ (depth : Nat) :
    (margin (depth + 1)).toList = (margin depth).toList ++ List.replicate 4 ' ' := by
  simp only [margin, String.toList_ofList, List.replicate_append_replicate, Nat.mul_succ]

/-- What stands between the brackets of items on lines of their own. -/
def spreadInside (depth : Nat) : List Layout → List Char
  | [] => []
  | item :: rest =>
    '\n' :: ((spreadItems (depth + 1) (item :: rest)).toList ++ (margin depth).toList)

theorem spread_group (depth : Nat) (name : String) (bracket : Bracket) (items : List Layout)
    (unbraced : bracket ≠ .brace) :
    ((group name bracket items).spread depth).toList =
      (Opening.bracket name bracket).text.toList ++
        (spreadInside depth items ++ bracket.closeFlat.toList) := by
  obtain ⟨closing, _, closeFlat, closeSpread⟩ := Bracket.close_of_ne_brace unbraced
  cases items with
  | nil =>
    simp only [spread, spreadInside, Opening.text, String.toList_append, List.append_assoc,
      List.nil_append]
  | cons item rest =>
    have lineBreak : "\n".toList = ['\n'] := rfl
    simp only [spread, spreadInside, Opening.text, String.toList_append, List.append_assoc,
      List.cons_append, List.nil_append, Bracket.openSpread_of_ne_brace unbraced, lineBreak,
      closeFlat, closeSpread]

/-- Items on lines of their own can be told from the end of their bracket, which stands further to
the left. -/
theorem spreadItems_cancel (closes : closing ∈ [')', ']']) {items : List Layout}
    (separated : ∀ item ∈ items, item.Separated vocabulary (spread (depth + 1)))
    {otherItems : List Layout} (eachOther : ∀ item ∈ otherItems, item.Legible vocabulary)
    (equal : (spreadItems (depth + 1) items).toList ++ ((margin depth).toList ++ closing :: rest) =
      (spreadItems (depth + 1) otherItems).toList ++ ((margin depth).toList ++ closing :: others)) :
    items = otherItems ∧ rest = others := by
  have noBlank : closing ≠ ' ' := by
    rintro rfl
    exact absurd closes (by decide)
  induction items generalizing otherItems with
  | nil =>
    -- One more item would begin with the longer margin, with a blank where the bracket ends.
    cases otherItems with
    | nil => exact ⟨rfl, (List.cons.inj (List.append_cancel_left equal)).2⟩
    | cons other otherTail =>
      simp only [spreadItems, String.toList_append, margin_succ, List.append_assoc] at equal
      exact absurd (List.cons.inj (List.append_cancel_left equal)).1 noBlank
  | cons item tail inductionHypothesis =>
    rw [List.forall_mem_cons] at separated
    cases otherItems with
    | nil =>
      simp only [spreadItems, String.toList_append, margin_succ, List.append_assoc] at equal
      exact absurd (List.cons.inj (List.append_cancel_left equal)).1.symm noBlank
    | cons other otherTail =>
      rw [List.forall_mem_cons] at eachOther
      simp only [spreadItems, String.toList_append, List.append_assoc] at equal
      obtain ⟨rfl, further⟩ := separated.1 eachOther.1 (List.append_cancel_left equal)
      obtain ⟨same, behind⟩ := inductionHypothesis separated.2 eachOther.2
        (List.append_cancel_left further)
      exact ⟨congrArg _ same, behind⟩

/-- A legible layout on lines of its own can be told from whatever follows it. -/
theorem Legible.spread_separated (clear : Clear vocabulary) (legible : layout.Legible vocabulary) :
    layout.Separated vocabulary (spread depth) := by
  induction legible generalizing depth with
  | word known => exact (word known).separated clear (fun _ => rfl) (spread_group depth) nofun
  | @group _ _ items unbraced known each inductionHypothesis =>
    refine (group unbraced known each).separated clear (fun _ => rfl) (spread_group depth) ?_
    rintro _ _ _ ⟨⟩ _ otherItems eachOther rest others equal
    obtain ⟨closing, closes, close, _⟩ := Bracket.close_of_ne_brace unbraced
    have noBreak : closing ≠ '\n' := by
      rintro rfl
      exact absurd closes (by decide)
    rw [close, List.append_assoc, List.append_assoc] at equal
    -- An empty bracket is closed at once, and any other one goes on with a new line.
    cases items with
    | nil =>
      cases otherItems with
      | nil => exact ⟨rfl, (List.cons.inj equal).2⟩
      | cons _ _ => exact absurd (List.cons.inj equal).1 noBreak
    | cons _ _ =>
      cases otherItems with
      | nil => exact absurd (List.cons.inj equal).1.symm noBreak
      | cons _ _ =>
        simp only [spreadInside, List.cons_append, List.append_assoc, List.cons.injEq,
          true_and] at equal
        exact spreadItems_cancel closes (fun item member => inductionHypothesis item member)
          eachOther equal

/-! ### Texts determine layouts -/

section

variable (clear : Clear vocabulary) {left right : Layout} (legible : left.Legible vocabulary)
  (legibleOther : right.Legible vocabulary)

include clear legible legibleOther

/-- No two legible layouts have the same text on one line. -/
theorem flat_eq_iff : left.flat = right.flat ↔ left = right := by
  refine ⟨fun equal => ?_, congrArg flat⟩
  exact (legible.flat_separated clear legibleOther
    (congrArg (fun text => text.toList ++ []) equal)).1

/-- No two legible layouts have the same text on lines of their own. -/
theorem spread_eq_iff : left.spread depth = right.spread depth ↔ left = right := by
  refine ⟨fun equal => ?_, congrArg (spread depth)⟩
  exact (legible.spread_separated clear legibleOther
    (congrArg (fun text => text.toList ++ []) equal)).1

end

end Layout

end Erasure
