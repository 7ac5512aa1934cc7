/-
This file defines layouts, the bracketed outlines in which values, signatures and
errors are described to a programmer. A layout can be written flat, on one line, or
spread, with every item of a bracket on a line of its own, four columns further in
than the bracket and followed by a comma. A bracket that holds nothing is written
flat in both.
-/

namespace Erasure

/-- The three brackets of a layout. -/
inductive Bracket
  /-- Round brackets hold the items of a named constructor. -/
  | round
  /-- Square brackets hold the items of a list. -/
  | square
  /-- Braces hold the labelled fields of a record. -/
  | brace
  deriving DecidableEq, Repr

namespace Bracket

/-- What opens a bracket before items on the same line. -/
def openFlat : Bracket → String
  | round => "("
  | square => "["
  | brace => String.ofList [' ', '{', ' ']

/-- What closes a bracket after items on the same line. -/
def closeFlat : Bracket → String
  | round => ")"
  | square => "]"
  | brace => String.ofList [' ', '}']

/-- What opens a bracket before items on lines of their own. -/
def openSpread : Bracket → String
  | round => "("
  | square => "["
  | brace => String.ofList [' ', '{']

/-- What closes a bracket after items on lines of their own. -/
def closeSpread : Bracket → String
  | round => ")"
  | square => "]"
  | brace => String.singleton '}'

end Bracket

/-- The outline of a described thing. -/
inductive Layout
  /-- A text that is never broken. -/
  | word (text : String)
  /-- A layout with the label of the field that holds it. -/
  | field (label : String) (content : Layout)
  /-- A bracket with its items, behind a name that may be empty. -/
  | group (name : String) (bracket : Bracket) (items : List Layout)
  deriving Inhabited

namespace Layout

/-- A named constructor with its arguments. -/
def constructed (name : String) (arguments : List Layout) : Layout :=
  group name .round arguments

/-- A list, which has no name. -/
def list (items : List Layout) : Layout :=
  group "" .square items

/-- A named record with its labelled fields. -/
def record (name : String) (fields : List (String × Layout)) : Layout :=
  group name .brace (fields.map fun labelled => field labelled.1 labelled.2)

mutual

/-- A layout on one line, its items separated by commas. -/
def flat : Layout → String
  | word text => text
  | field label content => label ++ ": " ++ content.flat
  | group name bracket items => name ++ bracket.openFlat ++ flatItems items ++ bracket.closeFlat

/-- Several layouts on one line, separated by commas. -/
def flatItems : List Layout → String
  | [] => ""
  | [item] => item.flat
  | item :: next :: rest => item.flat ++ ", " ++ flatItems (next :: rest)

end

/-- The blank columns in front of a line at a depth of nesting. -/
def margin (depth : Nat) : String :=
  String.ofList (List.replicate (4 * depth) ' ')

mutual

/-- A layout with every item on its own line. The first line is written without a margin; the
later ones are written at the given depth. -/
def spread (depth : Nat) : Layout → String
  | word text => text
  | field label content => label ++ ": " ++ content.spread depth
  | group name bracket [] => name ++ bracket.openFlat ++ bracket.closeFlat
  | group name bracket (item :: rest) =>
    name ++ bracket.openSpread ++ "\n" ++ spreadItems (depth + 1) (item :: rest) ++
      margin depth ++ bracket.closeSpread

/-- Several layouts, each on lines of its own that end in a comma. -/
def spreadItems (depth : Nat) : List Layout → String
  | [] => ""
  | item :: rest => margin depth ++ item.spread depth ++ ",\n" ++ spreadItems depth rest

end

end Layout

end Erasure
