/-
This file cuts JSON text into tokens. Blanks between tokens are skipped. Of a string the
text is kept that it stands for, and of a number only that it is one, for no signature
holds a number. What counts as a token is the documented behaviour of the library that the
program reads JSON with.
-/

import Erasure.Json.Quoted

namespace Erasure.Json

/-- The smallest parts of a JSON text. -/
inductive Token
  | openBrace
  | closeBrace
  | openBracket
  | closeBracket
  | comma
  | colon
  | null
  | bool (truth : Bool)
  | number
  /-- A string, with the text it stands for, if it stands for one. -/
  | string (text : Option String)
  deriving DecidableEq, Repr

/-- Whether a character may stand between two tokens. -/
def isBlank (character : Char) : Bool :=
  character == ' ' || character == '\n' || character == '\t' || character == '\r'

/-! ### Numbers -/

/-- What follows a row of digits. -/
def skipDigits (input : List Char) : List Char :=
  input.dropWhile Char.isDigit

/-- What follows a row of at least one digit. -/
def skipSomeDigits? : List Char → Option (List Char)
  | [] => none
  | first :: rest => if first.isDigit then some (skipDigits rest) else none

/-- What follows the whole part of a number, which has no leading zero. -/
def skipWhole? : List Char → Option (List Char)
  | '0' :: rest => some rest
  | input => skipSomeDigits? input

/-- What follows the fraction of a number, if it has one. -/
def skipFraction? : List Char → Option (List Char)
  | '.' :: rest => skipSomeDigits? rest
  | input => some input

/-- What follows a sign, if there is one. -/
def skipSign : List Char → List Char
  | '+' :: rest => rest
  | '-' :: rest => rest
  | input => input

/-- What follows the exponent of a number, if it has one. -/
def skipExponent? : List Char → Option (List Char)
  | 'e' :: rest => skipSomeDigits? (skipSign rest)
  | 'E' :: rest => skipSomeDigits? (skipSign rest)
  | input => some input

/-- What follows a number without its sign. -/
def skipUnsigned? (input : List Char) : Option (List Char) := do
  skipExponent? (← skipFraction? (← skipWhole? input))

/-- What follows a number. -/
def skipNumber? : List Char → Option (List Char)
  | '-' :: rest => skipUnsigned? rest
  | input => skipUnsigned? input

/-! ### Tokens -/

/-- The first token of a text that does not begin with a blank, and what follows it. -/
def scanToken : List Char → Option (Token × List Char)
  | '{' :: rest => some (.openBrace, rest)
  | '}' :: rest => some (.closeBrace, rest)
  | '[' :: rest => some (.openBracket, rest)
  | ']' :: rest => some (.closeBracket, rest)
  | ',' :: rest => some (.comma, rest)
  | ':' :: rest => some (.colon, rest)
  | 'n' :: 'u' :: 'l' :: 'l' :: rest => some (.null, rest)
  | 't' :: 'r' :: 'u' :: 'e' :: rest => some (.bool true, rest)
  | 'f' :: 'a' :: 'l' :: 's' :: 'e' :: rest => some (.bool false, rest)
  | '"' :: rest =>
    (scanQuoted rest).map fun (spelled, remaining) =>
      (.string ((spelledText? spelled).map String.ofList), remaining)
  | input => (skipNumber? input).map fun remaining => (.number, remaining)

theorem skipDigits_length (input : List Char) : (skipDigits input).length ≤ input.length :=
  (List.dropWhile_sublist _).length_le

/-- There is less text behind digits, since one at least was skipped. -/
theorem skipSomeDigits?_length {input remaining : List Char}
    (skipped : skipSomeDigits? input = some remaining) : remaining.length < input.length := by
  cases input with
  | nil => simp [skipSomeDigits?] at skipped
  | cons first rest =>
    simp only [skipSomeDigits?] at skipped
    split at skipped
    · cases skipped
      exact Nat.lt_succ_of_le (skipDigits_length rest)
    · simp at skipped

theorem skipWhole?_length {input remaining : List Char}
    (skipped : skipWhole? input = some remaining) : remaining.length < input.length := by
  unfold skipWhole? at skipped
  split at skipped
  · cases skipped
    exact Nat.lt_succ_self _
  · exact skipSomeDigits?_length skipped

theorem skipFraction?_length {input remaining : List Char}
    (skipped : skipFraction? input = some remaining) : remaining.length ≤ input.length := by
  unfold skipFraction? at skipped
  split at skipped
  · exact Nat.le_succ_of_le (Nat.le_of_lt (skipSomeDigits?_length skipped))
  · cases skipped
    exact Nat.le_refl _

theorem skipSign_length (input : List Char) : (skipSign input).length ≤ input.length := by
  unfold skipSign
  split <;> simp

theorem skipExponent?_length {input remaining : List Char}
    (skipped : skipExponent? input = some remaining) : remaining.length ≤ input.length := by
  unfold skipExponent? at skipped
  split at skipped
  · exact Nat.le_succ_of_le
      (Nat.le_trans (Nat.le_of_lt (skipSomeDigits?_length skipped)) (skipSign_length _))
  · exact Nat.le_succ_of_le
      (Nat.le_trans (Nat.le_of_lt (skipSomeDigits?_length skipped)) (skipSign_length _))
  · cases skipped
    exact Nat.le_refl _

/-- A number without its sign has a digit at least, as its whole part has. -/
theorem skipUnsigned?_length {input remaining : List Char}
    (skipped : skipUnsigned? input = some remaining) : remaining.length < input.length := by
  simp only [skipUnsigned?, Option.bind_eq_bind, Option.bind_eq_some_iff] at skipped
  obtain ⟨afterWhole, whole, afterFraction, fraction, exponent⟩ := skipped
  exact Nat.lt_of_le_of_lt
    (Nat.le_trans (skipExponent?_length exponent) (skipFraction?_length fraction))
    (skipWhole?_length whole)

/-- A number has at least one character. -/
theorem skipNumber?_length {input remaining : List Char}
    (skipped : skipNumber? input = some remaining) : remaining.length < input.length := by
  unfold skipNumber? at skipped
  split at skipped
  · exact Nat.lt_succ_of_lt (skipUnsigned?_length skipped)
  · exact skipUnsigned?_length skipped

/-- A token has at least one character. -/
theorem scanToken_length {input remaining : List Char} {token : Token}
    (scanned : scanToken input = some (token, remaining)) : remaining.length < input.length := by
  unfold scanToken at scanned
  split at scanned
  case h_10 rest =>
    obtain ⟨⟨spelled, left⟩, found, equal⟩ := Option.map_eq_some_iff.mp scanned
    cases equal
    exact Nat.lt_succ_of_lt (scanQuoted_length found)
  case h_11 =>
    obtain ⟨left, found, equal⟩ := Option.map_eq_some_iff.mp scanned
    cases equal
    exact skipNumber?_length found
  all_goals
    cases scanned
    simp only [List.length_cons]
    omega

/-- The tokens of a text; nothing if some part of it is no token. -/
def tokens? : List Char → Option (List Token)
  | [] => some []
  | first :: rest =>
    if isBlank first then
      tokens? rest
    else
      match _scanned : scanToken (first :: rest) with
      | none => none
      | some (token, remaining) => (tokens? remaining).map (token :: ·)
termination_by input => input.length
decreasing_by
  · simp
  · exact scanToken_length _scanned

/-- A blank is skipped. -/
theorem tokens?_blank {first : Char} (blank : isBlank first = true) (rest : List Char) :
    tokens? (first :: rest) = tokens? rest := by
  rw [tokens?, if_pos blank]

/-- A text that begins with a token has it in front of the tokens of what follows it. -/
theorem tokens?_token {first : Char} {rest remaining : List Char} {token : Token}
    (visible : isBlank first = false)
    (scanned : scanToken (first :: rest) = some (token, remaining)) :
    tokens? (first :: rest) = (tokens? remaining).map (token :: ·) := by
  rw [tokens?, if_neg (by simp [visible])]
  split
  · next missing =>
    rw [scanned] at missing
    cases missing
  · next found =>
    rw [scanned] at found
    cases found
    rfl

end Erasure.Json
