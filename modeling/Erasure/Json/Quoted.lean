/-
This file reads the strings of JSON. Inside its quotation marks a string may spell a
character as a code of sixteen bits, and one above the basic plane as a pair of them.
Half of such a pair is well formed as a spelling but stands for no character, so that
a string is read in two steps: what was spelled, and the text this stands for, if any.
Both follow the documented behaviour of the library that the program reads JSON with.
-/

namespace Erasure.Json

/-- One thing spelled inside quotation marks. -/
inductive Spelled
  /-- A character as it is, or by a short escape. -/
  | character (character : Char)
  /-- A code of sixteen bits. -/
  | code (unit : Nat)
  deriving DecidableEq, Repr

/-- Whether a code is the first half of a pair. -/
def isHighHalf (unit : Nat) : Bool :=
  0xd800 ≤ unit && unit < 0xdc00

/-- Whether a code is the second half of a pair. -/
def isLowHalf (unit : Nat) : Bool :=
  0xdc00 ≤ unit && unit < 0xe000

/-- The character that a pair of halves stands for. -/
def joinHalves (high low : Nat) : Char :=
  Char.ofNat (0x10000 + (high - 0xd800) * 0x400 + (low - 0xdc00))

/-- The characters that a string stands for; nothing if a half stands alone in it. -/
def spelledText? : List Spelled → Option (List Char)
  | [] => some []
  | .character character :: rest => (spelledText? rest).map (character :: ·)
  | .code high :: .code low :: rest =>
    if isHighHalf high then
      if isLowHalf low then (spelledText? rest).map (joinHalves high low :: ·) else none
    else if isLowHalf high then
      none
    else
      (spelledText? (.code low :: rest)).map (Char.ofNat high :: ·)
  | .code unit :: rest =>
    if isHighHalf unit || isLowHalf unit then
      none
    else
      (spelledText? rest).map (Char.ofNat unit :: ·)

/-- The number that a hexadecimal digit of either case stands for. -/
def hexDigit? (digit : Char) : Option Nat :=
  if '0' ≤ digit ∧ digit ≤ '9' then some (digit.toNat - '0'.toNat)
  else if 'a' ≤ digit ∧ digit ≤ 'f' then some (digit.toNat - 'a'.toNat + 10)
  else if 'A' ≤ digit ∧ digit ≤ 'F' then some (digit.toNat - 'A'.toNat + 10)
  else none

/-- The code that four hexadecimal digits spell. -/
def hexCode? (first second third fourth : Char) : Option Nat := do
  let first ← hexDigit? first
  let second ← hexDigit? second
  let third ← hexDigit? third
  let fourth ← hexDigit? fourth
  return ((first * 16 + second) * 16 + third) * 16 + fourth

/-- The character that a letter behind a backslash stands for. -/
def shortEscape? (letter : Char) : Option Char :=
  match letter with
  | '"' => some '"'
  | '\\' => some '\\'
  | '/' => some '/'
  | 'b' => some '\x08'
  | 'f' => some '\x0c'
  | 'n' => some '\n'
  | 'r' => some '\r'
  | 't' => some '\t'
  | _ => none

/-- The character that a letter stands for without a backslash. Control characters must be
escaped. -/
def unescaped? (letter : Char) : Option Char :=
  if 0x20 ≤ letter.toNat then some letter else none

/-- What a string spells, read from behind its opening quotation mark, and what follows its
closing one. -/
def scanQuoted : List Char → Option (List Spelled × List Char)
  | [] => none
  | '"' :: rest => some ([], rest)
  | '\\' :: 'u' :: first :: second :: third :: fourth :: rest => do
    let unit ← hexCode? first second third fourth
    let (spelled, remaining) ← scanQuoted rest
    return (.code unit :: spelled, remaining)
  | '\\' :: letter :: rest => do
    let character ← shortEscape? letter
    let (spelled, remaining) ← scanQuoted rest
    return (.character character :: spelled, remaining)
  | letter :: rest => do
    let character ← unescaped? letter
    let (spelled, remaining) ← scanQuoted rest
    return (.character character :: spelled, remaining)

/-- A string ends behind where it began. -/
theorem scanQuoted_length {input remaining : List Char} {spelled : List Spelled}
    (scanned : scanQuoted input = some (spelled, remaining)) :
    remaining.length < input.length := by
  fun_induction scanQuoted input generalizing spelled remaining with
  | case1 => simp at scanned
  | case2 rest =>
    simp only [Option.some.injEq, Prod.mk.injEq] at scanned
    simp [← scanned.2]
  | case3 first second third fourth rest inductionHypothesis =>
    simp only [Option.bind_eq_bind, Option.bind_eq_some_iff, Prod.exists] at scanned
    obtain ⟨unit, -, inner, left, found, equal⟩ := scanned
    cases equal
    have shorter := inductionHypothesis found
    simp only [List.length_cons]
    omega
  | case4 letter rest other inductionHypothesis =>
    simp only [Option.bind_eq_bind, Option.bind_eq_some_iff, Prod.exists] at scanned
    obtain ⟨character, -, inner, left, found, equal⟩ := scanned
    cases equal
    have shorter := inductionHypothesis found
    simp only [List.length_cons]
    omega
  | case5 letter rest notQuote notCode notEscape inductionHypothesis =>
    simp only [Option.bind_eq_bind, Option.bind_eq_some_iff, Prod.exists] at scanned
    obtain ⟨character, -, inner, left, found, equal⟩ := scanned
    cases equal
    have shorter := inductionHypothesis found
    simp only [List.length_cons]
    omega

end Erasure.Json
