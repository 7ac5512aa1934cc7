/-
This file says how tokens are written as text and proves that cutting a text finds its
tokens. A number ends where it cannot be read on, so that a text has the tokens it is
written with as long as no number stands directly in front of what it could go on with,
as none does in a document.
-/

import Erasure.Json.Token

namespace Erasure.Json

/-! ### Numbers -/

/-- At least one digit. -/
def Digits (text : List Char) : Prop :=
  text ≠ [] ∧ ∀ digit ∈ text, digit.isDigit = true

/-- The whole part of a number, which has no leading zero. -/
inductive Whole : List Char → Prop
  | zero : Whole ['0']
  | digits {first : Char} {rest : List Char} (leading : first ≠ '0')
    (digits : Digits (first :: rest)) : Whole (first :: rest)

/-- The fraction of a number, or nothing. -/
inductive Fraction : List Char → Prop
  | none : Fraction []
  | some {digits : List Char} (proper : Digits digits) : Fraction ('.' :: digits)

/-- The exponent of a number, or nothing. -/
inductive Exponent : List Char → Prop
  | none : Exponent []
  | some {mark : Char} {sign digits : List Char} (marked : mark = 'e' ∨ mark = 'E')
    (signed : sign = [] ∨ sign = ['+'] ∨ sign = ['-']) (proper : Digits digits) :
    Exponent (mark :: (sign ++ digits))

/-- A number without its sign. -/
inductive Unsigned : List Char → Prop
  | parts {whole fraction exponent : List Char} (properWhole : Whole whole)
    (properFraction : Fraction fraction) (properExponent : Exponent exponent) :
    Unsigned (whole ++ (fraction ++ exponent))

/-- A number. -/
inductive Numeral : List Char → Prop
  | unsigned {text : List Char} (proper : Unsigned text) : Numeral text
  | negative {text : List Char} (proper : Unsigned text) : Numeral ('-' :: text)

/-- A text that does not go on with a digit. -/
def NoDigit (rest : List Char) : Prop :=
  ∀ next ∈ rest.head?, next.isDigit = false

/-- A text that no number in front of it goes on with. -/
def EndsNumber (rest : List Char) : Prop :=
  NoDigit rest ∧ ∀ next ∈ rest.head?, next ≠ '.' ∧ next ≠ 'e' ∧ next ≠ 'E'

/-- Digits are skipped up to the first character that is none. -/
theorem skipDigits_append {digits rest : List Char} (all : ∀ digit ∈ digits, digit.isDigit = true)
    (ends : NoDigit rest) : skipDigits (digits ++ rest) = rest := by
  rw [skipDigits, List.dropWhile_append_of_pos all]
  cases rest with
  | nil => rfl
  | cons next rest => exact List.dropWhile_cons_of_neg (by simp [ends next rfl])

theorem skipDigits_sound (input : List Char) :
    ∃ digits, input = digits ++ skipDigits input ∧ ∀ digit ∈ digits, digit.isDigit = true :=
  ⟨input.takeWhile Char.isDigit, (List.takeWhile_append_dropWhile).symm,
    List.all_eq_true.mp List.all_takeWhile⟩

theorem skipSomeDigits?_append {digits rest : List Char} (proper : Digits digits)
    (ends : NoDigit rest) : skipSomeDigits? (digits ++ rest) = some rest := by
  obtain ⟨some, all⟩ := proper
  cases digits with
  | nil => exact absurd rfl some
  | cons first others =>
    obtain ⟨head, tail⟩ := List.forall_mem_cons.mp all
    rw [List.cons_append, skipSomeDigits?, if_pos head, skipDigits_append tail ends]

theorem skipSomeDigits?_sound {input rest : List Char}
    (skipped : skipSomeDigits? input = some rest) :
    ∃ digits, input = digits ++ rest ∧ Digits digits := by
  unfold skipSomeDigits? at skipped
  split at skipped
  · cases skipped
  · next first others =>
    split at skipped
    · next head =>
      cases skipped
      obtain ⟨digits, parts, all⟩ := skipDigits_sound others
      refine ⟨first :: digits, ?_, List.cons_ne_nil _ _, List.forall_mem_cons.mpr ⟨head, all⟩⟩
      rw [List.cons_append, ← parts]
    · cases skipped

/-- A zero is skipped by itself, and any other whole part up to its last digit. -/
theorem skipWhole?_append {whole rest : List Char} (proper : Whole whole) (ends : NoDigit rest) :
    skipWhole? (whole ++ rest) = some rest := by
  cases proper with
  | zero => rfl
  | @digits first others leading digits =>
    rw [List.cons_append, skipWhole?, ← List.cons_append]
    · exact skipSomeDigits?_append digits ends
    · intro other same
      cases same
      exact leading rfl

theorem skipWhole?_sound {input rest : List Char} (skipped : skipWhole? input = some rest) :
    ∃ whole, input = whole ++ rest ∧ Whole whole := by
  unfold skipWhole? at skipped
  split at skipped
  · cases skipped
    exact ⟨['0'], rfl, .zero⟩
  · next notZero =>
    obtain ⟨digits, rfl, proper⟩ := skipSomeDigits?_sound skipped
    refine ⟨digits, rfl, ?_⟩
    cases digits with
    | nil => exact absurd rfl proper.1
    | cons first others =>
      refine .digits (fun zero => notZero (others ++ rest) ?_) proper
      rw [zero, List.cons_append]

/-- A fraction is skipped up to its last digit. If there is none, no point may follow, which would
start one. -/
theorem skipFraction?_append {fraction rest : List Char} (proper : Fraction fraction)
    (ends : NoDigit rest) (noPoint : ∀ next ∈ rest.head?, next ≠ '.') :
    skipFraction? (fraction ++ rest) = some rest := by
  cases proper with
  | none =>
    rw [List.nil_append, skipFraction?]
    rintro others rfl
    exact noPoint '.' rfl rfl
  | some digits => exact skipSomeDigits?_append digits ends

theorem skipFraction?_sound {input rest : List Char} (skipped : skipFraction? input = some rest) :
    ∃ fraction, input = fraction ++ rest ∧ Fraction fraction := by
  unfold skipFraction? at skipped
  split at skipped
  · obtain ⟨digits, rfl, proper⟩ := skipSomeDigits?_sound skipped
    exact ⟨_, rfl, .some proper⟩
  · cases skipped
    exact ⟨[], rfl, .none⟩

/-- A sign is skipped where there is one, and no digit is taken for one. -/
theorem skipSign_append {sign digits : List Char} (signed : sign = [] ∨ sign = ['+'] ∨ sign = ['-'])
    (proper : Digits digits) (rest : List Char) :
    skipSign (sign ++ digits ++ rest) = digits ++ rest := by
  rcases signed with rfl | rfl | rfl
  · obtain ⟨some, all⟩ := proper
    cases digits with
    | nil => exact absurd rfl some
    | cons first others =>
      have head := all first List.mem_cons_self
      show skipSign (first :: (others ++ rest)) = _
      unfold skipSign
      split
      · next same =>
        cases same
        cases head
      · next same =>
        cases same
        cases head
      · rfl
  · rfl
  · rfl

/-- An exponent is skipped with its mark and its sign. If there is none, no mark may follow. -/
theorem skipExponent?_append {exponent rest : List Char} (proper : Exponent exponent)
    (ends : EndsNumber rest) : skipExponent? (exponent ++ rest) = some rest := by
  cases proper with
  | none =>
    rw [List.nil_append, skipExponent?]
    · rintro others rfl
      exact (ends.2 'e' rfl).2.1 rfl
    · rintro others rfl
      exact (ends.2 'E' rfl).2.2 rfl
  | @some mark sign digits marked signed digitsProper =>
    have behindSign := skipSign_append signed digitsProper rest
    have onwards := skipSomeDigits?_append digitsProper ends.1
    rw [← behindSign] at onwards
    rcases marked with rfl | rfl <;> exact onwards

theorem skipSign_sound (input : List Char) :
    ∃ sign, input = sign ++ skipSign input ∧ (sign = [] ∨ sign = ['+'] ∨ sign = ['-']) := by
  unfold skipSign
  split
  · exact ⟨['+'], rfl, Or.inr (Or.inl rfl)⟩
  · exact ⟨['-'], rfl, Or.inr (Or.inr rfl)⟩
  · exact ⟨[], rfl, Or.inl rfl⟩

theorem skipExponent?_sound {input rest : List Char} (skipped : skipExponent? input = some rest) :
    ∃ exponent, input = exponent ++ rest ∧ Exponent exponent := by
  have marked {mark : Char} {behind : List Char} (either : mark = 'e' ∨ mark = 'E')
      (digits : skipSomeDigits? (skipSign behind) = some rest) :
      ∃ exponent, mark :: behind = exponent ++ rest ∧ Exponent exponent := by
    obtain ⟨sign, parts, signed⟩ := skipSign_sound behind
    obtain ⟨digits, more, proper⟩ := skipSomeDigits?_sound digits
    rw [more, ← List.append_assoc] at parts
    exact ⟨mark :: (sign ++ digits), by rw [parts, List.cons_append], .some either signed proper⟩
  unfold skipExponent? at skipped
  split at skipped
  · exact marked (Or.inl rfl) skipped
  · exact marked (Or.inr rfl) skipped
  · cases skipped
    exact ⟨[], rfl, .none⟩

/-- Behind the whole part and behind the fraction there is no digit. -/
theorem Exponent.noDigit {exponent rest : List Char} (proper : Exponent exponent)
    (ends : EndsNumber rest) :
    NoDigit (exponent ++ rest) ∧ ∀ next ∈ (exponent ++ rest).head?, next ≠ '.' := by
  cases proper with
  | none => exact ⟨ends.1, fun next head => (ends.2 next head).1⟩
  | some marked =>
    rcases marked with rfl | rfl <;> constructor <;> rintro next ⟨⟩ <;> decide

/-- A fraction starts with a point, so that the whole part ends in front of it. -/
theorem Fraction.noDigit {fraction rest : List Char} (proper : Fraction fraction)
    (ends : NoDigit rest) : NoDigit (fraction ++ rest) := by
  cases proper with
  | none => exact ends
  | some digits => rintro next ⟨⟩; decide

/-- The parts of a number are skipped one after the other, each up to where the next one starts. -/
theorem skipUnsigned?_append {text rest : List Char} (proper : Unsigned text)
    (ends : EndsNumber rest) : skipUnsigned? (text ++ rest) = some rest := by
  obtain ⟨whole, fraction, exponent⟩ := proper
  obtain ⟨noDigit, noPoint⟩ := exponent.noDigit ends
  rw [skipUnsigned?, List.append_assoc, skipWhole?_append whole, List.append_assoc]
  · show (skipFraction? _).bind skipExponent? = _
    rw [skipFraction?_append fraction noDigit noPoint]
    exact skipExponent?_append exponent ends
  · rw [List.append_assoc]
    exact fraction.noDigit noDigit

theorem skipUnsigned?_sound {input rest : List Char} (skipped : skipUnsigned? input = some rest) :
    ∃ text, input = text ++ rest ∧ Unsigned text := by
  simp only [skipUnsigned?, Option.bind_eq_bind, Option.bind_eq_some_iff] at skipped
  obtain ⟨afterWhole, wholeSkipped, afterFraction, fractionSkipped, exponentSkipped⟩ := skipped
  obtain ⟨whole, rfl, properWhole⟩ := skipWhole?_sound wholeSkipped
  obtain ⟨fraction, rfl, properFraction⟩ := skipFraction?_sound fractionSkipped
  obtain ⟨exponent, rfl, properExponent⟩ := skipExponent?_sound exponentSkipped
  refine ⟨_, ?_, .parts properWhole properFraction properExponent⟩
  rw [List.append_assoc, List.append_assoc]

theorem Unsigned.head {text : List Char} (proper : Unsigned text) :
    ∃ first rest, text = first :: rest ∧ first.isDigit = true := by
  obtain ⟨whole, fraction, exponent⟩ := proper
  cases whole with
  | zero => exact ⟨'0', _, rfl, rfl⟩
  | digits leading digits => exact ⟨_, _, rfl, digits.2 _ List.mem_cons_self⟩

/-- A number is skipped as a whole if what follows does not go on with it. -/
theorem skipNumber?_append {text rest : List Char} (proper : Numeral text)
    (ends : EndsNumber rest) : skipNumber? (text ++ rest) = some rest := by
  cases proper with
  | unsigned proper =>
    have skipped := skipUnsigned?_append proper ends
    obtain ⟨first, others, rfl, digit⟩ := proper.head
    rw [List.cons_append] at skipped ⊢
    rw [skipNumber?]
    · exact skipped
    · rintro other ⟨⟩
      cases digit
  | negative proper => exact skipUnsigned?_append proper ends

/-- Whatever is skipped as a number is one. -/
theorem skipNumber?_sound {input rest : List Char} (skipped : skipNumber? input = some rest) :
    ∃ text, input = text ++ rest ∧ Numeral text := by
  unfold skipNumber? at skipped
  split at skipped
  · obtain ⟨text, rfl, proper⟩ := skipUnsigned?_sound skipped
    exact ⟨_, rfl, .negative proper⟩
  · obtain ⟨text, rfl, proper⟩ := skipUnsigned?_sound skipped
    exact ⟨_, rfl, .unsigned proper⟩

/-! ### Strings -/

/-- What is spelled inside quotation marks. -/
inductive Spelling : List Char → List Spelled → Prop
  | nothing : Spelling [] []
  /-- A character as it is. -/
  | plain {letter : Char} {rest : List Char} {spelled : List Spelled}
    (visible : 0x20 ≤ letter.toNat) (notQuote : letter ≠ '"') (notEscape : letter ≠ '\\')
    (onwards : Spelling rest spelled) : Spelling (letter :: rest) (.character letter :: spelled)
  /-- A character by its short escape. -/
  | escape {letter character : Char} {rest : List Char} {spelled : List Spelled}
    (short : shortEscape? letter = some character) (onwards : Spelling rest spelled) :
    Spelling ('\\' :: letter :: rest) (.character character :: spelled)
  /-- A code of sixteen bits. -/
  | code {first second third fourth : Char} {unit : Nat} {rest : List Char}
    {spelled : List Spelled} (digits : hexCode? first second third fourth = some unit)
    (onwards : Spelling rest spelled) :
    Spelling ('\\' :: 'u' :: first :: second :: third :: fourth :: rest) (.code unit :: spelled)

/-- The text that spelled things stand for. Two halves of a pair stand for one character, and a half
by itself for none. -/
inductive Stands : List Spelled → List Char → Prop
  | nothing : Stands [] []
  | character {spelled : List Spelled} {text : List Char} (character : Char)
    (onwards : Stands spelled text) : Stands (.character character :: spelled) (character :: text)
  | code {unit : Nat} {spelled : List Spelled} {text : List Char}
    (notHigh : isHighHalf unit = false) (notLow : isLowHalf unit = false)
    (onwards : Stands spelled text) : Stands (.code unit :: spelled) (Char.ofNat unit :: text)
  | pair {high low : Nat} {spelled : List Spelled} {text : List Char}
    (isHigh : isHighHalf high = true) (isLow : isLowHalf low = true)
    (onwards : Stands spelled text) :
    Stands (.code high :: .code low :: spelled) (joinHalves high low :: text)

/-- What is spelled is read up to the quotation mark behind it, for one inside it is escaped. -/
theorem scanQuoted_append {inside rest : List Char} {spelled : List Spelled}
    (proper : Spelling inside spelled) :
    scanQuoted (inside ++ '"' :: rest) = some (spelled, rest) := by
  induction proper with
  | nothing => rw [List.nil_append, scanQuoted]
  | @plain letter others spelled visible notQuote notEscape onwards inductionHypothesis =>
    rw [List.cons_append, scanQuoted]
    · rw [unescaped?, if_pos visible, inductionHypothesis]
      rfl
    · exact notQuote
    · intro _ _ _ _ _ escaped _
      exact notEscape escaped
    · intro _ _ escaped _
      exact notEscape escaped
  | @escape letter character others spelled short onwards inductionHypothesis =>
    rw [List.cons_append, List.cons_append, scanQuoted]
    · rw [short, inductionHypothesis]
      rfl
    · rintro _ _ _ _ _ rfl
      cases short
  | code digits onwards inductionHypothesis =>
    simp only [List.cons_append]
    rw [scanQuoted, digits, inductionHypothesis]
    rfl

/-- Whatever is read up to a quotation mark was spelled in front of it. -/
theorem scanQuoted_sound {input rest : List Char} {spelled : List Spelled}
    (scanned : scanQuoted input = some (spelled, rest)) :
    ∃ inside, input = inside ++ '"' :: rest ∧ Spelling inside spelled := by
  fun_induction scanQuoted input generalizing spelled rest with
  | case1 => simp at scanned
  | case2 others =>
    cases scanned
    exact ⟨[], rfl, .nothing⟩
  | case3 first second third fourth others inductionHypothesis =>
    simp only [Option.bind_eq_bind, Option.bind_eq_some_iff, Prod.exists] at scanned
    obtain ⟨unit, digits, inner, left, found, equal⟩ := scanned
    cases equal
    obtain ⟨inside, rfl, onwards⟩ := inductionHypothesis found
    exact ⟨_, rfl, .code digits onwards⟩
  | case4 letter others notCode inductionHypothesis =>
    simp only [Option.bind_eq_bind, Option.bind_eq_some_iff, Prod.exists] at scanned
    obtain ⟨character, short, inner, left, found, equal⟩ := scanned
    cases equal
    obtain ⟨inside, rfl, onwards⟩ := inductionHypothesis found
    exact ⟨_, rfl, .escape short onwards⟩
  | case5 letter others notQuote notCode notEscape inductionHypothesis =>
    simp only [Option.bind_eq_bind, Option.bind_eq_some_iff, Prod.exists] at scanned
    obtain ⟨character, plain, inner, left, found, equal⟩ := scanned
    cases equal
    obtain ⟨inside, rfl, onwards⟩ := inductionHypothesis found
    unfold unescaped? at plain
    split at plain
    · next visible =>
      cases plain
      refine ⟨_, rfl, .plain visible notQuote ?_ onwards⟩
      -- A backslash would have had a character behind it, as the quotation mark was found.
      cases inside with
      | nil => exact fun escaped => notEscape _ _ escaped rfl
      | cons next inside => exact fun escaped => notEscape _ _ escaped rfl
    · cases plain

/-- A code that is no half of a pair is a character by itself, whatever follows it. -/
theorem spelledText?_code {unit : Nat} (notHigh : isHighHalf unit = false)
    (notLow : isLowHalf unit = false) (rest : List Spelled) :
    spelledText? (.code unit :: rest) = (spelledText? rest).map (Char.ofNat unit :: ·) := by
  have whole : (isHighHalf unit || isLowHalf unit) = false := by
    rw [notHigh, notLow]
    rfl
  match rest with
  | [] =>
    show (if isHighHalf unit || isLowHalf unit then _ else _) = _
    rw [whole]
    rfl
  | .character character :: others =>
    show (if isHighHalf unit || isLowHalf unit then _ else _) = _
    rw [whole]
    rfl
  | .code low :: others =>
    rw [spelledText?, notHigh, notLow]
    rfl

/-- Spelled things are read as the text that they stand for. -/
theorem spelledText?_eq_some_iff {spelled : List Spelled} {text : List Char} :
    spelledText? spelled = some text ↔ Stands spelled text := by
  constructor
  · intro read
    fun_induction spelledText? spelled generalizing text with
    | case1 =>
      cases read
      exact .nothing
    | case2 character rest inductionHypothesis =>
      obtain ⟨others, found, rfl⟩ := Option.map_eq_some_iff.mp read
      exact .character character (inductionHypothesis found)
    | case3 high low rest isHigh isLow inductionHypothesis =>
      obtain ⟨others, found, rfl⟩ := Option.map_eq_some_iff.mp read
      exact .pair isHigh isLow (inductionHypothesis found)
    | case4 => cases read
    | case5 => cases read
    | case6 high low rest notHigh notLow inductionHypothesis =>
      obtain ⟨others, found, rfl⟩ := Option.map_eq_some_iff.mp read
      exact .code (eq_false_of_ne_true notHigh) (eq_false_of_ne_true notLow)
        (inductionHypothesis found)
    | case7 => cases read
    | case8 unit rest unpaired whole inductionHypothesis =>
      obtain ⟨others, found, rfl⟩ := Option.map_eq_some_iff.mp read
      obtain ⟨notHigh, notLow⟩ := Bool.or_eq_false_iff.mp (eq_false_of_ne_true whole)
      exact .code notHigh notLow (inductionHypothesis found)
  · intro stands
    induction stands with
    | nothing => rfl
    | character character onwards inductionHypothesis =>
      rw [spelledText?, inductionHypothesis, Option.map_some]
    | code notHigh notLow onwards inductionHypothesis =>
      rw [spelledText?_code notHigh notLow, inductionHypothesis, Option.map_some]
    | pair isHigh isLow onwards inductionHypothesis =>
      rw [spelledText?, if_pos isHigh, if_pos isLow, inductionHypothesis, Option.map_some]

/-! ### Tokens -/

/-- What a token is written as, if there is one way to write it. -/
def Token.fixed? : Token → Option (List Char)
  | .openBrace => some ['{']
  | .closeBrace => some ['}']
  | .openBracket => some ['[']
  | .closeBracket => some [']']
  | .comma => some [',']
  | .colon => some [':']
  | .null => some ['n', 'u', 'l', 'l']
  | .bool true => some ['t', 'r', 'u', 'e']
  | .bool false => some ['f', 'a', 'l', 's', 'e']
  | .number | .string _ => none

/-- How tokens are written. -/
inductive Lexeme : List Char → Token → Prop
  | fixed {token : Token} {text : List Char} (spelled : token.fixed? = some text) :
    Lexeme text token
  | number {text : List Char} (proper : Numeral text) : Lexeme text .number
  | string {inside text : List Char} {spelled : List Spelled} (proper : Spelling inside spelled)
    (stands : Stands spelled text) :
    Lexeme ('"' :: (inside ++ ['"'])) (.string (some (String.ofList text)))
  /-- A string that half of a pair stands alone in. -/
  | half {inside : List Char} {spelled : List Spelled} (proper : Spelling inside spelled)
    (alone : ∀ text, ¬ Stands spelled text) : Lexeme ('"' :: (inside ++ ['"'])) (.string none)

theorem Numeral.head {text : List Char} (proper : Numeral text) :
    ∃ first rest, text = first :: rest ∧ (first = '-' ∨ first.isDigit = true) := by
  cases proper with
  | unsigned proper =>
    obtain ⟨first, rest, parts, digit⟩ := proper.head
    exact ⟨first, rest, parts, Or.inr digit⟩
  | negative proper => exact ⟨'-', _, rfl, Or.inl rfl⟩

/-- Only a number starts with a digit or a minus sign. -/
theorem scanToken_numeral {first : Char} (starts : first = '-' ∨ first.isDigit = true)
    (rest : List Char) :
    scanToken (first :: rest) =
      (skipNumber? (first :: rest)).map fun remaining => (.number, remaining) := by
  unfold scanToken
  split
  case h_11 => rfl
  -- All other tokens start with a character that is neither.
  all_goals
    next same =>
      cases same
      rcases starts with other | other <;> cases other

/-- A string without anything that has to be escaped stands for what is in it. -/
theorem Lexeme.plain {text : List Char}
    (visible : ∀ letter ∈ text, 0x20 ≤ letter.toNat ∧ letter ≠ '"' ∧ letter ≠ '\\') :
    Lexeme ('"' :: (text ++ ['"'])) (.string (some (String.ofList text))) := by
  have spelling : Spelling text (text.map .character) ∧ Stands (text.map .character) text := by
    induction text with
    | nil => exact ⟨.nothing, .nothing⟩
    | cons letter rest inductionHypothesis =>
      obtain ⟨⟨code, notQuote, notEscape⟩, others⟩ := List.forall_mem_cons.mp visible
      obtain ⟨spelling, stands⟩ := inductionHypothesis others
      exact ⟨.plain code notQuote notEscape spelling, .character letter stands⟩
  exact .string spelling.1 spelling.2

/-- What is spelled between quotation marks is a token even if it stands for no text. -/
theorem scanToken_quoted {inside : List Char} {spelled : List Spelled}
    (proper : Spelling inside spelled) (rest : List Char) :
    scanToken ('"' :: (inside ++ ['"']) ++ rest) =
      some (.string ((spelledText? spelled).map String.ofList), rest) := by
  rw [List.cons_append, List.append_assoc, List.singleton_append, scanToken,
    scanQuoted_append proper]
  rfl

/-- A token is read from where it is written, a number only if what follows does not go on with it.
-/
theorem scanToken_append {lexeme rest : List Char} {token : Token} (written : Lexeme lexeme token)
    (ends : token = .number → EndsNumber rest) :
    scanToken (lexeme ++ rest) = some (token, rest) := by
  cases written with
  | fixed spelled =>
    match token with
    | .openBrace | .closeBrace | .openBracket | .closeBracket | .comma | .colon | .null
    | .bool true | .bool false =>
      cases spelled
      rfl
    | .number | .string _ => cases spelled
  | number proper =>
    obtain ⟨first, others, rfl, starts⟩ := proper.head
    have skipped := skipNumber?_append proper (ends rfl)
    rw [List.cons_append] at skipped ⊢
    rw [scanToken_numeral starts, skipped]
    rfl
  | string proper stands =>
    rw [scanToken_quoted proper, spelledText?_eq_some_iff.mpr stands]
    rfl
  | @half inside spelled proper alone =>
    have none : spelledText? spelled = none :=
      Option.eq_none_iff_forall_ne_some.mpr fun text found =>
        alone text (spelledText?_eq_some_iff.mp found)
    rw [scanToken_quoted proper, none]
    rfl

/-- Whatever is read as a token is written as one. -/
theorem scanToken_sound {input rest : List Char} {token : Token}
    (scanned : scanToken input = some (token, rest)) :
    ∃ lexeme, input = lexeme ++ rest ∧ Lexeme lexeme token := by
  unfold scanToken at scanned
  split at scanned
  case h_10 others =>
    obtain ⟨⟨spelled, left⟩, found, equal⟩ := Option.map_eq_some_iff.mp scanned
    cases equal
    obtain ⟨inside, rfl, proper⟩ := scanQuoted_sound found
    refine ⟨'"' :: (inside ++ ['"']), ?_, ?_⟩
    · rw [List.cons_append, List.append_assoc, List.singleton_append]
    · cases stands : spelledText? spelled with
      | some text => exact .string proper (spelledText?_eq_some_iff.mp stands)
      | none =>
        refine .half proper fun text other => ?_
        rw [spelledText?_eq_some_iff.mpr other] at stands
        cases stands
  case h_11 =>
    obtain ⟨left, found, equal⟩ := Option.map_eq_some_iff.mp scanned
    cases equal
    obtain ⟨text, rfl, proper⟩ := skipNumber?_sound found
    exact ⟨text, rfl, .number proper⟩
  all_goals
    cases scanned
    exact ⟨_, rfl, .fixed rfl⟩

/-! ### Texts -/

/-- Tokens are written one after the other, with any blanks between and around them. -/
inductive Written : List Char → List Token → Prop
  | nothing : Written [] []
  | blank {character : Char} {rest : List Char} {tokens : List Token}
    (blank : isBlank character = true) (onwards : Written rest tokens) :
    Written (character :: rest) tokens
  | token {lexeme rest : List Char} {token : Token} {tokens : List Token}
    (written : Lexeme lexeme token) (onwards : Written rest tokens) :
    Written (lexeme ++ rest) (token :: tokens)

/-- A text that can be cut into tokens is written with them. -/
theorem tokens?_sound {text : List Char} {tokens : List Token}
    (cut : tokens? text = some tokens) : Written text tokens := by
  fun_induction tokens? text generalizing tokens with
  | case1 =>
    cases cut
    exact .nothing
  | case2 first rest blank inductionHypothesis => exact .blank blank (inductionHypothesis cut)
  | case3 => cases cut
  | case4 first rest visible token remaining scanned inductionHypothesis =>
    obtain ⟨others, found, rfl⟩ := Option.map_eq_some_iff.mp cut
    obtain ⟨lexeme, parts, written⟩ := scanToken_sound scanned
    rw [parts]
    exact .token written (inductionHypothesis found)

/-- The tokens that may come behind a number. -/
def Token.EndsValue (token : Token) : Prop :=
  token = .comma ∨ token = .closeBracket ∨ token = .closeBrace

/-- No number stands in front of a token other than those. -/
def NumbersEnd : List Token → Prop
  | [] => True
  | token :: rest => (token = .number → ∀ next ∈ rest.head?, next.EndsValue) ∧ NumbersEnd rest

theorem isBlank_iff {character : Char} : isBlank character = true ↔
    character = ' ' ∨ character = '\n' ∨ character = '\t' ∨ character = '\r' := by
  simp only [isBlank, Bool.or_eq_true, beq_iff_eq, or_assoc]

/-- A token is not written as nothing, and does not start with a blank. -/
theorem Lexeme.head {lexeme : List Char} {token : Token} (written : Lexeme lexeme token) :
    ∃ first rest, lexeme = first :: rest ∧ isBlank first = false := by
  cases written with
  | fixed spelled =>
    match token with
    | .openBrace | .closeBrace | .openBracket | .closeBracket | .comma | .colon | .null
    | .bool true | .bool false =>
      cases spelled
      exact ⟨_, _, rfl, rfl⟩
    | .number | .string _ => cases spelled
  | number proper =>
    obtain ⟨first, rest, rfl, starts⟩ := proper.head
    refine ⟨first, rest, rfl, eq_false_of_ne_true fun blank => ?_⟩
    rcases isBlank_iff.mp blank with rfl | rfl | rfl | rfl <;>
      rcases starts with other | other <;> cases other
  | string => exact ⟨'"', _, rfl, rfl⟩
  | half => exact ⟨'"', _, rfl, rfl⟩

/-- What may come behind a number does not go on with it. -/
theorem Written.endsNumber {text : List Char} {tokens : List Token} (written : Written text tokens)
    (ends : ∀ next ∈ tokens.head?, next.EndsValue) : EndsNumber text := by
  cases written with
  | nothing => exact ⟨nofun, nofun⟩
  | blank blank onwards =>
    rcases isBlank_iff.mp blank with rfl | rfl | rfl | rfl <;> constructor <;> rintro next ⟨⟩ <;>
      decide
  | token written onwards =>
    rcases ends _ rfl with rfl | rfl | rfl <;> cases written with
    | fixed spelled => cases spelled; constructor <;> rintro next ⟨⟩ <;> decide

/-- A text is cut into the tokens that it is written with if its numbers end. -/
theorem tokens?_of_written {text : List Char} {tokens : List Token} (written : Written text tokens)
    (ends : NumbersEnd tokens) : tokens? text = some tokens := by
  induction written with
  | nothing => rw [tokens?]
  | blank blank onwards inductionHypothesis =>
    rw [tokens?_blank blank]
    exact inductionHypothesis ends
  | token written onwards inductionHypothesis =>
    have scanned := scanToken_append written fun number => onwards.endsNumber (ends.1 number)
    obtain ⟨first, others, rfl, visible⟩ := written.head
    rw [List.cons_append] at scanned ⊢
    rw [tokens?_token visible scanned, inductionHypothesis ends.2]
    rfl

end Erasure.Json
