/-
This file proves that signatures and kinds are read back from the JSON text that is written
for them. There are many texts that a signature can be read from, but writing it again
always gives the one that is written for it. This text is therefore settled: it is what
remains of any text that is read and written again, any number of times, and two texts
come to the same one exactly if the same signature is read from both.
-/

import Erasure.Proofs.Reading

namespace Erasure

/-! ### Texts that are written one after the other -/

namespace Json

/-- Texts that are written with tokens are written with all of them when one follows the other. -/
theorem Written.append {first second : List Char} {firstTokens secondTokens : List Token}
    (written : Written first firstTokens) (onwards : Written second secondTokens) :
    Written (first ++ second) (firstTokens ++ secondTokens) := by
  induction written with
  | nothing => exact onwards
  | blank blank _ inductionHypothesis => exact .blank blank inductionHypothesis
  | token written _ inductionHypothesis =>
    rw [List.append_assoc]
    exact .token written inductionHypothesis

theorem Written.single {text : List Char} {token : Token} (written : Lexeme text token) :
    Written text [token] := by
  have whole := Written.token written .nothing
  rw [List.append_nil] at whole
  exact whole

theorem Written.fixed {text : List Char} {token : Token} (spelled : token.fixed? = some text) :
    Written text [token] :=
  .single (.fixed spelled)

/-- A text can be put between quotation marks as it is if nothing in it has to be escaped. -/
def Quotable (text : String) : Prop :=
  ∀ letter ∈ text.toList, 0x20 ≤ letter.toNat ∧ letter ≠ '"' ∧ letter ≠ '\\'

instance (text : String) : Decidable (Quotable text) :=
  List.decidableBAll _ text.toList

/-- A text that can be quoted is written as a string by marks around it. -/
theorem Written.quoted {text : String} (quotable : Quotable text) :
    Written ("\"" ++ text ++ "\"").toList [.string (some text)] := by
  have lexeme := Lexeme.plain quotable
  rw [String.ofList_toList] at lexeme
  rw [String.toList_append, String.toList_append]
  exact .single lexeme

/-- A member is written as its key, a colon and its value. -/
theorem Written.member {key value : String} {tokens : List Token} (quotable : Quotable key)
    (written : Written value.toList tokens) :
    Written ("\"" ++ key ++ "\"" ++ ":" ++ value).toList
      (.string (some key) :: .colon :: tokens) := by
  rw [String.toList_append, String.toList_append]
  exact ((quoted quotable).append (.fixed rfl)).append written

end Json

/-! ### The documents that are written -/

namespace Kind

/-- The document that is written for a kind. -/
def json (kind : Kind) : Json :=
  .string (some kind.name)

/-- No name of a kind has to be escaped. -/
theorem quotable_name (kind : Kind) : Json.Quotable kind.name := by
  cases kind <;> decide

theorem written_jsonText (kind : Kind) : Json.Written kind.jsonText.toList kind.json.tokens :=
  .quoted kind.quotable_name

/-- The kinds of an array are written with a comma in front of each but the first. -/
theorem written_jsonTexts : ∀ kinds : List Kind,
    Json.Written (",".intercalate (kinds.map jsonText)).toList
      (Json.ledItems (kinds.map json)).tail
  | [] => .nothing
  | [kind] => kind.written_jsonText
  | kind :: next :: rest => by
    have comma : Json.Written [','] [.comma] := .fixed rfl
    have whole := kind.written_jsonText.append (comma.append (written_jsonTexts (next :: rest)))
    rw [List.map_cons, List.map_cons, String.intercalate_cons_cons, String.toList_append,
      String.toList_append, List.append_assoc]
    exact whole

theorem spelled_json (kind : Kind) : kind.Spelled kind.json := .name

theorem ofJsonText?_jsonText (kind : Kind) : ofJsonText? kind.jsonText = some kind := by
  rw [ofJsonText?, Json.ofText?_eq_some_iff.mpr kind.written_jsonText, Option.bind_some]
  exact ofJson?_eq_some_iff.mpr kind.spelled_json

end Kind

namespace Signature

/-- The document that is written for a signature. -/
def json (signature : Signature) : Json :=
  .object [(some paramsKey, .array (signature.params.map Kind.json)),
    (some resultKey, signature.result.json)]

theorem written_params (kinds : List Kind) :
    Json.Written ("[" ++ ",".intercalate (kinds.map Kind.jsonText) ++ "]").toList
      (Json.array (kinds.map Kind.json)).tokens := by
  have opened : Json.Written ['['] [.openBracket] := .fixed rfl
  have closed : Json.Written [']'] [.closeBracket] := .fixed rfl
  rw [String.toList_append, String.toList_append]
  exact opened.append ((Kind.written_jsonTexts kinds).append closed)

/-- The text that is written for a signature is one that its document is written as. -/
theorem written_jsonText (signature : Signature) :
    Json.Written signature.jsonText.toList signature.json.tokens := by
  have params : Json.Written _ (.string (some paramsKey) :: .colon :: _) :=
    .member (by decide) (written_params signature.params)
  have result : Json.Written _ (.string (some resultKey) :: .colon :: _) :=
    .member (by decide) signature.result.written_jsonText
  have opened : Json.Written ['{'] [.openBrace] := .fixed rfl
  have comma : Json.Written [','] [.comma] := .fixed rfl
  have closed : Json.Written ['}'] [.closeBrace] := .fixed rfl
  have whole := opened.append (params.append (comma.append (result.append closed)))
  have sameTokens : signature.json.tokens = [.openBrace] ++
      (.string (some paramsKey) :: .colon :: (Json.array (signature.params.map Kind.json)).tokens ++
        ([.comma] ++ (.string (some resultKey) :: .colon :: signature.result.json.tokens ++
          [.closeBrace]))) := by
    simp only [json, Json.tokens, Json.ledMembers, List.tail_cons, List.append_nil,
      List.cons_append, List.nil_append, List.append_assoc]
  rw [sameTokens]
  simpa [jsonText] using whole

/-- The document that is written for a signature spells it as an object, without other members. -/
theorem spelled_json (signature : Signature) : signature.Spelled signature.json := by
  refine .object ?_ signature.result.spelled_json (List.forall_mem_nil _) (.refl _)
  rw [List.forall₂_map_right_iff, List.forall₂_same]
  exact fun kind _ => kind.spelled_json

/-- A signature is read back from what is written for it. -/
theorem ofJsonText?_jsonText (signature : Signature) :
    ofJsonText? signature.jsonText = some signature := by
  rw [ofJsonText?_of_written signature.written_jsonText]
  exact ofJson?_eq_some_iff.mpr signature.spelled_json

end Signature

/-! ### Reading and writing again -/

/-- Things of a type are written as text and read from text, and neither loses anything that the
other one cares about. -/
structure RoundTrips {α : Type} (write : α → String) (read : String → Option α) : Prop where
  /-- What is written is read back. -/
  readsBack : ∀ thing, read (write thing) = some thing
  /-- No two things are written alike. -/
  tellsApart : ∀ first second, write first = write second → first = second
  /-- The text that a text comes to when it is read and written again comes to itself. -/
  settles : ∀ text settled, (read text).map write = some settled →
    (read settled).map write = some settled
  /-- Two texts that are read come to the same text exactly if the same thing is read from them. -/
  same_iff : ∀ first second firstThing secondThing, read first = some firstThing →
    read second = some secondThing →
    ((read first).map write = (read second).map write ↔ firstThing = secondThing)

/-- It is enough that what is written is read back. -/
theorem RoundTrips.of_readsBack {α : Type} {write : α → String} {read : String → Option α}
    (readsBack : ∀ thing, read (write thing) = some thing) : RoundTrips write read := by
  have tellsApart (first second : α) (same : write first = write second) : first = second := by
    have found := readsBack first
    rw [same, readsBack second] at found
    exact (Option.some.inj found).symm
  refine ⟨readsBack, tellsApart, ?_, ?_⟩
  · intro text settled rewritten
    obtain ⟨thing, _, rfl⟩ := Option.map_eq_some_iff.mp rewritten
    rw [readsBack, Option.map_some]
  · intro first second firstThing secondThing readFirst readSecond
    rw [readFirst, readSecond, Option.map_some, Option.map_some, Option.some_inj]
    exact ⟨tellsApart firstThing secondThing, congrArg write⟩

/-- Signatures and kinds survive being written as JSON, whatever they are: with any number of
parameters and with any of them void. -/
theorem Signature.round_trips :
    RoundTrips Signature.jsonText Signature.ofJsonText? ∧
      RoundTrips Kind.jsonText Kind.ofJsonText? :=
  ⟨.of_readsBack ofJsonText?_jsonText, .of_readsBack Kind.ofJsonText?_jsonText⟩

/-- Blanks, an array in the place of an object and a kind that is spelled as an object are gone from
what is written again. -/
example : (Signature.ofJsonText? " [[\x7b\"I32\":null\x7d],\"Bool\"]").map Signature.jsonText =
    some "\x7b\"params\":[\"I32\"],\"result\":\"Bool\"\x7d" := by
  decide +kernel

end Erasure
