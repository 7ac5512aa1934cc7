/-
This file says which tokens a document is written with and proves that reading finds the
document of these tokens, and none in any others. While containers stand open, what has
been read is known from what they hold. A container can be told from outside by its items
or members with a comma in front of each, the first of which is left out.
-/

import Erasure.Json.Document

namespace Erasure.Json

/-! ### The tokens of a document -/

mutual

/-- The tokens that a document is written with. -/
def tokens : Json → List Token
  | .null => [.null]
  | .bool truth => [.bool truth]
  | .number => [.number]
  | .string text => [.string text]
  | .array items => .openBracket :: ((ledItems items).tail ++ [.closeBracket])
  | .object members => .openBrace :: ((ledMembers members).tail ++ [.closeBrace])

/-- The tokens of items, with a comma in front of each. -/
def ledItems : List Json → List Token
  | [] => []
  | item :: rest => .comma :: (item.tokens ++ ledItems rest)

/-- The tokens of members, with a comma in front of each. -/
def ledMembers : List (Option String × Json) → List Token
  | [] => []
  | (key, value) :: rest =>
    .comma :: .string key :: .colon :: (value.tokens ++ ledMembers rest)

end

/-- With a comma in front of every item, the items of an array can be cut anywhere. -/
theorem ledItems_append (first second : List Json) :
    ledItems (first ++ second) = ledItems first ++ ledItems second := by
  induction first with
  | nil => rfl
  | cons item rest inductionHypothesis => simp [ledItems, inductionHypothesis]

theorem ledMembers_append (first second : List (Option String × Json)) :
    ledMembers (first ++ second) = ledMembers first ++ ledMembers second := by
  induction first with
  | nil => rfl
  | cons member rest inductionHypothesis =>
    obtain ⟨key, value⟩ := member
    simp [ledMembers, inductionHypothesis]

/-! ### Reading the tokens of a document -/

/-- Reads tokens one after the other. -/
def Reader.readAll (reader : Reader) (tokens : List Token) : Option Reader :=
  tokens.foldlM Reader.step reader

theorem Reader.readAll_cons (reader : Reader) (token : Token) (rest : List Token) :
    reader.readAll (token :: rest) = (reader.step token).bind fun next => next.readAll rest := rfl

theorem Reader.readAll_single (reader : Reader) (token : Token) :
    reader.readAll [token] = reader.step token :=
  Option.bind_fun_some _

/-- Tokens are read on from where the ones in front of them have led. -/
theorem Reader.readAll_append (reader : Reader) (first second : List Token) :
    reader.readAll (first ++ second) =
      (reader.readAll first).bind fun next => next.readAll second :=
  List.foldlM_append

/-- A string is taken for a value, and not for a key, where a value may come next. -/
theorem advance_string {frames : List Frame} (awaits : awaitsValue frames = true)
    (text : Option String) : advance (.string text) frames = deliver (.string text) frames := by
  obtain _ | ⟨frame, outer⟩ := frames
  · rfl
  · cases frame <;> first | rfl | cases awaits

theorem readAll_openBracket {frames : List Frame} (awaits : awaitsValue frames = true)
    (rest : List Token) : (Reader.reading frames).readAll (.openBracket :: rest) =
      (Reader.reading (.arrayStart :: frames)).readAll rest := by
  rw [Reader.readAll_cons, Reader.step, advance, if_pos awaits, Option.bind_some]

theorem readAll_openBrace {frames : List Frame} (awaits : awaitsValue frames = true)
    (rest : List Token) : (Reader.reading frames).readAll (.openBrace :: rest) =
      (Reader.reading (.objectStart :: frames)).readAll rest := by
  rw [Reader.readAll_cons, Reader.step, advance, if_pos awaits, Option.bind_some]

mutual

/-- Where a value may come next, the tokens of a document are read as that value. -/
theorem readAll_tokens (document : Json) {frames : List Frame}
    (awaits : awaitsValue frames = true) :
    (Reader.reading frames).readAll document.tokens = deliver document frames := by
  match document with
  | .null => exact Reader.readAll_single _ _
  | .bool truth => exact Reader.readAll_single _ _
  | .number => exact Reader.readAll_single _ _
  | .string text => exact (Reader.readAll_single _ _).trans (advance_string awaits text)
  | .array [] =>
    rw [tokens, readAll_openBracket awaits]
    exact Reader.readAll_single _ _
  | .array (item :: rest) =>
    -- The first item is read where an array was opened, and the others behind a comma each.
    rw [tokens, readAll_openBracket awaits]
    show (Reader.reading (.arrayStart :: frames)).readAll
      ((item.tokens ++ ledItems rest) ++ [.closeBracket]) = _
    rw [Reader.readAll_append, Reader.readAll_append, readAll_tokens item rfl]
    show ((Reader.reading (.arrayNext [item] :: frames)).readAll (ledItems rest)).bind _ = _
    rw [readAll_ledItems rest]
    show Option.bind (deliver (.array (rest.reverse ++ [item]).reverse) frames) some = _
    simp
  | .object [] =>
    rw [tokens, readAll_openBrace awaits]
    exact Reader.readAll_single _ _
  | .object ((key, value) :: rest) =>
    rw [tokens, readAll_openBrace awaits]
    show (Reader.reading (.objectValue [] key :: frames)).readAll
      ((value.tokens ++ ledMembers rest) ++ [.closeBrace]) = _
    rw [Reader.readAll_append, Reader.readAll_append, readAll_tokens value rfl]
    show ((Reader.reading (.objectNext [(key, value)] :: frames)).readAll
      (ledMembers rest)).bind _ = _
    rw [readAll_ledMembers rest]
    show Option.bind (deliver (.object (rest.reverse ++ [(key, value)]).reverse) frames) some = _
    simp

/-- Items behind a comma each are added to those of the open array. -/
theorem readAll_ledItems (items before : List Json) (outer : List Frame) :
    (Reader.reading (.arrayNext before :: outer)).readAll (ledItems items) =
      some (.reading (.arrayNext (items.reverse ++ before) :: outer)) := by
  match items with
  | [] => rfl
  | item :: rest =>
    show (Reader.reading (.arrayItem before :: outer)).readAll (item.tokens ++ ledItems rest) = _
    rw [Reader.readAll_append, readAll_tokens item rfl]
    show (Reader.reading (.arrayNext (item :: before) :: outer)).readAll (ledItems rest) = _
    rw [readAll_ledItems rest, List.reverse_cons, List.append_assoc, List.singleton_append]

/-- Members behind a comma each are added to those of the open object. -/
theorem readAll_ledMembers (members before : List (Option String × Json)) (outer : List Frame) :
    (Reader.reading (.objectNext before :: outer)).readAll (ledMembers members) =
      some (.reading (.objectNext (members.reverse ++ before) :: outer)) := by
  match members with
  | [] => rfl
  | (key, value) :: rest =>
    show (Reader.reading (.objectValue before key :: outer)).readAll
      (value.tokens ++ ledMembers rest) = _
    rw [Reader.readAll_append, readAll_tokens value rfl]
    show (Reader.reading (.objectNext ((key, value) :: before) :: outer)).readAll
      (ledMembers rest) = _
    rw [readAll_ledMembers rest, List.reverse_cons, List.append_assoc, List.singleton_append]

end

/-! ### What has been read -/

/-- The token that opens a container. -/
def Frame.opening : Frame → Token
  | .arrayStart | .arrayItem _ | .arrayNext _ => .openBracket
  | _ => .openBrace

/-- The tokens of a container that have been read behind its opening, with a comma in front. -/
def Frame.led : Frame → List Token
  | .arrayStart | .objectStart => [.comma]
  | .arrayItem before => ledItems before.reverse ++ [.comma]
  | .arrayNext before => ledItems before.reverse
  | .objectKey before => ledMembers before.reverse ++ [.comma]
  | .objectColon before key => ledMembers before.reverse ++ [.comma, .string key]
  | .objectValue before key => ledMembers before.reverse ++ [.comma, .string key, .colon]
  | .objectNext before => ledMembers before.reverse

/-- The tokens that have been read while containers stand open. -/
def readTokens : List Frame → List Token
  | [] => []
  | frame :: outer => readTokens outer ++ frame.opening :: frame.led.tail

/-- What a reader has read. A comma or an end can only be awaited behind an item or a member, so
that what an open container holds is never nothing with the comma in front. -/
inductive Reader.HasRead : Reader → List Token → Prop
  | reading {frames : List Frame} (proper : ∀ container ∈ frames, container.led ≠ []) :
    HasRead (.reading frames) (readTokens frames)
  | complete (document : Json) : HasRead (.complete document) document.tokens

/-- More is read of the innermost container. -/
theorem readTokens_extend {frame next : Frame} {outer : List Frame} {more : List Token}
    (proper : ∀ container ∈ frame :: outer, container.led ≠ [])
    (opening : next.opening = frame.opening) (led : next.led = frame.led ++ more) :
    (Reader.reading (next :: outer)).HasRead (readTokens (frame :: outer) ++ more) := by
  obtain ⟨here, others⟩ := List.forall_mem_cons.mp proper
  have same : readTokens (next :: outer) = readTokens (frame :: outer) ++ more := by
    rw [readTokens, readTokens, opening, led, List.tail_append_of_ne_nil here, List.append_assoc,
      List.cons_append]
  rw [← same]
  refine .reading (List.forall_mem_cons.mpr ⟨?_, others⟩)
  rw [led]
  exact List.append_ne_nil_of_left_ne_nil here more

/-- Of a value that is handed over all tokens have been read. -/
theorem deliver_hasRead {value : Json} {frames : List Frame} {next : Reader}
    (proper : ∀ container ∈ frames, container.led ≠ [])
    (delivered : deliver value frames = some next) :
    next.HasRead (readTokens frames ++ value.tokens) := by
  unfold deliver at delivered
  split at delivered
  · cases delivered
    exact .complete value
  · cases delivered
    exact readTokens_extend proper rfl (by simp [Frame.led, ledItems])
  · cases delivered
    exact readTokens_extend proper rfl (by simp [Frame.led, ledItems, ledItems_append])
  · cases delivered
    exact readTokens_extend proper rfl (by simp [Frame.led, ledMembers, ledMembers_append])
  · cases delivered

/-- Of a container that was just opened its opening has been read. -/
theorem opened_hasRead {frames : List Frame} (proper : ∀ container ∈ frames, container.led ≠ [])
    {start : Frame} (empty : start.led = [.comma]) :
    (Reader.reading (start :: frames)).HasRead (readTokens frames ++ [start.opening]) := by
  have same : readTokens (start :: frames) = readTokens frames ++ [start.opening] := by
    rw [readTokens, empty, List.tail_cons]
  rw [← same]
  exact .reading (List.forall_mem_cons.mpr ⟨empty ▸ List.cons_ne_nil _ _, proper⟩)

/-- When a container is closed, its opening, what it holds and its end make up the tokens of a
value. -/
theorem closed_hasRead {frame : Frame} {outer : List Frame} {token : Token} {next : Reader}
    {value : Json} (proper : ∀ container ∈ frame :: outer, container.led ≠ [])
    (delivered : deliver value outer = some next)
    (closed : frame.opening :: (frame.led.tail ++ [token]) = value.tokens) :
    next.HasRead (readTokens (frame :: outer) ++ [token]) := by
  have read := deliver_hasRead (List.forall_mem_cons.mp proper).2 delivered
  rw [← closed] at read
  rw [readTokens, List.append_assoc, List.cons_append]
  exact read

/-- A token that is accepted has been read. -/
theorem advance_hasRead {token : Token} {frames : List Frame} {next : Reader}
    (proper : ∀ container ∈ frames, container.led ≠ [])
    (advanced : advance token frames = some next) :
    next.HasRead (readTokens frames ++ [token]) := by
  unfold advance at advanced
  split at advanced
  · cases advanced
    exact readTokens_extend proper rfl rfl
  · cases advanced
    exact readTokens_extend proper rfl rfl
  · cases advanced
    exact readTokens_extend proper rfl (by simp [Frame.led])
  · exact closed_hasRead proper advanced rfl
  · exact closed_hasRead proper advanced rfl
  · exact closed_hasRead proper advanced rfl
  · exact closed_hasRead proper advanced rfl
  · cases advanced
    exact readTokens_extend proper rfl (by simp [Frame.led, ledMembers])
  · cases advanced
    exact readTokens_extend proper rfl (by simp [Frame.led])
  · split at advanced
    · cases advanced
      exact opened_hasRead proper rfl
    · cases advanced
  · split at advanced
    · cases advanced
      exact opened_hasRead proper rfl
    · cases advanced
  · exact deliver_hasRead proper advanced
  · exact deliver_hasRead proper advanced
  · exact deliver_hasRead proper advanced
  · exact deliver_hasRead proper advanced
  · cases advanced

/-- What has been read is what was read before and the tokens since. -/
theorem readAll_hasRead {reader next : Reader} {read tokens : List Token}
    (has : reader.HasRead read) (ended : reader.readAll tokens = some next) :
    next.HasRead (read ++ tokens) := by
  induction tokens generalizing reader read with
  | nil =>
    cases ended
    rw [List.append_nil]
    exact has
  | cons token rest inductionHypothesis =>
    rw [Reader.readAll_cons, Option.bind_eq_some_iff] at ended
    obtain ⟨between, stepped, onwards⟩ := ended
    have hasNext : between.HasRead (read ++ [token]) := by
      cases has with
      | reading proper => exact advance_hasRead proper stepped
      | complete document => cases stepped
    rw [List.append_cons]
    exact inductionHypothesis hasNext onwards

/-- Tokens make up a document if they are those of the document. -/
theorem ofTokens?_eq_some_iff {tokens : List Token} {document : Json} :
    ofTokens? tokens = some document ↔ tokens = document.tokens := by
  constructor
  · intro made
    have atFirst : (Reader.reading []).HasRead [] := .reading (List.forall_mem_nil _)
    unfold ofTokens? at made
    split at made
    · next ended =>
      cases made
      have has := readAll_hasRead atFirst ended
      cases has with
      | complete => rfl
    · cases made
  · rintro rfl
    have ended : document.tokens.foldlM Reader.step (.reading []) = some (.complete document) :=
      readAll_tokens document rfl
    rw [ofTokens?, ended]

end Erasure.Json
