/-
This file defines JSON documents and reads them from text. Members of an object are kept
in order, repeated ones included. Reading puts the tokens one after the other onto the
containers that stand open; a text is a document if its last token, and none before it,
completes one.

The program leaves JSON to a library. What is defined here and in the files on tokens and
strings is the documented behaviour of that library, which accepts the JSON of the standard
and nothing else, and skips what it is not asked for without looking into it: a number of
any size is well formed there, and so is a string that spells half of a pair of codes.
-/

import Erasure.Json.Token

namespace Erasure

/-- A JSON document. A string without a text is one that stands for none, as it holds half of a
pair of codes. -/
inductive Json
  | null
  | bool (truth : Bool)
  | number
  | string (text : Option String)
  | array (items : List Json)
  | object (members : List (Option String × Json))
  deriving Inhabited

namespace Json

/-- A container that stands open, with what it holds so far, the latest first, and with what may
come next. -/
inductive Frame
  /-- An array that has just been opened: an item or the end. -/
  | arrayStart
  /-- An array behind a comma: an item. -/
  | arrayItem (before : List Json)
  /-- An array behind an item: a comma or the end. -/
  | arrayNext (before : List Json)
  /-- An object that has just been opened: a key or the end. -/
  | objectStart
  /-- An object behind a comma: a key. -/
  | objectKey (before : List (Option String × Json))
  /-- An object behind a key: a colon. -/
  | objectColon (before : List (Option String × Json)) (key : Option String)
  /-- An object behind a colon: a value. -/
  | objectValue (before : List (Option String × Json)) (key : Option String)
  /-- An object behind a member: a comma or the end. -/
  | objectNext (before : List (Option String × Json))

/-- How far a reader has come. -/
inductive Reader
  /-- Containers stand open, the innermost first; without any, nothing has been read. -/
  | reading (frames : List Frame)
  /-- A document is complete. -/
  | complete (document : Json)

/-- Whether a value may come next. -/
def awaitsValue : List Frame → Bool
  | [] | .arrayStart :: _ | .arrayItem _ :: _ | .objectValue _ _ :: _ => true
  | _ => false

/-- Hands a complete value to the innermost open container. -/
def deliver (value : Json) : List Frame → Option Reader
  | [] => some (.complete value)
  | .arrayStart :: outer => some (.reading (.arrayNext [value] :: outer))
  | .arrayItem before :: outer => some (.reading (.arrayNext (value :: before) :: outer))
  | .objectValue before key :: outer =>
    some (.reading (.objectNext ((key, value) :: before) :: outer))
  | _ => none

/-- Reads one token while containers stand open. -/
def advance : Token → List Frame → Option Reader
  | .comma, .arrayNext before :: outer => some (.reading (.arrayItem before :: outer))
  | .comma, .objectNext before :: outer => some (.reading (.objectKey before :: outer))
  | .colon, .objectColon before key :: outer =>
    some (.reading (.objectValue before key :: outer))
  | .closeBracket, .arrayStart :: outer => deliver (.array []) outer
  | .closeBracket, .arrayNext before :: outer => deliver (.array before.reverse) outer
  | .closeBrace, .objectStart :: outer => deliver (.object []) outer
  | .closeBrace, .objectNext before :: outer => deliver (.object before.reverse) outer
  | .string key, .objectStart :: outer => some (.reading (.objectColon [] key :: outer))
  | .string key, .objectKey before :: outer => some (.reading (.objectColon before key :: outer))
  | .openBracket, frames =>
    if awaitsValue frames then some (.reading (.arrayStart :: frames)) else none
  | .openBrace, frames =>
    if awaitsValue frames then some (.reading (.objectStart :: frames)) else none
  | .null, frames => deliver .null frames
  | .bool truth, frames => deliver (.bool truth) frames
  | .number, frames => deliver .number frames
  | .string text, frames => deliver (.string text) frames
  | _, _ => none

/-- Reads one token. Behind a complete document there is no more to read. -/
def Reader.step : Reader → Token → Option Reader
  | .reading frames, token => advance token frames
  | .complete _, _ => none

/-- The document that the tokens make up. -/
def ofTokens? (tokens : List Token) : Option Json :=
  match tokens.foldlM Reader.step (.reading []) with
  | some (.complete document) => some document
  | _ => none

/-- The document that a text is, if it is one. -/
def ofText? (text : String) : Option Json :=
  (tokens? text.toList).bind ofTokens?

end Json

end Erasure
