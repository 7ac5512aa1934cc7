/-
This file exchanges kinds and signatures as JSON. They are written in one way, without
blanks. They are read from several: a kind is its name, or an object whose only member
has that name for a key and nothing for a value; a signature is an object with parameters
and a result among members of any other names, or an array of these two. A signature that
is read need not be valid.

The program derives both directions with a library from the declarations of kinds and
signatures. What is defined here is what that library documents for such declarations, down
to the order of the members that are written and the refusal of a member that is given
twice.
-/

import Erasure.Json.Document
import Erasure.Signature

namespace Erasure

namespace Kind

/-- The JSON text of a kind. -/
def jsonText (kind : Kind) : String :=
  "\"" ++ kind.name ++ "\""

/-- The kind that a document stands for. -/
def ofJson? : Json → Option Kind
  | .string (some text) => ofName? text
  | .object [(some key, .null)] => ofName? key
  | _ => none

/-- The kind that a text stands for. -/
def ofJsonText? (text : String) : Option Kind :=
  (Json.ofText? text).bind ofJson?

end Kind

namespace Signature

/-- The key of the parameters. -/
def paramsKey : String := "params"

/-- The key of the result. -/
def resultKey : String := "result"

/-- The JSON text of a signature. -/
def jsonText (signature : Signature) : String :=
  String.singleton '{' ++ "\"" ++ paramsKey ++ "\":[" ++
    ",".intercalate (signature.params.map Kind.jsonText) ++ "],\"" ++ resultKey ++ "\":" ++
    signature.result.jsonText ++ String.singleton '}'

/-- The kinds that an array stands for. -/
def paramsOfJson? : Json → Option (List Kind)
  | .array items => items.mapM Kind.ofJson?
  | _ => none

/-- The values of the members with the given key, in order. -/
def membersOf (key : String) (members : List (Option String × Json)) : List Json :=
  members.filterMap fun member => if member.1 = some key then some member.2 else none

/-- The signature with these parts. -/
def ofParts? (params result : Json) : Option Signature := do
  return ⟨← paramsOfJson? params, ← Kind.ofJson? result⟩

/-- The signature that a document stands for. Every key of the object must stand for a text, and
one member each must hold the parameters and the result. -/
def ofJson? : Json → Option Signature
  | .array [params, result] => ofParts? params result
  | .object members =>
    if members.all fun member => member.1.isSome then
      match membersOf paramsKey members, membersOf resultKey members with
      | [params], [result] => ofParts? params result
      | _, _ => none
    else
      none
  | _ => none

/-- The signature that a text stands for. -/
def ofJsonText? (text : String) : Option Signature :=
  (Json.ofText? text).bind ofJson?

end Signature

end Erasure
