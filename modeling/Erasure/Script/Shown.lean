/-
This file defines how values are shown in the answers of a script. An object is shown
with a number, which it is given when it is first shown; the same object has the same
number ever after. Behind a reference what it refers to is shown as well. A reference
refers to nothing newer than itself, so that showing comes to an end.
-/

import Erasure.World

namespace Erasure

mutual

/-- A value as it is shown in an answer. -/
inductive Shown
  | i32 (number : Int32)
  | i64 (number : Int64)
  | f32 (bits : UInt32)
  | f64 (bits : UInt64)
  | bool (truth : Bool)
  | unit
  /-- A reference with its number and what it refers to. -/
  | ref (number : Nat) (payload : ShownPayload)
  /-- A function with its number and its signature. -/
  | func (number : Nat) (signature : Signature)
  | tuple (items : List Shown)

/-- What a reference refers to, as it is shown in an answer. -/
inductive ShownPayload
  | text (text : String)
  | i32 (number : Int32)
  | unit
  | value (value : Shown)
  /-- A payload that cannot be shown, as it is missing or newer than its reference. -/
  | missing

end

/-- The objects that have been shown, in the order of their numbers. -/
abbrev Numbering := Array Value

/-- The number of an object, which is given one if it has none. -/
def numberOf (object : Value) : StateM Numbering Nat := do
  let numbering ← get
  match numbering.findIdx? fun other => other.same object with
  | some number => return number
  | none =>
    set (numbering.push object)
    return numbering.size

namespace World

mutual

/-- A value as it is shown. Only references below the given address are followed. -/
def shown (world : World) (limit : Address) (value : Value) : StateM Numbering Shown :=
  match value with
  | .i32 number => return .i32 number
  | .i64 number => return .i64 number
  | .f32 bits => return .f32 bits
  | .f64 bits => return .f64 bits
  | .bool truth => return .bool truth
  | .unit => return .unit
  | .ref address => do
    let number ← numberOf (.ref address)
    if _older : address < limit then
      match world.references[address]? with
      | some (.text text) => return .ref number (.text text)
      | some (.i32 content) => return .ref number (.i32 content)
      | some .unit => return .ref number .unit
      | some (.value content) =>
        let shown ← world.shown address content
        return .ref number (.value shown)
      | none => return .ref number .missing
    else
      return .ref number .missing
  | .func address => do
    let number ← numberOf (.func address)
    return .func number (world.signatureAt address)
  | .tuple items => do
    let shown ← world.shownItems limit items
    return .tuple shown
termination_by (limit, sizeOf value)

/-- Several values as they are shown, from left to right. -/
def shownItems (world : World) (limit : Address) (items : List Value) :
    StateM Numbering (List Shown) :=
  match items with
  | [] => return []
  | item :: rest => do
    let first ← world.shown limit item
    let others ← world.shownItems limit rest
    return first :: others
termination_by (limit, sizeOf items)

end

end World

end Erasure
