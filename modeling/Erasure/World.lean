/-
This file defines the world that calls take place in. It holds the objects that values
refer to, the memory of bodies, and a trace of what happened. Objects are only ever
added, so that an address stays good and two objects never share one. Which bodies ran,
which events were logged and how many conversions were made is read off the trace.
-/

import Erasure.Contract.Basic
import Erasure.Event
import Erasure.Value.Text

namespace Erasure

/-- What a reference refers to. -/
inductive Payload
  | text (text : String)
  | i32 (number : Int32)
  | unit
  | value (value : Value)

/-- The state that calls take place in. -/
structure World where
  /-- The functions of one parameter that are held as objects. -/
  functions : Array (Contract 1) := #[]
  /-- What the references refer to. -/
  references : Array Payload := #[]
  /-- The memory cells of bodies. -/
  cells : Array Value := #[]
  /-- What happened, in order. -/
  trace : Array Event := #[]

namespace World

/-- The signature of the function at an address. -/
def signatureAt (world : World) (address : Address) : Signature :=
  match world.functions[address]? with
  | some contract => contract.signature
  | none => .erased 1

/-- The plain text of a value. -/
def text (world : World) (value : Value) : String :=
  value.text world.signatureAt

/-- A value as a layout. -/
def layout (world : World) (value : Value) : Layout :=
  value.layout world.signatureAt

/-- What a memory cell holds. -/
def readCell (world : World) (cell : Address) : Value :=
  world.cells.getD cell .unit

/-- Puts a value into a memory cell. -/
def writeCell (world : World) (cell : Address) (value : Value) : World :=
  { world with cells := world.cells.setIfInBounds cell value }

/-- Notes what happened. -/
def record (world : World) (event : Event) : World :=
  { world with trace := world.trace.push event }

/-- The labels of the bodies that began to run, in order. -/
def ran (world : World) : List String :=
  world.trace.toList.filterMap Event.label?

/-- The log, in order. -/
def log (world : World) : List LogRecord :=
  world.trace.toList.filterMap Event.logRecord?

/-- The number of unboxings that were made or tried. -/
def unboxings (world : World) : Nat :=
  world.trace.countP Event.isUnboxing

/-- The number of boxings that were made. -/
def boxings (world : World) : Nat :=
  world.trace.countP Event.isBoxing

/-! ### What noting an event changes -/

/-- The label of a body that begins to run comes after the others. -/
@[simp]
theorem ran_record (world : World) (event : Event) :
    (world.record event).ran = world.ran ++ event.label?.toList := by
  cases found : event.label? <;> simp [ran, record, found]

/-- A logged event comes after the others. -/
@[simp]
theorem log_record (world : World) (event : Event) :
    (world.record event).log = world.log ++ event.logRecord?.toList := by
  cases found : event.logRecord? <;> simp [log, record, found]

/-- An unboxing counts for one. -/
@[simp]
theorem unboxings_record (world : World) (event : Event) :
    (world.record event).unboxings = world.unboxings + event.isUnboxing.toNat := by
  cases found : event.isUnboxing <;> simp [unboxings, record, found]

/-- A boxing counts for one. -/
@[simp]
theorem boxings_record (world : World) (event : Event) :
    (world.record event).boxings = world.boxings + event.isBoxing.toNat := by
  cases found : event.isBoxing <;> simp [boxings, record, found]

end World

end Erasure
