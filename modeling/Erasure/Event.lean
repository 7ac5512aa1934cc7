/-
This file defines the events of a call: bodies that begin to run, conversions between
values and native things, and refused transforms. Which events are logged, and how, is
said here too.
-/

import Erasure.Fault
import Erasure.Log

namespace Erasure

/-- Something that happened during a call. -/
inductive Event
  /-- The body with this label began to run. -/
  | began (label : String)
  /-- A value was unboxed to a primitive type of this kind. -/
  | unboxed (kind : Kind)
  /-- A value was to be unboxed and was of another kind. -/
  | unboxingFailed (mismatch : KindMismatch)
  /-- A native thing of this primitive kind was boxed. -/
  | boxed (kind : Kind)
  /-- A transform was refused. -/
  | refused (refusal : Unsupported)
  deriving DecidableEq, Repr

namespace Event

/-- The label of the body whose run the event begins. -/
def label? : Event → Option String
  | began label => some label
  | _ => none

/-- What is logged about the event. A failed unboxing and a refused transform are logged. -/
def logRecord? : Event → Option LogRecord
  | unboxingFailed mismatch =>
    some ⟨.debug, "unboxing failed",
      [("expected", .text mismatch.expected.name), ("found", .text mismatch.found.name)]⟩
  | refused refusal =>
    some ⟨.debug, "transform not supported",
      [("operation", .text refusal.operation), ("arity", .number refusal.arity)]⟩
  | _ => none

/-- Whether the event is an unboxing, be it that it succeeded or failed. -/
def isUnboxing : Event → Bool
  | unboxed _ | unboxingFailed _ => true
  | _ => false

/-- Whether the event is a boxing. -/
def isBoxing : Event → Bool
  | boxed _ => true
  | _ => false

end Event

end Erasure
