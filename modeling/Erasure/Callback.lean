/-
This file defines the notifications that a compiler sends while it works and the
callbacks that take them. A callback may ignore them all, write each to the log, react
to some of the four topics by itself, or hold a handler for each topic. It may be
reached through any number of pointers. What a callback does on a notification is given
as a list of reactions.
-/

import Erasure.Contract.Basic
import Erasure.Log

namespace Erasure

/-- What a notification is about. -/
inductive Topic
  | classGenerated
  | sourceCompiled
  | unitStarted
  | advanced
  deriving DecidableEq, Repr

namespace Topic

/-- The topics, in order. -/
def all : List Topic :=
  [classGenerated, sourceCompiled, unitStarted, advanced]

/-- The name of a topic. -/
def name : Topic → String
  | classGenerated => "on_class_generated"
  | sourceCompiled => "on_source_compiled"
  | unitStarted => "start_unit"
  | advanced => "advance"

/-- The topic of the given name. -/
def ofName? (text : String) : Option Topic :=
  all.find? fun topic => topic.name == text

end Topic

/-- What a compiler tells. -/
inductive Notification
  /-- The output `generated` was written for `source`; the generated entity has this name. -/
  | classGenerated (source generated name : String)
  /-- The source is done. -/
  | sourceCompiled (source : String)
  /-- Work on the source at this path has begun in this phase. -/
  | unitStarted (phase path : String)
  /-- So many units of work are done of so many in total. -/
  | advanced (current total : UInt32)
  deriving DecidableEq, Repr

namespace Notification

/-- What a notification is about. -/
def topic : Notification → Topic
  | classGenerated _ _ _ => .classGenerated
  | sourceCompiled _ => .sourceCompiled
  | unitStarted _ _ => .unitStarted
  | advanced _ _ => .advanced

/-- What a notification tells, in order. -/
def arguments : Notification → List FieldValue
  | classGenerated source generated name => [.text source, .text generated, .text name]
  | sourceCompiled source => [.text source]
  | unitStarted phase path => [.text phase, .text path]
  | advanced current total => [.number current.toNat, .number total.toNat]

/-- A notification as a record of the log. -/
def logRecord : Notification → LogRecord
  | classGenerated source generated name =>
    ⟨.debug, "class generated",
      [("source", .text source), ("generated", .text generated), ("name", .text name)]⟩
  | sourceCompiled source => ⟨.debug, "source compiled", [("source", .text source)]⟩
  | unitStarted phase path =>
    ⟨.trace, "unit started", [("phase", .text phase), ("source_path", .text path)]⟩
  | advanced current total =>
    ⟨.trace, "progress", [("current", .number current.toNat), ("total", .number total.toNat)]⟩

end Notification

/-! ### Handlers -/

/-- The handlers of a callback, at most one for each topic. A handler is known by a number. -/
structure Handlers where
  classGenerated : Option Nat := none
  sourceCompiled : Option Nat := none
  unitStarted : Option Nat := none
  advanced : Option Nat := none
  deriving DecidableEq, Repr

namespace Handlers

/-- The handler of a topic. -/
def get (handlers : Handlers) : Topic → Option Nat
  | .classGenerated => handlers.classGenerated
  | .sourceCompiled => handlers.sourceCompiled
  | .unitStarted => handlers.unitStarted
  | .advanced => handlers.advanced

/-- Makes a handler the only one of a topic. -/
def set (handlers : Handlers) (topic : Topic) (handler : Nat) : Handlers :=
  match topic with
  | .classGenerated => { handlers with classGenerated := some handler }
  | .sourceCompiled => { handlers with sourceCompiled := some handler }
  | .unitStarted => { handlers with unitStarted := some handler }
  | .advanced => { handlers with advanced := some handler }

/-- Sets handlers for topics one after the other, numbering them from `next` on. -/
def setAll (handlers : Handlers) : (next : Nat) → List Topic → Handlers
  | _, [] => handlers
  | next, topic :: rest => (handlers.set topic next).setAll (next + 1) rest

/-- The handler that was set is the handler of its topic. -/
@[simp]
theorem get_set_self (handlers : Handlers) (topic : Topic) (handler : Nat) :
    (handlers.set topic handler).get topic = some handler := by
  cases topic <;> rfl

/-- Setting a handler leaves the other topics alone. -/
theorem get_set_other (handlers : Handlers) {topic other : Topic} (different : other ≠ topic)
    (handler : Nat) : (handlers.set topic handler).get other = handlers.get other := by
  cases topic <;> cases other <;> simp_all [set, get]

/-- The handlers as a layout, which says for which topics there is one. -/
def layout (handlers : Handlers) : Layout :=
  .record "FnCallback" <| Topic.all.map fun topic =>
    (topic.name, .word (if (handlers.get topic).isSome then "true" else "false"))

end Handlers

/-! ### Callbacks -/

/-- What takes notifications. -/
inductive Callback
  /-- Ignores every notification. -/
  | silent
  /-- Writes every notification to the log. -/
  | tracing
  /-- Reacts to the given topics by itself and ignores the others. -/
  | overriding (topics : List Topic)
  /-- Runs the handler of the topic, if there is one. -/
  | handling (handlers : Handlers)
  /-- A callback reached through a pointer. -/
  | forward (pointer : Pointer) (inner : Callback)

/-- What a callback does on a notification. -/
inductive Reaction
  /-- The handler of this number ran on it. -/
  | handled (handler : Nat) (notification : Notification)
  /-- The callback reacted to it by itself. -/
  | overridden (notification : Notification)
  /-- A record was written to the log. -/
  | logged (record : LogRecord)
  deriving DecidableEq, Repr

namespace Callback

/-- What a callback does on a notification. -/
def deliver : Callback → Notification → List Reaction
  | silent, _ => []
  | tracing, notification => [.logged notification.logRecord]
  | overriding topics, notification =>
    if notification.topic ∈ topics then [.overridden notification] else []
  | handling handlers, notification =>
    match handlers.get notification.topic with
    | some handler => [.handled handler notification]
    | none => []
  | forward _ inner, notification => inner.deliver notification

/-- How often a handler ran among some reactions. -/
def runsOf (handler : Nat) (reactions : List Reaction) : Nat :=
  reactions.countP fun
    | .handled other _ => other == handler
    | _ => false

/-- What a callback does on one notification after the other, where each run of a handler comes
with the number of its earlier runs. What the callback did before is given, the latest first. -/
def deliverAll (callback : Callback) : (earlier : List Reaction) → List Notification →
    List (List (Reaction × Nat))
  | _, [] => []
  | earlier, notification :: rest =>
    let reactions := callback.deliver notification
    let counted := reactions.map fun reaction =>
      match reaction with
      | .handled handler _ => (reaction, runsOf handler earlier)
      | _ => (reaction, 0)
    counted :: callback.deliverAll (reactions.reverse ++ earlier) rest

/-- A callback as a programmer sees it; one that reacts by itself has no description. -/
def layout? : Callback → Option Layout
  | silent => some (.word "NoopCallback")
  | tracing => some (.word "TracingCallback")
  | overriding _ => none
  | handling handlers => some handlers.layout
  | forward _ inner => inner.layout?

/-- A callback behind several pointers, the first being the outermost. -/
def behind (callback : Callback) : List Pointer → Callback
  | [] => callback
  | pointer :: rest => .forward pointer (callback.behind rest)

end Callback

end Erasure
