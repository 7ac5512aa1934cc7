/-
This file defines the records of the log. A record has a level, a message and named
details, each of which is a text or a number.
-/

namespace Erasure

/-- How much attention an event deserves. -/
inductive Level
  | debug
  | trace
  deriving DecidableEq, Repr

/-- The name of a level. -/
def Level.name : Level → String
  | debug => "DEBUG"
  | trace => "TRACE"

/-- What a field of a log record holds. -/
inductive FieldValue
  | text (text : String)
  | number (number : Nat)
  deriving DecidableEq, Repr

/-- An entry of the log. -/
structure LogRecord where
  /-- How much attention it deserves. -/
  level : Level
  message : String
  /-- The details, by name. -/
  fields : List (String × FieldValue)
  deriving DecidableEq, Repr

end Erasure
