/-
This file writes faults and failures as text: the message for a reader, the messages of
the causes behind it, and a layout for a programmer. The fault of a call that a body made
speaks as if it were not nested, so that nesting changes neither message nor causes.
-/

import Erasure.Fault
import Erasure.Layout

namespace Erasure

/-! ### Messages -/

/-- What is reported about a value of the wrong kind. -/
def KindMismatch.message (mismatch : KindMismatch) : String :=
  "kind mismatch: expected " ++ mismatch.expected.name ++ ", found " ++ mismatch.found.name

/-- What is reported about a refused transform. -/
def Unsupported.message (refusal : Unsupported) : String :=
  "`" ++ refusal.operation ++ "` is not supported for functions of arity " ++
    toString refusal.arity

/-- What is reported about a division by zero. -/
def divideByZeroMessage (dividend : Int32) : String :=
  s!"cannot divide {dividend.toInt} by zero"

mutual

/-- What is reported about a fault. The failure of a body speaks for itself. -/
def Fault.message : Fault → String
  | .kindMismatch mismatch => mismatch.message
  | .unsupported refusal => refusal.message
  | .tupleMismatch expected found =>
    s!"expected a tuple of {expected} values, found " ++
      match found with
      | none => "a non-tuple value"
      | some length => s!"a tuple of {length} values"
  | .user failure => failure.message

/-- What is reported about a failure. -/
def Failure.message : Failure → String
  | .divideByZero dividend => divideByZeroMessage dividend
  | .overflow => "overflow"
  | .boom code => s!"boom {code.toInt}"
  | .text text => text
  | .chained _ => "chained failure"
  | .kindMismatch mismatch => mismatch.message
  | .call fault => fault.message
  | .foreign failure => failure.message

end

mutual

/-- The messages of the causes behind a fault, the nearest first. -/
def Fault.causes : Fault → List String
  | .user failure => failure.causes
  | .kindMismatch _ | .unsupported _ | .tupleMismatch _ _ => []

/-- The messages of the causes behind a failure, the nearest first. The fault of a call stands
for itself, so that its causes are those of the failure that carries it. -/
def Failure.causes : Failure → List String
  | .chained dividend => [divideByZeroMessage dividend]
  | .call fault => fault.causes
  | .foreign failure => failure.causes
  | .divideByZero _ | .overflow | .boom _ | .text _ | .kindMismatch _ => []

end

/-! ### Layouts -/

/-- The escape of a character inside quotation marks; nothing if it stands for itself. -/
def quotedEscape? (character : Char) : Option String :=
  if character = '"' then some "\\\""
  else if character = '\\' then some "\\\\"
  else if character = '\n' then some "\\n"
  else if character = '\r' then some "\\r"
  else if character = '\t' then some "\\t"
  else if character = '\x00' then some "\\0"
  else if character.toNat < 0x20 ∨ (0x7f ≤ character.toNat ∧ character.toNat < 0xa0) then
    some ("\\u" ++ String.singleton '{' ++ String.ofList (Nat.toDigits 16 character.toNat) ++
      String.singleton '}')
  else none

/-- A text inside quotation marks, with its control characters escaped. -/
def quoted (text : String) : String :=
  "\"" ++ String.join (text.toList.map fun character =>
    (quotedEscape? character).getD (String.singleton character)) ++ "\""

/-- A value of the wrong kind as a layout. -/
def KindMismatch.layout (mismatch : KindMismatch) : Layout :=
  .record "KindMismatch"
    [("expected", .word mismatch.expected.name), ("found", .word mismatch.found.name)]

/-- A refused transform as a layout. -/
def Unsupported.layout (refusal : Unsupported) : Layout :=
  .record "NotSupported"
    [("operation", .word (quoted refusal.operation)), ("arity", .word (toString refusal.arity))]

/-- A division by zero as a layout. -/
def divideByZeroLayout (dividend : Int32) : Layout :=
  .record "DivideByZero" [("dividend", .word (toString dividend.toInt))]

mutual

/-- A fault as a layout. -/
def Fault.layout : Fault → Layout
  | .kindMismatch mismatch => .constructed "KindMismatch" [mismatch.layout]
  | .unsupported refusal => .constructed "NotSupported" [refusal.layout]
  | .tupleMismatch expected found =>
    .record "TupleMismatch"
      [("expected", .word (toString expected)),
        ("found", match found with
          | none => .word "None"
          | some length => .constructed "Some" [.word (toString length)])]
  | .user failure => .constructed "User" [failure.layout]

/-- A failure as a layout. The fault of a call is described as that fault. -/
def Failure.layout : Failure → Layout
  | .divideByZero dividend => divideByZeroLayout dividend
  | .overflow => .word "Overflow"
  | .boom code => .record "Boom" [("code", .word (toString code.toInt))]
  | .text text => .word ("TextError<" ++ text ++ ">")
  | .chained dividend => .record "Chained" [("cause", divideByZeroLayout dividend)]
  | .kindMismatch mismatch => mismatch.layout
  | .call fault => fault.layout
  | .foreign failure => failure.layout

end

end Erasure
