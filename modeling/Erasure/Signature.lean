/-
This file defines signatures: one kind for each parameter of a function and one for
its result. A signature says how many conversions a call through values makes, and
whether any contract can have it at all.
-/

import Erasure.Arity
import Erasure.Kind

namespace Erasure

/-- The kinds of the parameters of a function, in order, and the kind of its result. -/
structure Signature where
  /-- The kinds of the parameters, from left to right. -/
  params : List Kind
  /-- The kind of the result. -/
  result : Kind
  deriving DecidableEq, Repr, Inhabited

namespace Signature

/-- The signature that declares nothing: every position of it is erased. -/
def erased (arity : Nat) : Signature :=
  ⟨List.replicate arity .erased, .erased⟩

/-- The number of parameters. -/
def arity (signature : Signature) : Nat :=
  signature.params.length

/-- Whether some position is declared with a kind other than `erased`. -/
def isSpecialized (signature : Signature) : Bool :=
  !signature.result.isErased || signature.params.any fun kind => !kind.isErased

/-- The unboxings of a call through values: one for each primitive parameter. -/
def unboxCount (signature : Signature) : Nat :=
  signature.params.countP Kind.isPrimitive

/-- The boxings of a call through values: one if the result is primitive. -/
def boxCount (signature : Signature) : Nat :=
  if signature.result.isPrimitive then 1 else 0

/-- The text of a signature, as in `[I32, F64] -> Bool`. -/
def text (signature : Signature) : String :=
  "[" ++ ", ".intercalate (signature.params.map Kind.name) ++ "] -> " ++ signature.result.name

/-! ### Validity -/

/-- Why no contract can have a signature. -/
inductive Defect
  /-- There are no parameters, or more than the widest contract takes. -/
  | arityOutOfRange (arity : Nat)
  /-- The parameter at this position, counted from zero, is declared to hold no value. -/
  | voidParameter (position : Nat)
  deriving DecidableEq, Repr

/-- What is reported to the user about a defect. -/
def Defect.message : Defect → String
  | .arityOutOfRange arity => s!"arity {arity} is outside the supported range 1..={maxArity}"
  | .voidParameter position => s!"parameter {position} is declared as Void"

/-- Accepts a signature if a contract can have it. The number of parameters is judged first,
and of several void parameters the leftmost is reported. -/
def validate (signature : Signature) : Except Defect Unit :=
  if signature.arity = 0 ∨ maxArity < signature.arity then
    .error (.arityOutOfRange signature.arity)
  else
    match signature.params.findIdx? Kind.isVoid with
    | some position => .error (.voidParameter position)
    | none => .ok ()

end Signature

end Erasure
