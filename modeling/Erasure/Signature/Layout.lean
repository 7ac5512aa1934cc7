/-
This file describes signatures and their defects to a programmer.
-/

import Erasure.Layout
import Erasure.Signature

namespace Erasure

/-- A signature as a layout. -/
def Signature.layout (signature : Signature) : Layout :=
  .record "FunctionType"
    [("params", .list (signature.params.map fun kind => .word kind.name)),
      ("result", .word signature.result.name)]

/-- A defect of a signature as a layout. -/
def Signature.Defect.layout : Signature.Defect → Layout
  | .arityOutOfRange arity => .constructed "ArityOutOfRange" [.word (toString arity)]
  | .voidParameter position => .constructed "VoidParameter" [.word (toString position)]

end Erasure
