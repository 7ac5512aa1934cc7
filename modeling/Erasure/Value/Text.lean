/-
This file writes values as text: plainly for a reader, and as a layout for a programmer
who inspects them. A function is shown by its signature alone and a reference by no
part of what it refers to. As a value holds only the address of a function, its
signature is looked up.

To a programmer a reference is also shown with the place where it points. That place
differs from run to run and is left out here: the same mark stands for it in every layout.
Equal references are one object and point to one place, so that what is said about the
layouts of equal values holds with the place as well as without it.
-/

import Erasure.Decimal.Notation
import Erasure.Layout
import Erasure.Signature.Layout
import Erasure.Value

namespace Erasure

/-- The text of a truth value. -/
def truthText (truth : Bool) : String :=
  if truth then "true" else "false"

/-- The text of a float of 32 bits. -/
def singleText (style : DecimalNotation) (bits : UInt32) : String :=
  style.write (BinaryFormat.single.read bits.toNat)

/-- The text of a float of 64 bits. -/
def doubleText (style : DecimalNotation) (bits : UInt64) : String :=
  style.write (BinaryFormat.double.read bits.toNat)

namespace Value

mutual

/-- The plain text of a value. -/
def text (signatureAt : Address → Signature) : Value → String
  | i32 number => toString number.toInt
  | i64 number => toString number.toInt
  | f32 bits => singleText .plain bits
  | f64 bits => doubleText .plain bits
  | bool truth => truthText truth
  | unit => "()"
  | ref _ => "ref"
  | func address => "func " ++ (signatureAt address).text
  | tuple items => "(" ++ itemsText signatureAt items ++ ")"

/-- The plain texts of several values, separated by commas. -/
def itemsText (signatureAt : Address → Signature) : List Value → String
  | [] => ""
  | [item] => item.text signatureAt
  | item :: next :: rest =>
    item.text signatureAt ++ ", " ++ itemsText signatureAt (next :: rest)

end

mutual

/-- A value as a layout. Only tuples have parts; everything else is one word. Where a
reference points is left open. -/
def layout (signatureAt : Address → Signature) : Value → Layout
  | i32 number => .word s!"I32({number.toInt})"
  | i64 number => .word s!"I64({number.toInt})"
  | f32 bits => .word ("F32(" ++ singleText .exact bits ++ ")")
  | f64 bits => .word ("F64(" ++ doubleText .exact bits ++ ")")
  | bool truth => .word ("Bool(" ++ truthText truth ++ ")")
  | unit => .word "Unit"
  | ref _ => .word "Ref(AnyRef(PTR))"
  | func address => .word ("Func(" ++ (signatureAt address).text ++ ")")
  | tuple items => .constructed "Tuple" [.list (itemLayouts signatureAt items)]

/-- Several values as layouts. -/
def itemLayouts (signatureAt : Address → Signature) : List Value → List Layout
  | [] => []
  | item :: rest => item.layout signatureAt :: itemLayouts signatureAt rest

end

end Value

end Erasure
