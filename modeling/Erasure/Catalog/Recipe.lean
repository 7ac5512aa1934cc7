/-
This file is a catalogue of functions to call. A recipe says which function is meant;
making it gives a new function with a label of its own and a memory cell of its own. The
catalogue holds probes of any signature, functions of any arity that return their
arguments, and single functions that compute, fail, remember or call other functions. A
recipe may also bring its own function.
-/

import Erasure.Catalog.Arithmetic
import Erasure.Contract.Leaf

namespace Erasure

/-- A function of any number of parameters but none. -/
abbrev SomeLeaf := (fewer : Nat) × Leaf (fewer + 1)

/-- Which function of the catalogue is meant. -/
inductive Recipe
  /-- A function of the given kinds whose result depends on all its arguments. -/
  | probe (params : List Kind) (result : Kind)
  /-- The same, failing on a third of all arguments. -/
  | attempt (params : List Kind) (result : Kind)
  /-- A handwritten function that returns its arguments. -/
  | plain (arity : Nat)
  /-- The same, declaring the given signature. -/
  | typed (arity : Nat) (signature : Signature)
  /-- An integer plus one, unboxed by hand. -/
  | increment
  /-- Twice an integer, unboxed by hand, with a signature of integers. -/
  | double
  | concat
  | addI32
  | subI32
  | squareI32
  | negI64
  | mulI32I64
  | digits
  | xorNeg
  | doubleF64
  | mulF32F64
  | identity
  | first
  | kindCode
  | sinkBool
  | divI32
  | chainedDiv
  | checkedAddI64
  | checkPositive
  | textFail
  | applyTwice
  | mapTuple
  | counter
  | history
  /-- A function from outside the catalogue, made with a label and a memory cell. -/
  | given (make : (label : String) → (cell : Address) → SomeLeaf)

namespace Recipe

/-- The single functions by their names. -/
def named : List (String × Recipe) :=
  [("increment", increment), ("double", double), ("concat", concat), ("add_i32", addI32),
    ("sub_i32", subI32), ("square_i32", squareI32), ("neg_i64", negI64),
    ("mul_i32_i64", mulI32I64), ("digits3", digits), ("xor_neg", xorNeg),
    ("double_f64", doubleF64), ("mul_f32_f64", mulF32F64), ("identity", identity),
    ("first", first), ("kind_code", kindCode), ("sink_bool", sinkBool), ("div_i32", divI32),
    ("chained_div", chainedDiv), ("checked_add_i64", checkedAddI64),
    ("check_positive", checkPositive), ("text_fail", textFail), ("apply_twice", applyTwice),
    ("map_tuple", mapTuple), ("counter", counter), ("history", history)]

/-- The single function of the given name. -/
def ofName? (name : String) : Option Recipe :=
  named.lookup name

end Recipe

namespace Catalog

/-! ### Specialized functions -/

/-- A specialized function of one parameter. -/
def function1 (label : String) (param : NativeType) (result : ReturnType)
    (body : Body (.single param) result) : Specialized 1 :=
  ⟨by decide, by decide, .single param, result, label, body⟩

def function2 (label : String) (first second : NativeType) (result : ReturnType)
    (body : Body (.pair first second) result) : Specialized 2 :=
  ⟨by decide, by decide, .pair first second, result, label, body⟩

def function3 (label : String) (first second third : NativeType) (result : ReturnType)
    (body : Body (.triple first second third) result) : Specialized 3 :=
  ⟨by decide, by decide, .triple first second third, result, label, body⟩

def addI32 (label : String) : Specialized 2 :=
  function2 label .i32 .i32 (.native .i32) <| .plain fun (left right : Int32) =>
    .done (left + right)

def subI32 (label : String) : Specialized 2 :=
  function2 label .i32 .i32 (.native .i32) <| .plain fun (left right : Int32) =>
    .done (left - right)

def squareI32 (label : String) : Specialized 1 :=
  function1 label .i32 (.native .i32) <| .plain fun (number : Int32) => .done (number * number)

def negI64 (label : String) : Specialized 1 :=
  function1 label .i64 (.native .i64) <| .plain fun (number : Int64) => .done (-number)

def mulI32I64 (label : String) : Specialized 2 :=
  function2 label .i32 .i64 (.native .i64) <| .plain fun (narrow : Int32) (wide : Int64) =>
    .done (narrow.toInt64 * wide)

def digits (label : String) : Specialized 3 :=
  function3 label .i32 .i32 .i32 (.native .i32) <|
    .plain fun (hundreds tens ones : Int32) => .done (hundreds * 100 + tens * 10 + ones)

/-- A number, or its opposite if two truth values agree. -/
def xorNeg (label : String) : Specialized 3 :=
  function3 label .bool .bool .i32 (.native .i32) <|
    .plain fun (left right : Bool) (number : Int32) =>
      .done (if left != right then number else -number)

def doubleF64 (label : String) : Specialized 1 :=
  function1 label .f64 (.native .f64) <| .plain fun (bits : UInt64) => .done (doubledBits bits)

def mulF32F64 (label : String) : Specialized 2 :=
  function2 label .f32 .f64 (.native .f64) <| .plain fun (narrow : UInt32) (wide : UInt64) =>
    .done (productBits narrow wide)

def identity (label : String) : Specialized 1 :=
  function1 label .generic (.native .generic) <| .plain fun (value : Value) => .done value

def first (label : String) : Specialized 2 :=
  function2 label .generic .i32 (.native .generic) <|
    .plain fun (value : Value) (_ : Int32) => .done value

/-- The position of the kind of a value. -/
def kindCode (label : String) : Specialized 1 :=
  function1 label .generic (.native .i32) <| .plain fun (value : Value) =>
    .done (Int32.ofNat value.kind.position)

/-- Takes a truth value and returns nothing. -/
def sinkBool (label : String) : Specialized 1 :=
  function1 label .bool .nothing <| .plain fun (_ : Bool) => .done ()

def divI32 (label : String) : Specialized 2 :=
  function2 label .i32 .i32 (.native .i32) <| .fallible fun (dividend divisor : Int32) =>
    .done (quotient .divideByZero dividend divisor)

/-- The quotient of two integers, whose failure names a division by zero as its cause. -/
def chainedDiv (label : String) : Specialized 2 :=
  function2 label .i32 .i32 (.native .i32) <| .fallible fun (dividend divisor : Int32) =>
    .done (quotient .chained dividend divisor)

def checkedAddI64 (label : String) : Specialized 2 :=
  function2 label .i64 .i64 (.native .i64) <| .fallible fun (left right : Int64) =>
    .done (checkedSum left right)

/-- Fails on a number that is not positive. -/
def checkPositive (label : String) : Specialized 1 :=
  function1 label .i64 .nothing <| .fallible fun (number : Int64) =>
    .done (if number ≤ 0 then .error (.text s!"{number.toInt} is not positive") else .ok ())

/-- Fails always, with the text of its argument. -/
def textFail (label : String) : Specialized 1 :=
  function1 label .generic (.native .generic) <| .fallible fun (value : Value) =>
    .describe value fun text => .done (.error (.text text))

/-- What a value of another form is refused with where a function or a tuple is needed. -/
def refusal (value : Value) : Failure :=
  .call (.kindMismatch ⟨.erased, value.kind⟩)

/-- A function applied to a value and then to what it returns. -/
def applyTwice (label : String) : Specialized 2 :=
  function2 label .generic .generic (.native .generic) <|
    .fallible fun (function value : Value) =>
      match function.func? with
      | none => .done (.error (refusal function))
      | some address =>
        .call address value fun
          | .error fault => .done (.error (.call fault))
          | .ok between =>
            .call address between fun
              | .error fault => .done (.error (.call fault))
              | .ok result => .done (.ok result)

/-- A function applied to one item after the other, to the first fault. The results of the items
before them are given, the latest first. -/
def mapItems (function : Address) : (mapped : List Value) → List Value →
    Program (Except Failure Value)
  | mapped, [] => .done (.ok (.tuple mapped.reverse))
  | mapped, item :: rest =>
    .call function item fun
      | .error fault => .done (.error (.call fault))
      | .ok result => mapItems function (result :: mapped) rest

/-- A function applied to the items of a tuple. -/
def mapTuple (label : String) : Specialized 2 :=
  function2 label .generic .generic (.native .generic) <|
    .fallible fun (function value : Value) =>
      match function.func?, value.items? with
      | none, _ => .done (.error (refusal function))
      | some _, none => .done (.error (refusal value))
      | some address, some items => mapItems address [] items

/-- The sum of all arguments up to this one. -/
def counter (label : String) (cell : Address) : Specialized 1 :=
  function1 label .i64 (.native .i64) <| .plain fun (number : Int64) =>
    .readCell cell fun before =>
      let total := before.i64?.getD 0 + number
      .writeCell cell (.i64 total) (.done total)

/-- The tuple of all arguments up to this one. -/
def history (label : String) (cell : Address) : Specialized 1 :=
  function1 label .generic (.native .generic) <| .plain fun (value : Value) =>
    .readCell cell fun before =>
      let all := Value.tuple (before.items?.getD [] ++ [value])
      .writeCell cell all (.done all)

/-- A probe of the given types. -/
def probe (label : String) {arity : Nat} (positive : 1 ≤ arity) (bounded : arity ≤ widestArity)
    (params : Row NativeType arity) (result : ReturnType) : Specialized arity :=
  ⟨positive, bounded, params, result, label, .plain <| .ofArguments fun arguments =>
    let values := arguments.boxed.toList
    .done (probeResult (probeSum values) values result)⟩

/-- A probe of the given types that fails if three divides its number. -/
def attempt (label : String) {arity : Nat} (positive : 1 ≤ arity)
    (bounded : arity ≤ widestArity) (params : Row NativeType arity) (result : ReturnType) :
    Specialized arity :=
  ⟨positive, bounded, params, result, label, .fallible <| .ofArguments fun arguments =>
    let values := arguments.boxed.toList
    let sum := probeSum values
    .done (if sum % 3 = 0 then .error (.boom sum) else .ok (probeResult sum values result))⟩

/-! ### Handwritten functions -/

/-- A function that returns the tuple of its arguments. -/
def gather (label : String) {arity : Nat} (positive : 1 ≤ arity) (bounded : arity ≤ widestArity)
    (signature : Signature) : Handwritten arity :=
  ⟨positive, bounded, signature, label, fun arguments => .done (.ok (.tuple arguments.toList))⟩

/-- A function of an integer that unboxes its argument itself. -/
def onInteger (label : String) (signature : Signature) (compute : Int32 → Int32) :
    Handwritten 1 :=
  ⟨by decide, by decide, signature, label, fun
    | .cons value .nil =>
      .unbox .i32 value fun
        | .error mismatch => .done (.error (.kindMismatch mismatch))
        | .ok (number : Int32) => .done (.ok (.i32 (compute number)))⟩

/-- The tuple of the items of two tuples; what is no tuple has no items. -/
def concat (label : String) : Handwritten 2 :=
  ⟨by decide, by decide, .erased 2, label, fun
    | .cons left (.cons right .nil) =>
      .done (.ok (.tuple (left.items?.getD [] ++ right.items?.getD [])))⟩

end Catalog

/-! ### Making functions -/

namespace Recipe

/-- The specialized function of the given kinds; nothing if no contract can have them. -/
def ofKinds?
    (make : {arity : Nat} → 1 ≤ arity → arity ≤ widestArity → Row NativeType arity →
      ReturnType → Specialized arity)
    (params : List Kind) (result : Kind) : Option SomeLeaf := do
  match ← params.mapM NativeType.ofKind? with
  | [] => none
  | param :: others =>
    if bounded : others.length + 1 ≤ widestArity then
      let types := Row.ofList (param :: others)
      return ⟨others.length,
        .specialized (make (Nat.le_add_left 1 _) bounded types (.ofKind result))⟩
    else
      none

/-- The handwritten function of the given arity; nothing if there is no contract for it. -/
def gathering? (label : String) (arity : Nat) (signature : Signature) : Option SomeLeaf :=
  match arity with
  | 0 => none
  | fewer + 1 =>
    if bounded : fewer + 1 ≤ widestArity then
      some ⟨fewer, .handwritten (Catalog.gather label (Nat.le_add_left 1 _) bounded signature)⟩
    else
      none

/-- What a new function of a recipe remembers at first. -/
def memory : Recipe → Value
  | counter => .i64 0
  | history => .tuple []
  | _ => .unit

/-- The function of a recipe, with the given label and memory cell; nothing if no contract can
have the signature that the recipe asks for. -/
def leaf? (label : String) (cell : Address) : Recipe → Option SomeLeaf
  | probe params result => ofKinds? (Catalog.probe label) params result
  | attempt params result => ofKinds? (Catalog.attempt label) params result
  | plain arity => gathering? label arity (.erased arity)
  | typed arity signature => gathering? label arity signature
  | increment => some ⟨0, .handwritten (Catalog.onInteger label (.erased 1) (· + 1))⟩
  | double => some ⟨0, .handwritten (Catalog.onInteger label ⟨[.i32], .i32⟩ (· * 2))⟩
  | concat => some ⟨1, .handwritten (Catalog.concat label)⟩
  | addI32 => some ⟨1, .specialized (Catalog.addI32 label)⟩
  | subI32 => some ⟨1, .specialized (Catalog.subI32 label)⟩
  | squareI32 => some ⟨0, .specialized (Catalog.squareI32 label)⟩
  | negI64 => some ⟨0, .specialized (Catalog.negI64 label)⟩
  | mulI32I64 => some ⟨1, .specialized (Catalog.mulI32I64 label)⟩
  | digits => some ⟨2, .specialized (Catalog.digits label)⟩
  | xorNeg => some ⟨2, .specialized (Catalog.xorNeg label)⟩
  | doubleF64 => some ⟨0, .specialized (Catalog.doubleF64 label)⟩
  | mulF32F64 => some ⟨1, .specialized (Catalog.mulF32F64 label)⟩
  | identity => some ⟨0, .specialized (Catalog.identity label)⟩
  | first => some ⟨1, .specialized (Catalog.first label)⟩
  | kindCode => some ⟨0, .specialized (Catalog.kindCode label)⟩
  | sinkBool => some ⟨0, .specialized (Catalog.sinkBool label)⟩
  | divI32 => some ⟨1, .specialized (Catalog.divI32 label)⟩
  | chainedDiv => some ⟨1, .specialized (Catalog.chainedDiv label)⟩
  | checkedAddI64 => some ⟨1, .specialized (Catalog.checkedAddI64 label)⟩
  | checkPositive => some ⟨0, .specialized (Catalog.checkPositive label)⟩
  | textFail => some ⟨0, .specialized (Catalog.textFail label)⟩
  | applyTwice => some ⟨1, .specialized (Catalog.applyTwice label)⟩
  | mapTuple => some ⟨1, .specialized (Catalog.mapTuple label)⟩
  | counter => some ⟨0, .specialized (Catalog.counter label cell)⟩
  | history => some ⟨0, .specialized (Catalog.history label cell)⟩
  | given make => some (make label cell)

end Recipe

end Erasure
