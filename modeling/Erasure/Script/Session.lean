/-
This file runs scripts. A session holds the world, the names that are bound in it and
the objects that were shown. Each step is carried out on the session and answered, with
what ran and what was logged since the step before.
-/

import Erasure.Contract.Apply
import Erasure.Script.Step

namespace Erasure

/-- A contract that a name is bound to. -/
structure HeldContract where
  /-- The number of parameters but one. -/
  fewer : Nat
  handle : Handle (fewer + 1)
  /-- The specialized function it was made as, if it was. -/
  specialized : Option (Specialized (fewer + 1)) := none

/-- What a name is bound to. -/
inductive Binding
  | contract (contract : HeldContract)
  | value (value : Value)
  | fault (fault : Fault)

/-- The state of a script that runs. -/
structure Session where
  world : World := {}
  /-- The bound names, the latest first. -/
  bindings : List (String × Binding) := []
  /-- The objects that were shown. -/
  numbering : Numbering := #[]

/-- Why a step is not answered. -/
inductive Rejection
  /-- The step has no meaning: a name is not bound as it must be, or a number of arguments is
  wrong. -/
  | meaningless
  /-- A call in it gave no answer. -/
  | unanswered
  deriving DecidableEq, Repr

/-- What is done to a session. -/
abbrev Script := StateT Session (Except Rejection)

namespace Script

/-- How deeply bodies may call each other. A call that goes any deeper is taken for one that goes
on for ever. -/
def callDepth : Nat := Nat.pow 2 19

/-- Gives a step up that has no meaning. -/
def meaningless {α : Type} : Script α :=
  throw .meaningless

/-- What must be there for a step to have a meaning. -/
def need {α : Type} : Option α → Script α
  | some found => return found
  | none => meaningless

/-- Does a computation in the world of the session. -/
def perform {α : Type} (computation : Computation α) : Script (Except Fault α) := do
  match computation (← get).world with
  | .finished answer after =>
    modify fun session => { session with world := after }
    return answer
  | .unanswered => throw .unanswered

/-- Does a computation that has no fault. -/
def performSafely {α : Type} (computation : Computation α) : Script α := do
  match ← perform computation with
  | .ok result => return result
  | .error _ => meaningless

/-- What a name is bound to. -/
def lookup (name : String) : Script Binding := do
  need ((← get).bindings.lookup name)

/-- Binds a name. -/
def bindName (name : String) (binding : Binding) : Script Unit :=
  modify fun session => { session with bindings := (name, binding) :: session.bindings }

/-- Binds a name if there is one. -/
def bindName? (name : Option String) (binding : Binding) : Script Unit :=
  match name with
  | some name => bindName name binding
  | none => return

/-- Takes a name out of the bound ones. -/
def forget (name : String) : Script Unit :=
  modify fun session =>
    { session with bindings := session.bindings.filter fun bound => bound.1 != name }

/-- The contract that a name is bound to. A function among the values is one of one parameter. -/
def contractOf (name : String) : Script HeldContract := do
  match ← lookup name with
  | .contract contract => return contract
  | .value (.func address) => return ⟨0, .object address, none⟩
  | _ => meaningless

/-- The object that a name is bound to as a contract of one parameter. -/
def objectOf (name : String) : Script Address := do
  match ← contractOf name with
  | ⟨0, .object address, _⟩ => return address
  | _ => meaningless

/-! ### Literals -/

/-- A new reference. -/
def refer (payload : Payload) : Script Value := do
  let session ← get
  let world := session.world
  set { session with world := { world with references := world.references.push payload } }
  return .ref world.references.size

/-- A value inside so many tuples of one item. -/
def nest : Nat → Value → Value
  | 0, value => value
  | depth + 1, value => .tuple [nest depth value]

mutual

/-- The value of a literal. -/
def evaluate : Literal → Script Value
  | .i32 number => return .i32 number
  | .i64 number => return .i64 number
  | .f32 bits => return .f32 bits
  | .f64 bits => return .f64 bits
  | .bool truth => return .bool truth
  | .unit => return .unit
  | .tuple items => do
    let values ← evaluateAll items
    return .tuple values
  | .ref payload => do
    let content ← evaluatePayload payload
    refer content
  | .repeated count item => do
    let value ← evaluate item
    return .tuple (List.replicate count value)
  | .nested depth item => do
    let value ← evaluate item
    return nest depth value
  | .variable name => do
    match ← lookup name with
    | .value value => return value
    | .contract ⟨0, .object address, _⟩ => return .func address
    | _ => meaningless

/-- The values of several literals, from left to right. -/
def evaluateAll : List Literal → Script (List Value)
  | [] => return []
  | literal :: rest => do
    let value ← evaluate literal
    let values ← evaluateAll rest
    return value :: values

/-- What a new reference is to refer to. -/
def evaluatePayload : LiteralPayload → Script Payload
  | .text text => return .text text
  | .i32 number => return .i32 number
  | .unit => return .unit
  | .value literal => do
    let value ← evaluate literal
    return .value value

end

/-! ### Answers -/

/-- A value as it is shown. -/
def shown (value : Value) : Script Shown := do
  let session ← get
  let world := session.world
  let (result, numbering) := (world.shown world.references.size value).run session.numbering
  set { session with numbering := numbering }
  return result

/-- Several values as they are shown. -/
def shownAll : List Value → Script (List Shown)
  | [] => return []
  | value :: rest => do
    let first ← shown value
    let others ← shownAll rest
    return first :: others

/-- What is told about a contract that is held. -/
def report (contract : HeldContract) : Script ContractReport := do
  let term ← performSafely contract.handle.contract
  let object ← match contract with
    | ⟨0, .object address, _⟩ => do
      match ← shown (.func address) with
      | .func number _ => pure (some number)
      | _ => pure none
    | _ => pure none
  let specialized := contract.specialized.map Specialized.signature
  return ⟨contract.fewer + 1, term.signature, object, specialized⟩

/-- Binds a contract and tells about it. -/
def bindContract (name : String) (contract : HeldContract) : Script Answer := do
  bindName name (.contract contract)
  return .contract (← report contract)

/-- Binds and shows what came of a call. -/
def finish (targets : Targets) : Except Fault Value → Script CallReport
  | .ok value => do
    bindName? targets.result (.value value)
    return .returned (← shown value)
  | .error fault => do
    bindName? targets.fault (.fault fault)
    return .failed fault

/-- Does a script and tells what ran and what was logged for it. -/
def observe {α : Type} (script : Script α) : Script (Observed α) := do
  let content ← script
  let world := (← get).world
  modify fun session => { session with world := { session.world with trace := #[] } }
  return ⟨content, world.ran, world.log⟩

/-! ### Calls -/

/-- Calls the function of a specialized contract directly. -/
def callDirectly (bound : CurryBound) {arity : Nat} (function : Specialized arity)
    (path : DirectPath) (arguments : Row Value arity) : Computation Value := do
  let call := invoke bound callDepth
  let natives ← unboxingAll function.params arguments
  let outcome ← match path with
    | .positional => (function.applyNative call).onArguments natives
    | .together => function.callNative call natives
    | .inner => (function.inner call).onArguments natives
  function.carryOver outcome

/-- Calls the function at an address on the first value, the function it returns on the next, and
so on, and stops behind a result that is no function. Only what comes of the last value is
bound. -/
def callChain (bound : CurryBound) (targets : Targets) : Address → List Value →
    Script (List (Observed CallReport))
  | _, [] => return []
  | function, value :: rest => do
    let answer ← perform (invoke bound callDepth function value)
    let first ← observe (finish (if rest.isEmpty then targets else {}) answer)
    match answer with
    | .ok (.func next) => do
      let others ← callChain bound targets next rest
      return first :: others
    | _ => return [first]

/-- Binds what a transform gives, or what it was refused with. -/
def transform (targets : Targets) (computation : Computation Address) : Script Answer := do
  match ← perform computation with
  | .ok address => bindContract (← need targets.result) ⟨0, .object address, none⟩
  | .error (.unsupported refusal) => do
    bindName? targets.fault (.fault (.unsupported refusal))
    return .refusal refusal
  | .error _ => meaningless

/-! ### Steps -/

/-- The parts of a value. -/
def partsOf (value : Value) : Script Parts := do
  let world := (← get).world
  let payload := value.ref?.bind fun address => world.references[address]?
  let reference ← match value with
    | .ref _ => some <$> shown value
    | _ => pure none
  let function ← match value with
    | .func _ => some <$> shown value
    | _ => pure none
  let items ← match value.items? with
    | some items => some <$> shownAll items
    | none => pure none
  return { kind := value.kind, isUnit := value.isUnit, i32 := value.i32?, i64 := value.i64?,
           f32 := value.f32?, f64 := value.f64?, bool := value.bool?, ref := reference,
           func := function, items := items, payload := payload }

/-- Makes a function of the catalogue, which gets a memory cell of its own. -/
def makeFunction (name : String) (recipe : Recipe) : Script HeldContract := do
  let session ← get
  let world := session.world
  let ⟨fewer, leaf⟩ ← need (recipe.leaf? name world.cells.size)
  set { session with world := { world with cells := world.cells.push recipe.memory } }
  let handle ← performSafely (Handle.share (.leaf leaf))
  let specialized := match leaf with
    | .specialized function => some function
    | .handwritten _ => none
  return ⟨fewer, handle, specialized⟩

/-- Whether two values that are references are one object. -/
def sameReference? (left right : Value) : Option Bool := do
  return (← left.ref?) == (← right.ref?)

/-- Carries out a step. -/
def carryOut (bound : CurryBound) : Step → Script Answer
  | .letValue name literal => do
    let value ← evaluate literal
    bindName name (.value value)
    return .value (← shown value)
  | .describe literal => do
    let value ← evaluate literal
    let world := (← get).world
    return .description value.kind (world.text value) (world.layout value)
  | .access literal => do
    return .parts (← partsOf (← evaluate literal))
  | .compare left right => do
    let leftValue ← evaluate left
    let rightValue ← evaluate right
    return .comparison (leftValue.same rightValue) (sameReference? leftValue rightValue)
  | .unbox type literal => do
    let value ← evaluate literal
    match ← perform (type.unboxing value) with
    | .ok native => return .conversion type.kind (← shown (type.box native))
    | .error fault => return .call (.failed fault)
  | .makeFunction name recipe => do
    bindContract name (← makeFunction name recipe)
  | .wrap name function pointer => do
    let contract ← contractOf function
    let handle ← performSafely (contract.handle.forward pointer)
    bindContract name ⟨contract.fewer, handle, none⟩
  | .signature function => do
    let contract ← contractOf function
    return .signature (← performSafely contract.handle.contract).signature
  | .apply function literals targets => do
    let contract ← contractOf function
    let arguments ← need (Row.ofList? (contract.fewer + 1) (← evaluateAll literals))
    let answer ← perform (contract.handle.apply bound callDepth arguments)
    return .call (← finish targets answer)
  | .direct function path literals targets => do
    let contract ← contractOf function
    let specialized ← need contract.specialized
    let arguments ← need (Row.ofList? (contract.fewer + 1) (← evaluateAll literals))
    let answer ← perform (callDirectly bound specialized path arguments)
    return .call (← finish targets answer)
  | .chain function literals targets => do
    let address ← objectOf function
    return .calls (← callChain bound targets address (← evaluateAll literals))
  | .curried function targets => do
    let contract ← contractOf function
    transform targets (contract.handle.curried bound)
  | .tupled function targets => do
    let contract ← contractOf function
    transform targets (contract.handle.tupled bound)
  | .andThen name first second => do
    let firstObject ← objectOf first
    let secondObject ← objectOf second
    let address ← performSafely (Erasure.andThen firstObject secondObject)
    bindContract name ⟨0, .object address, none⟩
  | .compose name after before => do
    let afterObject ← objectOf after
    let beforeObject ← objectOf before
    let address ← performSafely (Erasure.compose afterObject beforeObject)
    bindContract name ⟨0, .object address, none⟩
  | .makeFault name fault => do
    bindName name (.fault fault)
    return .fault fault
  | .downcast name type => do
    match ← lookup name with
    | .fault fault =>
      let outcome := fault.downcast type
      match outcome with
      | .ok (.call inner) => bindName name (.fault inner)
      | .ok _ => forget name
      | .error kept => bindName name (.fault kept)
      return .downcast (fault.carries type) outcome
    | _ => meaningless

/-- Carries out the steps of a script. -/
def carryOutAll (bound : CurryBound) : List Step → Script (List (Observed Answer))
  | [] => return []
  | step :: rest => do
    let first ← observe (carryOut bound step)
    let others ← carryOutAll bound rest
    return first :: others

/-- The answers to the steps of a script, which begins with an empty world. -/
def run (bound : CurryBound) (steps : List Step) : Except Rejection (List (Observed Answer)) :=
  (carryOutAll bound steps).run' {}

end Script

end Erasure
