/-
This file defines computations, what a call does to the world. A computation ends with
an answer, a result or a fault, in the world it leaves behind. It may also give no
answer, as a body can call itself for ever. The first fault of computations done one
after the other is their answer, and what happened up to it stays in the world.
-/

import Erasure.World

namespace Erasure

/-- How a computation comes out. -/
inductive Outcome (α : Type)
  /-- It ends with a result or a fault. -/
  | finished (answer : Except Fault α) (after : World)
  /-- It gives no answer: it goes on for ever or uses an object that does not exist. -/
  | unanswered

/-- What is done to the world to arrive at a result or a fault. -/
def Computation (α : Type) : Type :=
  World → Outcome α

namespace Computation

variable {α β : Type}

/-- Does nothing but to give a result. -/
protected def pure (result : α) : Computation α :=
  fun world => .finished (.ok result) world

/-- One computation after the other, the second with the result of the first. -/
protected def bind (computation : Computation α) (next : α → Computation β) : Computation β :=
  fun world =>
    match computation world with
    | .finished (.ok result) after => next result after
    | .finished (.error fault) after => .finished (.error fault) after
    | .unanswered => .unanswered

instance : Monad Computation where
  pure := Computation.pure
  bind := Computation.bind

/-- Going on with nothing but the result changes nothing. -/
protected theorem bind_pure (computation : Computation α) :
    Computation.bind computation Computation.pure = computation := by
  funext world
  unfold Computation.bind
  split <;> simp_all [Computation.pure]

/-- What is done one after the other may be grouped in any way. -/
protected theorem bind_assoc {γ : Type} (computation : Computation α) (next : α → Computation β)
    (last : β → Computation γ) :
    (computation.bind next).bind last =
      computation.bind fun result => (next result).bind last := by
  funext world
  unfold Computation.bind
  cases computation world with
  | unanswered => rfl
  | finished answer after => cases answer <;> rfl

instance : LawfulMonad Computation :=
  .mk' _ Computation.bind_pure (fun _ _ => rfl) Computation.bind_assoc

/-- After a result the next computation goes on. -/
theorem bind_of_ok {computation : Computation α} {world after : World} {result : α}
    (ended : computation world = .finished (.ok result) after) (next : α → Computation β) :
    (computation >>= next) world = next result after := by
  show Computation.bind computation next world = next result after
  rw [Computation.bind, ended]

/-- After a fault nothing more is done. -/
theorem bind_of_error {computation : Computation α} {world after : World} {fault : Fault}
    (ended : computation world = .finished (.error fault) after) (next : α → Computation β) :
    (computation >>= next) world = .finished (.error fault) after := by
  show Computation.bind computation next world = .finished (.error fault) after
  rw [Computation.bind, ended]

/-- Nothing comes after a computation that gives no answer. -/
theorem bind_of_unanswered {computation : Computation α} {world : World}
    (stuck : computation world = .unanswered) (next : α → Computation β) :
    (computation >>= next) world = .unanswered := by
  show Computation.bind computation next world = .unanswered
  rw [Computation.bind, stuck]

/-- Computations that come to the same in a world may be followed by anything. -/
theorem bind_eq_of_eq {first second : Computation α} {world : World}
    (same : first world = second world) (next : α → Computation β) :
    (first >>= next) world = (second >>= next) world := by
  show Computation.bind first next world = Computation.bind second next world
  rw [Computation.bind, Computation.bind, same]

/-- A result comes from a computation that ended with a result and the one after it. -/
theorem exists_of_bind_ok {computation : Computation α} {next : α → Computation β} {result : β}
    {world last : World} (ended : (computation >>= next) world = .finished (.ok result) last) :
    ∃ between after, computation world = .finished (.ok between) after ∧
      next between after = .finished (.ok result) last := by
  cases early : computation world with
  | unanswered =>
    rw [bind_of_unanswered early] at ended
    cases ended
  | finished answer after =>
    cases answer with
    | ok between =>
      rw [bind_of_ok early] at ended
      exact ⟨between, after, rfl, ended⟩
    | error fault =>
      rw [bind_of_error early] at ended
      cases ended

/-- Fails. -/
def fail (fault : Fault) : Computation α :=
  fun world => .finished (.error fault) world

/-- Gives no answer. -/
def unanswered : Computation α :=
  fun _ => .unanswered

/-- Goes on after a fault as after a result. -/
def attempt (computation : Computation α) : Computation (Except Fault α) :=
  fun world =>
    match computation world with
    | .finished answer after => .finished (.ok answer) after
    | .unanswered => .unanswered

/-- Notes what happened. -/
def record (event : Event) : Computation Unit :=
  fun world => .finished (.ok ()) (world.record event)

/-- The result of asking the world. -/
def ask (question : World → α) : Computation α :=
  fun world => .finished (.ok (question world)) world

/-- Changes the world. -/
def change (update : World → World) : Computation Unit :=
  fun world => .finished (.ok ()) (update world)

/-- Makes a function a new object. -/
def allocate (contract : Contract 1) : Computation Address :=
  fun world =>
    .finished (.ok world.functions.size)
      { world with functions := world.functions.push contract }

/-- The function at an address. -/
def lookup (address : Address) : Computation (Contract 1) :=
  fun world =>
    match world.functions[address]? with
    | some contract => .finished (.ok contract) world
    | none => .unanswered

end Computation

end Erasure
