/-
This file defines programs, what the bodies of functions do. A program ends with a
result or asks for something first: that a function be called, that a value be unboxed
or described, or that a memory cell of its own be read or written. Programs are data, so
that any behaviour can be the body of a function and a function can be given to another
one; what a request means is said where programs are run.

There are no requests to make an object, to transform a function or to call one of several
parameters. A value that a body is given can hold a function of one parameter only, and a
wider one that it holds on to by itself is called through the object that is left when the
earlier arguments are fixed. Objects are made and functions transformed between calls. Where
a law does not depend on what bodies may ask for, it is stated for leaves that answer by any
rule, which may do all of this.
-/

import Erasure.Native

namespace Erasure

/-- What the body of a function does to arrive at a result. -/
inductive Program (α : Type) : Type
  | done (result : α)
  /-- Calls a function on a value and goes on with what it answers. -/
  | call (function : Address) (argument : Value) (next : Except Fault Value → Program α)
  /-- Unboxes a value and goes on with what that gives. -/
  | unbox (type : NativeType) (value : Value)
    (next : Except KindMismatch type.Carrier → Program α)
  /-- Goes on with the plain text of a value. -/
  | describe (value : Value) (next : String → Program α)
  /-- Goes on with what a memory cell holds. -/
  | readCell (cell : Address) (next : Value → Program α)
  /-- Puts a value into a memory cell and goes on. -/
  | writeCell (cell : Address) (value : Value) (next : Program α)

namespace Program

variable {α β : Type}

/-- One program after the other. -/
def bind (program : Program α) (continuation : α → Program β) : Program β :=
  match program with
  | done result => continuation result
  | call function argument next =>
    call function argument fun answer => (next answer).bind continuation
  | unbox type value next => unbox type value fun answer => (next answer).bind continuation
  | describe value next => describe value fun text => (next text).bind continuation
  | readCell cell next => readCell cell fun value => (next value).bind continuation
  | writeCell cell value next => writeCell cell value (next.bind continuation)

instance : Monad Program where
  pure := done
  bind := bind

/-- Whether a program asks for nothing but its own memory. -/
def isSelfContained : Program α → Prop
  | done _ => True
  | call _ _ _ | unbox _ _ _ | describe _ _ => False
  | readCell _ next => ∀ value, (next value).isSelfContained
  | writeCell _ _ next => next.isSelfContained

end Program

end Erasure
