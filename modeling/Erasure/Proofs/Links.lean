/-
This file proves that the links of a curried form are persistent. Every link can be called
as often as one likes and in any order with the calls of the others, and each time it does
the same: with an argument that is not the last one it answers with a link that was not
there before and holds one argument more, and with the last one it calls the function.
What a link does is settled by the arguments it was obtained with, at all times.
-/

import Erasure.Proofs.Currying
import Erasure.Proofs.Trace

namespace Erasure

/-! ### Arguments that are fixed one at a time -/

namespace Contract

variable {arity : Nat} {contract : Contract arity}

/-- A contract is what is left of another one when the given arguments have been fixed. Unlike with
`supply` the argument that was fixed last is at hand, for that is how links are obtained. -/
inductive Remainder {arity : Nat} (contract : Contract arity) :
    List Value → {left : Nat} → Contract left → Prop
  | whole : Remainder contract [] contract
  | next {values : List Value} {left : Nat} {rest : Contract (left + 2)}
    (remains : Remainder contract values rest) (value : Value) :
    Remainder contract (values ++ [value]) (Contract.bound rest value)

/-- As many parameters are left as no argument has been fixed for. -/
theorem Remainder.left_add_length {values : List Value} {left : Nat} {rest : Contract left}
    (remains : contract.Remainder values rest) : left + values.length = arity := by
  induction remains with
  | whole => rfl
  | next remains value inductionHypothesis =>
    rw [List.length_append, List.length_singleton]
    omega

/-- Calling what is left is calling the contract with the fixed arguments in front. -/
theorem Remainder.applyWith_eq {values : List Value} {left : Nat} {rest : Contract left}
    (remains : contract.Remainder values rest) (bound : CurryBound) (rule : LeafRule)
    {others : Row Value left} {arguments : Row Value arity}
    (together : arguments.toList = values ++ others.toList) :
    rest.applyWith bound rule others = contract.applyWith bound rule arguments := by
  induction remains with
  | whole => rw [Row.toList_injective together]
  | next remains value inductionHypothesis =>
    refine @inductionHypothesis (.cons value others) ?_
    rw [together, Row.toList, List.append_assoc, List.singleton_append]

end Contract

/-! ### Links -/

/-- A function that was obtained from a curried form by giving it arguments one at a time. -/
structure Link where
  function : Address
  /-- The arguments, the first one first. -/
  arguments : List Value

/-- A link stands for a contract in a world if the function there is the curried form of what its
arguments leave of the contract. -/
def Link.StandsFor {arity : Nat} (link : Link) (contract : Contract arity) (now : World) : Prop :=
  ∃ fewer, ∃ rest : Contract (fewer + 1), contract.Remainder link.arguments rest ∧
    now.functions[link.function]? = some rest.link

/-- What can be done with the curried form of a function of so many parameters, and what links that
gives in which world. -/
inductive LinkRun (bound : CurryBound) (arity : Nat) (curried : Address) (start : World) :
    World → List Link → Prop
  /-- At first there is the curried form, which holds no argument. -/
  | start : LinkRun bound arity curried start start [⟨curried, []⟩]
  /-- Anything else may happen. -/
  | meanwhile {now later : World} {pool : List Link}
    (run : LinkRun bound arity curried start now pool) (extension : later.Extends now) :
    LinkRun bound arity curried start later pool
  /-- One of the links is given an argument that is not its last one. -/
  | extend {now after : World} {pool : List Link} {link : Link} {value : Value} {next : Address}
    {rule : LeafRule} (run : LinkRun bound arity curried start now pool) (member : link ∈ pool)
    (short : link.arguments.length + 1 < arity)
    (answered : callWith bound rule link.function value now = .finished (.ok (.func next)) after) :
    LinkRun bound arity curried start after (pool ++ [⟨next, link.arguments ++ [value]⟩])
  /-- One of the links is given its last argument. -/
  | complete {now after : World} {pool : List Link} {link : Link} {value : Value}
    {answer : Except Fault Value} {rule : LeafRule}
    (run : LinkRun bound arity curried start now pool) (member : link ∈ pool)
    (full : link.arguments.length + 1 = arity) (orderly : rule.Orderly)
    (answered : callWith bound rule link.function value now = .finished answer after) :
    LinkRun bound arity curried start after pool

namespace Link.StandsFor

variable {bound : CurryBound} {arity : Nat} {link : Link} {contract : Contract arity}
  {now : World}

theorem of_extends {later : World} (stands : link.StandsFor contract now)
    (extension : later.Extends now) : link.StandsFor contract later := by
  obtain ⟨fewer, rest, remains, found⟩ := stands
  exact ⟨fewer, rest, remains, extension.functions_eq found⟩

/-- The function of a link was made earlier than what is made next. -/
theorem function_lt (stands : link.StandsFor contract now) :
    link.function < now.functions.size := by
  obtain ⟨fewer, rest, remains, found⟩ := stands
  exact (Array.getElem?_eq_some_iff.mp found).1

theorem length_lt (stands : link.StandsFor contract now) : link.arguments.length < arity := by
  obtain ⟨fewer, rest, remains, found⟩ := stands
  have total := remains.left_add_length
  omega

/-- A link that is given an argument but not its last one answers with a new link that holds this
argument, too. How leaves answer has no part in it. -/
theorem call_short (stands : link.StandsFor contract now) (supported : bound.supports arity = true)
    (short : link.arguments.length + 1 < arity) (value : Value) :
    ∃ made, (∀ rule, callWith bound rule link.function value now =
        .finished (.ok (.func now.functions.size)) (now.making made)) ∧
      Link.StandsFor ⟨now.functions.size, link.arguments ++ [value]⟩ contract
        (now.making made) := by
  obtain ⟨fewer, rest, remains, found⟩ := stands
  have total := remains.left_add_length
  obtain ⟨fewer, rfl⟩ : ∃ less, fewer = less + 1 := ⟨fewer - 1, by omega⟩
  have restSupported : bound.supports (fewer + 2) = true :=
    CurryBound.supports_of_le (by omega) (by omega) supported
  refine ⟨[(Contract.bound rest value).link], fun rule => ?_, fewer, _, remains.next value,
    now.functions_making_size _⟩
  exact (callWith_eq found value).trans (rest.applyWith_curried restSupported rule value now)

/-- A link that is given its last argument calls the contract. -/
theorem call_full (stands : link.StandsFor contract now) {value : Value}
    {arguments : Row Value arity} (together : arguments.toList = link.arguments ++ [value])
    (rule : LeafRule) :
    callWith bound rule link.function value now = contract.applyWith bound rule arguments now := by
  obtain ⟨fewer, rest, remains, found⟩ := stands
  have total := remains.left_add_length
  have lengths := arguments.length_toList
  rw [together, List.length_append, List.length_singleton] at lengths
  obtain rfl : fewer = 0 := by omega
  rw [callWith_eq found]
  exact congrFun (remains.applyWith_eq bound rule together) now

end Link.StandsFor

/-! ### Runs -/

/-- Calls keep the objects if the leaves do. -/
theorem callWith_orderly {bound : CurryBound} {rule : LeafRule} (orderly : rule.Orderly) :
    (callWith bound rule).Orderly := fun function argument =>
  .bind (.lookup function) fun contract => contract.applyWith_orderly orderly (.single argument)

namespace LinkRun

variable {bound : CurryBound} {arity : Nat} {contract : Contract arity} {curried : Address}
  {start now : World} {pool : List Link}

/-- Whatever was done, every link stands for the contract. -/
theorem standsFor (run : LinkRun bound arity curried start now pool)
    (supported : bound.supports arity = true)
    (atFirst : Link.StandsFor ⟨curried, []⟩ contract start) :
    ∀ link ∈ pool, link.StandsFor contract now := by
  -- A step leaves the objects where they are, so that only a link that it adds needs a look.
  induction run with
  | start => exact List.forall_mem_singleton.mpr atFirst
  | meanwhile run extension inductionHypothesis =>
    exact fun link member => (inductionHypothesis link member).of_extends extension
  | @extend now after pool link value next rule run member short answered inductionHypothesis =>
    obtain ⟨made, expected, standsNext⟩ :=
      (inductionHypothesis link member).call_short supported short value
    rw [expected rule] at answered
    cases answered
    refine List.forall_mem_append.mpr ⟨fun other among => ?_, ?_⟩
    · exact (inductionHypothesis other among).of_extends (now.making_extends made)
    · exact List.forall_mem_singleton.mpr standsNext
  | complete run member full orderly answered inductionHypothesis =>
    have extension := (callWith_orderly orderly _ _).keeps answered
    exact fun other among => (inductionHypothesis other among).of_extends extension

end LinkRun

/-- The links of a curried form do not get into each other's way. Whatever was done with the curried
form and the links that it gave, in any order, every link still does what its arguments say. As long
as more than one argument is missing, it answers with a new link that holds one argument more, and
which is none of those obtained so far, whatever they hold; nothing is called for this. With the
last argument it calls the contract with all of them, in the order they were given. -/
theorem Link.persists {bound : CurryBound} {fewer : Nat} {handle : Handle (fewer + 2)}
    {contract : Contract (fewer + 2)} {world : World} (held : handle.Holds world contract)
    (supported : bound.supports (fewer + 2) = true) :
    ∃ curried start, handle.curried bound world = .finished (.ok curried) start ∧
      ∀ now pool, LinkRun bound (fewer + 2) curried start now pool → ∀ link ∈ pool,
        link.arguments.length < fewer + 2 ∧ ∀ value,
          (link.arguments.length + 1 < fewer + 2 →
            ∃ next made,
              (∀ rule, callWith bound rule link.function value now =
                .finished (.ok (.func next)) (now.making made)) ∧
              (∀ other ∈ pool, Value.same (.func next) (.func other.function) = false) ∧
              LinkRun bound (fewer + 2) curried start (now.making made)
                (pool ++ [⟨next, link.arguments ++ [value]⟩])) ∧
          (link.arguments.length + 1 = fewer + 2 →
            ∃ arguments : Row Value (fewer + 2), arguments.toList = link.arguments ++ [value] ∧
              ∀ rule, callWith bound rule link.function value now =
                contract.applyWith bound rule arguments now) := by
  obtain ⟨curried, objects, currying, found⟩ := Handle.curried_eq held supported
  refine ⟨curried, world.making objects, currying, fun now pool run link member => ?_⟩
  have stand := run.standsFor supported ⟨_, contract, .whole, found⟩
  have stands := stand link member
  refine ⟨stands.length_lt, fun value => ⟨fun short => ?_, fun full => ?_⟩⟩
  · obtain ⟨made, answered, _⟩ := stands.call_short supported short value
    refine ⟨_, made, answered, fun other among => ?_, ?_⟩
    · have earlier := (stand other among).function_lt
      simp only [Value.same, beq_eq_false_iff_ne]
      exact Nat.ne_of_gt earlier
    · exact run.extend member short (answered fun _ _ _ => Computation.unanswered)
  · obtain ⟨arguments, made⟩ : ∃ arguments : Row Value (fewer + 2),
        arguments.toList = link.arguments ++ [value] := by
      have length : (link.arguments ++ [value]).length = fewer + 2 := by
        rw [List.length_append, List.length_singleton, full]
      exact length ▸ ⟨Row.ofList _, Row.toList_ofList _⟩
    exact ⟨arguments, made, stands.call_full made⟩

/-- Given the first of three digits twice, the curried form of the number they make answers with two
links. One of them is given the second digit, and the link that this gives calls the function with
all three. -/
theorem Link.persists_digits :
    (Handle.wide (.leaf (.specialized (Catalog.digits "digits")))).Holds {}
        (.leaf (.specialized (Catalog.digits "digits"))) ∧
      CurryBound.standard.supports 3 = true ∧
      ∃ curried start,
        (Handle.wide (.leaf (.specialized (Catalog.digits "digits")))).curried .standard {} =
          .finished (.ok curried) start ∧
        ∃ first second third now,
          Value.same (.func second) (.func first) = false ∧
          LinkRun .standard 3 curried start now [⟨curried, []⟩, ⟨first, [.i32 1]⟩,
            ⟨second, [.i32 1]⟩, ⟨third, [.i32 1, .i32 2]⟩] ∧
          ∀ rule, callWith .standard rule third (.i32 3) now =
            (Contract.leaf (.specialized (Catalog.digits "digits"))).applyWith .standard rule
              (.triple (.i32 1) (.i32 2) (.i32 3)) now := by
  refine ⟨rfl, by decide, ?_⟩
  obtain ⟨curried, start, currying, links⟩ := @Link.persists .standard 1
    (.wide (.leaf (.specialized (Catalog.digits "digits")))) _ {} rfl (by decide)
  have atFirst (pool : List Link) : (⟨curried, []⟩ : Link) ∈ (⟨curried, []⟩ :: pool) :=
    List.mem_cons_self
  obtain ⟨first, made, _, _, run⟩ :=
    ((links _ _ .start _ (atFirst _)).2 (.i32 1)).1 (by simp)
  obtain ⟨second, more, _, new, again⟩ :=
    ((links _ _ run _ (atFirst _)).2 (.i32 1)).1 (by simp)
  obtain ⟨third, others, _, _, onwards⟩ :=
    ((links _ _ again ⟨first, [.i32 1]⟩ (.tail _ (.head _))).2 (.i32 2)).1 (by simp)
  obtain ⟨arguments, together, called⟩ :=
    ((links _ _ onwards ⟨third, [.i32 1, .i32 2]⟩ (List.mem_concat_self)).2 (.i32 3)).2 (by simp)
  obtain rfl : arguments = .triple (.i32 1) (.i32 2) (.i32 3) := Row.toList_injective together
  exact ⟨curried, start, currying, first, second, third, _, new ⟨first, _⟩ (.tail _ (.head _)),
    onwards, called⟩

end Erasure
