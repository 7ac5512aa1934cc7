/-
This file proves where the fault of a call comes from. A contract is a tree whose leaves
may behave in any way. Keeping account of the leaves that are called shows that no leaf is
called twice, that all calls but the last one returned a result, and that a fault is
either the fault of that last call, handed on unchanged, or was raised because a tupled
part of the contract was not given a fitting tuple. Nothing in between wraps a fault,
replaces it, goes on after it or tries again.
-/

import Erasure.Proofs.Building
import Erasure.Proofs.Tupling
import Mathlib.Data.List.Nodup

namespace Erasure

/-! ### The leaves of a contract -/

/-- The two parts of a sequence. -/
inductive Part
  | first
  | second
  deriving DecidableEq

/-- A leaf and its place in a contract, which says for every sequence around the leaf, from the
outside to the inside, the part that the leaf belongs to. -/
structure Occurrence where
  place : List Part
  arity : Nat
  function : Leaf arity

/-- The leaf as it occurs in a sequence that has the contract around it for a part. -/
def Occurrence.within (part : Part) (occurrence : Occurrence) : Occurrence :=
  { occurrence with place := part :: occurrence.place }

namespace Contract

/-- The leaves of a contract, those of the first part of a sequence before those of the second. -/
def leaves : {arity : Nat} → Contract arity → List Occurrence
  | arity, leaf function => [⟨[], arity, function⟩]
  | _, forward _ inner => inner.leaves
  | _, sequence first second =>
    first.leaves.map (Occurrence.within .first) ++ second.leaves.map (Occurrence.within .second)
  | _, tupled inner => inner.leaves
  | _, curried inner => inner.leaves
  | _, bound inner _ => inner.leaves

theorem map_place_within (part : Part) (occurrences : List Occurrence) :
    (occurrences.map (Occurrence.within part)).map Occurrence.place =
      (occurrences.map Occurrence.place).map (part :: ·) := by
  rw [List.map_map, List.map_map]
  rfl

/-- No two leaves have the same place. -/
theorem nodup_places {arity : Nat} (contract : Contract arity) :
    (contract.leaves.map Occurrence.place).Nodup := by
  induction contract with
  | leaf function => exact List.nodup_singleton _
  | sequence first second firstNodup secondNodup =>
    rw [leaves, List.map_append, map_place_within, map_place_within, List.nodup_append]
    refine ⟨firstNodup.map (List.cons_injective), secondNodup.map (List.cons_injective), ?_⟩
    intro place inFirst other inSecond same
    obtain ⟨_, _, rfl⟩ := List.mem_map.mp inFirst
    obtain ⟨_, _, rfl⟩ := List.mem_map.mp inSecond
    cases same
  | _ => assumption

end Contract

/-! ### Keeping account of the leaves that are called -/

/-- A call of a leaf, with the arguments and the world that it is given. -/
structure LeafCall where
  occurrence : Occurrence
  arguments : Row Value occurrence.arity
  before : World

namespace LeafCall

/-- How a call of a leaf comes out. -/
def outcome (rule : LeafRule) (call : LeafCall) : Outcome Value :=
  rule call.occurrence.arity call.occurrence.function call.arguments call.before

/-- A call of a leaf returns a result. -/
def Returns (rule : LeafRule) (call : LeafCall) : Prop :=
  ∃ result after, call.outcome rule = .finished (.ok result) after

/-- The call of the leaf as it occurs in a sequence. -/
def within (part : Part) (call : LeafCall) : LeafCall :=
  ⟨call.occurrence.within part, call.arguments, call.before⟩

end LeafCall

/-- The account of a call: the calls of leaves that were made for it, in order, and how it came
out. -/
structure Account where
  calls : List LeafCall
  outcome : Outcome Value

namespace Account

/-- The account of the call of a part of a sequence. -/
def within (part : Part) (account : Account) : Account :=
  ⟨account.calls.map (LeafCall.within part), account.outcome⟩

/-- Goes on with the result of a call, if there is one. -/
def andThen (account : Account) (next : Value → World → Account) : Account :=
  match account.outcome with
  | .finished (.ok result) after =>
    ⟨account.calls ++ (next result after).calls, (next result after).outcome⟩
  | .finished (.error _) _ | .unanswered => account

theorem returns_or_not (account : Account) :
    (∃ result after, account.outcome = .finished (.ok result) after) ∨
      ∀ result after, account.outcome ≠ .finished (.ok result) after := by
  by_cases returned : ∃ result after, account.outcome = .finished (.ok result) after
  · exact Or.inl returned
  · exact Or.inr fun result after ended => returned ⟨result, after, ended⟩

theorem andThen_of_ok {account : Account} {result : Value} {after : World}
    (returned : account.outcome = .finished (.ok result) after) (next : Value → World → Account) :
    account.andThen next =
      ⟨account.calls ++ (next result after).calls, (next result after).outcome⟩ := by
  rw [andThen, returned]

theorem andThen_of_not_ok {account : Account}
    (failed : ∀ result after, account.outcome ≠ .finished (.ok result) after)
    (next : Value → World → Account) : account.andThen next = account := by
  unfold andThen
  split
  · exact absurd ‹account.outcome = _› (failed _ _)
  · rfl
  · rfl

end Account

namespace Contract

/-- Calls a contract whose leaves answer by the given rule, and keeps account of it. -/
def account (bound : CurryBound) (rule : LeafRule) : {arity : Nat} → Contract arity →
    Row Value arity → World → Account
  | arity, leaf function, arguments, world =>
    ⟨[⟨⟨[], arity, function⟩, arguments, world⟩], rule arity function arguments world⟩
  | _, forward _ inner, arguments, world => inner.account bound rule arguments world
  | _, sequence first second, arguments, world =>
    ((first.account bound rule arguments world).within .first).andThen fun between after =>
      (second.account bound rule (.single between) after).within .second
  | _, @tupled arity inner, .cons value .nil, world =>
    match argumentsOfTuple arity value with
    | .ok arguments => inner.account bound rule arguments world
    | .error fault => ⟨[], .finished (.error fault) world⟩
  | _, curried inner, .cons value .nil, world =>
    let link : Computation Value := do
      let rest ← Handle.share (Contract.bound inner value)
      return .func (← rest.curried bound)
    ⟨[], link world⟩
  | _, Contract.bound inner first, rest, world =>
    inner.account bound rule (.cons first rest) world

/-- A computation that does not end with a result is the end of what is done. -/
theorem bind_of_not_ok {computation : Computation Value} {world : World}
    (failed : ∀ result after, computation world ≠ .finished (.ok result) after)
    (next : Value → Computation Value) : (computation >>= next) world = computation world := by
  cases ended : computation world with
  | unanswered => exact Computation.bind_of_unanswered ended next
  | finished answer after =>
    cases answer with
    | ok result => exact absurd ended (failed result after)
    | error fault => exact Computation.bind_of_error ended next

/-- Keeping account does not change how a call comes out. -/
theorem outcome_account (bound : CurryBound) (rule : LeafRule) {arity : Nat}
    (contract : Contract arity) (arguments : Row Value arity) (world : World) :
    (contract.account bound rule arguments world).outcome =
      contract.applyWith bound rule arguments world := by
  induction contract generalizing world with
  | leaf function => rfl
  | forward pointer inner inductionHypothesis => exact inductionHypothesis arguments world
  | sequence first second firstOutcome secondOutcome =>
    have early : ((first.account bound rule arguments world).within .first).outcome =
      first.applyWith bound rule arguments world := firstOutcome arguments world
    rw [account, applyWith]
    rcases Account.returns_or_not ((first.account bound rule arguments world).within .first) with
      ⟨between, after, returned⟩ | failed
    · rw [Account.andThen_of_ok returned, Computation.bind_of_ok (early.symm.trans returned)]
      exact secondOutcome (.single between) after
    · rw [Account.andThen_of_not_ok failed, bind_of_not_ok (early ▸ failed)]
      exact early
  | @tupled arity inner inductionHypothesis =>
    obtain _ | ⟨value, _ | _⟩ := arguments
    rw [account, applyWith]
    cases argumentsOfTuple arity value with
    | ok items => exact inductionHypothesis items world
    | error fault => rfl
  | curried inner =>
    obtain _ | ⟨value, _ | _⟩ := arguments
    rfl
  | bound inner first inductionHypothesis =>
    exact inductionHypothesis (.cons first arguments) world

theorem map_occurrence_within (part : Part) (calls : List LeafCall) :
    (calls.map (LeafCall.within part)).map LeafCall.occurrence =
      (calls.map LeafCall.occurrence).map (Occurrence.within part) := by
  rw [List.map_map, List.map_map]
  rfl

/-- The leaves that are called are leaves of the contract, each called once at most and in order. -/
theorem calls_account_sublist (bound : CurryBound) (rule : LeafRule) {arity : Nat}
    (contract : Contract arity) (arguments : Row Value arity) (world : World) :
    ((contract.account bound rule arguments world).calls.map LeafCall.occurrence).Sublist
      contract.leaves := by
  induction contract generalizing world with
  | leaf function => exact .refl _
  | forward pointer inner inductionHypothesis => exact inductionHypothesis arguments world
  | sequence first second firstSublist secondSublist =>
    have early := (firstSublist arguments world).map (Occurrence.within .first)
    rw [← map_occurrence_within] at early
    rw [account]
    rcases Account.returns_or_not ((first.account bound rule arguments world).within .first) with
      ⟨between, after, returned⟩ | failed
    · have late := (secondSublist (.single between) after).map (Occurrence.within .second)
      rw [← map_occurrence_within] at late
      rw [Account.andThen_of_ok returned, List.map_append]
      exact early.append late
    · rw [Account.andThen_of_not_ok failed]
      exact early.trans (List.sublist_append_left _ _)
  | @tupled arity inner inductionHypothesis =>
    obtain _ | ⟨value, _ | _⟩ := arguments
    rw [account]
    cases argumentsOfTuple arity value with
    | ok items => exact inductionHypothesis items world
    | error fault => exact List.nil_sublist _
  | curried inner =>
    obtain _ | ⟨value, _ | _⟩ := arguments
    exact List.nil_sublist _
  | bound inner first inductionHypothesis =>
    exact inductionHypothesis (.cons first arguments) world

theorem account_congr (bound : CurryBound) {rule other : LeafRule} {arity : Nat}
    (contract : Contract arity) (arguments : Row Value arity) (world : World)
    (agree : ∀ call ∈ (contract.account bound rule arguments world).calls,
      call.outcome other = call.outcome rule) :
    contract.account bound other arguments world = contract.account bound rule arguments world := by
  induction contract generalizing world with
  | leaf function =>
    have same : other _ function arguments world = rule _ function arguments world :=
      agree _ (List.mem_singleton.mpr rfl)
    rw [account, account, same]
  | forward pointer inner inductionHypothesis => exact inductionHypothesis arguments world agree
  | sequence first second firstSame secondSame =>
    rw [account] at agree
    rw [account, account]
    rcases Account.returns_or_not ((first.account bound rule arguments world).within .first) with
      ⟨between, after, returned⟩ | failed
    · rw [Account.andThen_of_ok returned] at agree
      obtain ⟨early, late⟩ := List.forall_mem_append.mp agree
      have firstKept := firstSame arguments world fun call member =>
        early (call.within .first) (List.mem_map_of_mem member)
      have secondKept := secondSame (.single between) after fun call member =>
        late (call.within .second) (List.mem_map_of_mem member)
      rw [firstKept, Account.andThen_of_ok returned, Account.andThen_of_ok returned, secondKept]
    · rw [Account.andThen_of_not_ok failed] at agree
      have firstKept := firstSame arguments world fun call member =>
        agree (call.within .first) (List.mem_map_of_mem member)
      rw [firstKept, Account.andThen_of_not_ok failed, Account.andThen_of_not_ok failed]
  | @tupled arity inner inductionHypothesis =>
    obtain _ | ⟨value, _ | _⟩ := arguments
    rw [account] at agree
    rw [account, account]
    cases fits : argumentsOfTuple arity value with
    | ok items =>
      rw [fits] at agree
      exact inductionHypothesis items world agree
    | error fault => rfl
  | curried inner =>
    obtain _ | ⟨value, _ | _⟩ := arguments
    rfl
  | bound inner first inductionHypothesis =>
    exact inductionHypothesis (.cons first arguments) world agree

/-- What leaves would answer to calls that are not in the account plays no part. -/
theorem applyWith_congr (bound : CurryBound) {rule other : LeafRule} {arity : Nat}
    (contract : Contract arity) (arguments : Row Value arity) (world : World)
    (agree : ∀ call ∈ (contract.account bound rule arguments world).calls,
      call.outcome other = call.outcome rule) :
    contract.applyWith bound other arguments world =
      contract.applyWith bound rule arguments world := by
  rw [← outcome_account, ← outcome_account, contract.account_congr bound arguments world agree]

end Contract

/-! ### Where faults come from -/

namespace Account

/-- A call that hands on what the leaves answer goes in one of four ways. All leaves that it called
returned a result, and it returns a result or raises a fault of its own; or all but the last one
returned a result, and the call ends as that one did. -/
inductive Straight (rule : LeafRule) (own : Fault → Prop) : List LeafCall → Outcome Value → Prop
  | returns {calls : List LeafCall} {result : Value} {after : World}
    (returned : ∀ call ∈ calls, call.Returns rule) :
    Straight rule own calls (.finished (.ok result) after)
  | raises {calls : List LeafCall} {fault : Fault} {after : World}
    (returned : ∀ call ∈ calls, call.Returns rule) (raised : own fault) :
    Straight rule own calls (.finished (.error fault) after)
  | fails {calls : List LeafCall} {last : LeafCall} {fault : Fault} {after : World}
    (returned : ∀ call ∈ calls, call.Returns rule)
    (failed : last.outcome rule = .finished (.error fault) after) :
    Straight rule own (calls ++ [last]) (.finished (.error fault) after)
  | stops {calls : List LeafCall} {last : LeafCall}
    (returned : ∀ call ∈ calls, call.Returns rule) (stuck : last.outcome rule = .unanswered) :
    Straight rule own (calls ++ [last]) .unanswered

namespace Straight

variable {rule : LeafRule} {own : Fault → Prop} {calls : List LeafCall} {outcome : Outcome Value}

theorem of_leaf (call : LeafCall) : Straight rule own [call] (call.outcome rule) := by
  cases ended : call.outcome rule with
  | unanswered => exact stops (List.forall_mem_nil _) ended
  | finished answer after =>
    cases answer with
    | ok result => exact returns (List.forall_mem_singleton.mpr ⟨result, after, ended⟩)
    | error fault => exact fails (List.forall_mem_nil _) ended

theorem mono {more : Fault → Prop} (straight : Straight rule own calls outcome)
    (implied : ∀ fault, own fault → more fault) : Straight rule more calls outcome := by
  cases straight with
  | returns returned => exact returns returned
  | raises returned raised => exact raises returned (implied _ raised)
  | fails returned failed => exact fails returned failed
  | stops returned stuck => exact stops returned stuck

/-- Where a call of a leaf occurs does not matter to how it comes out. -/
theorem within (straight : Straight rule own calls outcome) (part : Part) :
    Straight rule own (calls.map (LeafCall.within part)) outcome := by
  have kept {others : List LeafCall} (returned : ∀ call ∈ others, call.Returns rule) :
      ∀ call ∈ others.map (LeafCall.within part), call.Returns rule := by
    intro call member
    obtain ⟨other, listed, rfl⟩ := List.mem_map.mp member
    exact returned other listed
  cases straight with
  | returns returned => exact returns (kept returned)
  | raises returned raised => exact raises (kept returned) raised
  | fails returned failed =>
    rw [List.map_append]
    exact fails (kept returned) failed
  | stops returned stuck =>
    rw [List.map_append]
    exact stops (kept returned) stuck

/-- A call goes on as straight as it began. -/
theorem append {more : List LeafCall} {last : Outcome Value}
    (first : ∀ call ∈ calls, call.Returns rule) (second : Straight rule own more last) :
    Straight rule own (calls ++ more) last := by
  have both {others : List LeafCall} (returned : ∀ call ∈ others, call.Returns rule) :
      ∀ call ∈ calls ++ others, call.Returns rule :=
    List.forall_mem_append.mpr ⟨first, returned⟩
  cases second with
  | returns returned => exact returns (both returned)
  | raises returned raised => exact raises (both returned) raised
  | fails returned failed =>
    rw [← List.append_assoc]
    exact fails (both returned) failed
  | stops returned stuck =>
    rw [← List.append_assoc]
    exact stops (both returned) stuck

/-- If a call returned a result, so did all leaves that it called. -/
theorem all_return {result : Value} {after : World}
    (straight : Straight rule own calls (.finished (.ok result) after)) :
    ∀ call ∈ calls, call.Returns rule := by
  cases straight with
  | returns returned => exact returned

/-- A call that goes on straight after a result is straight. -/
theorem andThen {account : Account} {next : Value → World → Account}
    (early : Straight rule own account.calls account.outcome)
    (late : ∀ result after, account.outcome = .finished (.ok result) after →
      Straight rule own (next result after).calls (next result after).outcome) :
    Straight rule own (account.andThen next).calls (account.andThen next).outcome := by
  rcases account.returns_or_not with ⟨result, after, ended⟩ | failed
  · rw [ended] at early
    rw [andThen_of_ok ended]
    exact append early.all_return (late result after ended)
  · rw [andThen_of_not_ok failed]
    exact early

/-- All calls of leaves but the last one returned a result. -/
theorem all_but_last_return (straight : Straight rule own calls outcome) :
    ∀ call ∈ calls.dropLast, call.Returns rule := by
  have kept (returned : ∀ call ∈ calls, call.Returns rule) :
      ∀ call ∈ calls.dropLast, call.Returns rule :=
    fun call member => returned call (List.dropLast_subset _ member)
  cases straight with
  | returns returned => exact kept returned
  | raises returned _ => exact kept returned
  | fails returned _ =>
    rw [List.dropLast_concat]
    exact returned
  | stops returned _ =>
    rw [List.dropLast_concat]
    exact returned

/-- The fault of the last call of a leaf is the answer. -/
theorem outcome_of_last (straight : Straight rule own calls outcome) {last : LeafCall}
    (listed : last ∈ calls.getLast?) {fault : Fault} {after : World}
    (failed : last.outcome rule = .finished (.error fault) after) :
    outcome = .finished (.error fault) after := by
  have notReturned {others : List LeafCall} (returned : ∀ call ∈ others, call.Returns rule)
      (among : last ∈ others.getLast?) : False := by
    obtain ⟨result, later, ended⟩ := returned last (List.mem_of_getLast? among)
    rw [failed] at ended
    cases ended
  cases straight with
  | returns returned => exact (notReturned returned listed).elim
  | raises returned _ => exact (notReturned returned listed).elim
  | fails _ otherFailed =>
    rw [List.getLast?_concat] at listed
    cases listed
    exact otherFailed.symm.trans failed
  | stops _ stuck =>
    rw [List.getLast?_concat] at listed
    cases listed
    exact stuck.symm.trans failed

/-- A fault that is that of no leaf was raised on the way. -/
theorem raised_of_all_return {fault : Fault} {after : World}
    (straight : Straight rule own calls (.finished (.error fault) after))
    (returned : ∀ call ∈ calls, call.Returns rule) : own fault := by
  cases straight with
  | raises _ raised => exact raised
  | @fails _ last _ _ _ failed =>
    obtain ⟨result, later, ended⟩ := returned last (List.mem_concat_self)
    rw [failed] at ended
    cases ended

end Straight

end Account

namespace Contract

/-- All curried parts of a contract have an arity that can be curried. -/
def Curriable (limit : CurryBound) : {arity : Nat} → Contract arity → Prop
  | _, leaf _ => True
  | _, forward _ inner => inner.Curriable limit
  | _, sequence first second => first.Curriable limit ∧ second.Curriable limit
  | _, tupled inner => inner.Curriable limit
  | _, @curried fewer inner => limit.supports (fewer + 2) = true ∧ inner.Curriable limit
  | _, bound inner _ => inner.Curriable limit

/-- A call of a contract comes to check, for a tupled part of it, whether a value is a tuple of the
given length. -/
inductive Checks (limit : CurryBound) (rule : LeafRule) (length : Nat) (value : Value) :
    {arity : Nat} → Contract arity → Row Value arity → World → Prop
  | here {inner : Contract length} {world : World} :
    Checks limit rule length value (.tupled inner) (.single value) world
  | inside {arity : Nat} {inner : Contract arity} {arguments : Row Value arity} {world : World}
    (checks : Checks limit rule length value inner arguments world) :
    Checks limit rule length value (.tupled inner) (.single (.tuple arguments.toList)) world
  | forward {arity : Nat} {pointer : Pointer} {inner : Contract arity}
    {arguments : Row Value arity} {world : World}
    (checks : Checks limit rule length value inner arguments world) :
    Checks limit rule length value (.forward pointer inner) arguments world
  | first {first second : Contract 1} {arguments : Row Value 1} {world : World}
    (checks : Checks limit rule length value first arguments world) :
    Checks limit rule length value (.sequence first second) arguments world
  | second {first second : Contract 1} {arguments : Row Value 1} {world after : World}
    {between : Value}
    (returned : first.applyWith limit rule arguments world = .finished (.ok between) after)
    (checks : Checks limit rule length value second (.single between) after) :
    Checks limit rule length value (.sequence first second) arguments world
  | bound {arity : Nat} {inner : Contract (arity + 2)} {first : Value}
    {rest : Row Value (arity + 1)} {world : World}
    (checks : Checks limit rule length value inner (.cons first rest) world) :
    Checks limit rule length value (.bound inner first) rest world

/-- The faults that a call of a contract may raise of its own, if all that is curried in it could be
curried: a tupled part is given something else than a tuple of its length. -/
def Raises (limit : CurryBound) (rule : LeafRule) {arity : Nat} (contract : Contract arity)
    (arguments : Row Value arity) (world : World) (fault : Fault) : Prop :=
  contract.Curriable limit → ∃ length value,
    Checks limit rule length value contract arguments world ∧ Misshapen length value fault

/-- A curried form that is called makes a link, or is refused if it could not have been made. -/
theorem curried_straight {limit : CurryBound} {rule : LeafRule} {fewer : Nat}
    (inner : Contract (fewer + 2)) (value : Value) (world : World) :
    Account.Straight rule ((curried inner).Raises limit rule (.single value) world) []
      ((curried inner).applyWith limit rule (.single value) world) := by
  rw [applyWith_curried_eq]
  cases supported : limit.supports (fewer + 1) with
  | true =>
    rw [if_pos rfl, Computation.bind_of_ok (Computation.allocate_eq _ world)]
    exact .returns (List.forall_mem_nil _)
  | false =>
    rw [if_neg Bool.false_ne_true]
    refine .raises (List.forall_mem_nil _) fun curriable => ?_
    have impossible := CurryBound.supports_of_le (Nat.le_add_left 1 fewer) (by omega) curriable.1
    rw [supported] at impossible
    cases impossible

/-- Every call of a contract hands on what its leaves answer. -/
theorem account_straight (limit : CurryBound) (rule : LeafRule) {arity : Nat}
    (contract : Contract arity) (arguments : Row Value arity) (world : World) :
    Account.Straight rule (contract.Raises limit rule arguments world)
      (contract.account limit rule arguments world).calls
      (contract.account limit rule arguments world).outcome := by
  -- A leaf is the only node at which a call can end as that of a leaf does, and a tupled node the
  -- only one that raises a fault of its own. The other nodes hand on how their parts end.
  induction contract generalizing world with
  | leaf function => exact .of_leaf _
  | forward pointer inner inductionHypothesis =>
    refine (inductionHypothesis arguments world).mono fun fault raised curriable => ?_
    obtain ⟨length, value, checks, misshapen⟩ := raised curriable
    exact ⟨length, value, .forward checks, misshapen⟩
  | sequence first second firstStraight secondStraight =>
    rw [account]
    refine .andThen ?_ fun between after ended => ?_
    · refine ((firstStraight arguments world).within .first).mono fun fault raised curriable => ?_
      obtain ⟨length, value, checks, misshapen⟩ := raised curriable.1
      exact ⟨length, value, .first checks, misshapen⟩
    · have returned : first.applyWith limit rule arguments world = .finished (.ok between) after :=
        (first.outcome_account limit rule arguments world).symm.trans ended
      refine ((secondStraight (.single between) after).within .second).mono
        fun fault raised curriable => ?_
      obtain ⟨length, value, checks, misshapen⟩ := raised curriable.2
      exact ⟨length, value, .second returned checks, misshapen⟩
  | @tupled arity inner inductionHypothesis =>
    obtain _ | ⟨given, _ | _⟩ := arguments
    rw [account]
    rcases exists_arguments_or_misshapen arity given with ⟨items, rfl⟩ | ⟨fault, misshapen⟩
    · rw [argumentsOfTuple_tuple]
      refine (inductionHypothesis items world).mono fun fault raised curriable => ?_
      obtain ⟨length, value, checks, misshapen⟩ := raised curriable
      exact ⟨length, value, .inside checks, misshapen⟩
    · rw [misshapen.argumentsOfTuple_eq]
      exact .raises (List.forall_mem_nil _) fun _ => ⟨arity, given, .here, misshapen⟩
  | curried inner =>
    obtain _ | ⟨value, _ | _⟩ := arguments
    exact inner.curried_straight value world
  | bound inner first inductionHypothesis =>
    refine (inductionHypothesis (.cons first arguments) world).mono fun fault raised curriable => ?_
    obtain ⟨length, value, checks, misshapen⟩ := raised curriable
    exact ⟨length, value, .bound checks, misshapen⟩

end Contract

/-- That everything curried could be curried is handed on. -/
theorem Inherited.curriable (bound : CurryBound) (leaves : LeafClass) :
    Inherited bound leaves (Contract.Curriable bound) where
  leaf _ := trivial
  forward _ := id
  sequence := And.intro
  tupled _ := id
  curried := And.intro
  fixed _ := id

/-- Every fault of a call has one origin, whatever the leaves are and however they behave. A call of
what the operations give comes out as its account says and asks leaves for nothing but the calls in
it. No leaf is called twice, and all calls of leaves but the last one return a result. The fault of
the last one is the answer as it is. If no leaf failed and the call did, then a tupled part was
given something else than a tuple of its length, and the fault says so: it is no refusal of a
transform and no failure of a body. -/
theorem Obtained.faults_have_origin {bound : CurryBound} {leaves : LeafClass} {world : World}
    {arity : Nat} {handle : Handle arity} (obtained : Obtained bound leaves world handle) :
    ∃ contract, handle.Holds world contract ∧
      (contract.leaves.map Occurrence.place).Nodup ∧
      ∀ (rule : LeafRule) (arguments : Row Value arity) (before : World),
        (contract.account bound rule arguments before).outcome =
          contract.applyWith bound rule arguments before ∧
        (∀ other : LeafRule,
          (∀ call ∈ (contract.account bound rule arguments before).calls,
            call.outcome other = call.outcome rule) →
          contract.applyWith bound other arguments before =
            contract.applyWith bound rule arguments before) ∧
        ((contract.account bound rule arguments before).calls.map LeafCall.occurrence).Sublist
          contract.leaves ∧
        (∀ call ∈ (contract.account bound rule arguments before).calls.dropLast,
          call.Returns rule) ∧
        (∀ call ∈ (contract.account bound rule arguments before).calls.getLast?,
          ∀ fault after, call.outcome rule = .finished (.error fault) after →
            contract.applyWith bound rule arguments before = .finished (.error fault) after) ∧
        ∀ fault after,
          contract.applyWith bound rule arguments before = .finished (.error fault) after →
          (∀ call ∈ (contract.account bound rule arguments before).calls, call.Returns rule) →
          (∃ length value, Contract.Checks bound rule length value contract arguments before ∧
            Misshapen length value fault) ∧
          (∀ refusal, fault ≠ .unsupported refusal) ∧ ∀ failure, fault ≠ .user failure := by
  obtain ⟨contract, held, curriable⟩ := obtained.inherits (.curriable bound leaves)
  refine ⟨contract, held, contract.nodup_places, fun rule arguments before => ?_⟩
  have same := contract.outcome_account bound rule arguments before
  have straight := contract.account_straight bound rule arguments before
  rw [same] at straight
  refine ⟨same, fun other => contract.applyWith_congr bound arguments before,
    contract.calls_account_sublist bound rule arguments before, straight.all_but_last_return,
    fun call listed fault after => straight.outcome_of_last listed, ?_⟩
  intro fault after ended returned
  rw [ended] at straight
  obtain ⟨length, value, checks, misshapen⟩ := straight.raised_of_all_return returned curriable
  refine ⟨⟨length, value, checks, misshapen⟩, ?_, ?_⟩
  · rintro refusal rfl
    cases misshapen
  · rintro failure rfl
    cases misshapen

/-- The square of the quotient of a pair of integers fails as the quotient does, and otherwise only
if it is not given a pair. -/
theorem Obtained.faults_have_origin_quotient :
    ∃ world, Obtained .standard (fun _ _ => True) world (.object 2) ∧
      ∃ contract, (Handle.object 2).Holds world contract ∧
        (∀ (rule : LeafRule) before fault after,
          rule 2 (.specialized (Catalog.divI32 "quotient")) (.pair (.i32 1) (.i32 0)) before =
            .finished (.error fault) after →
          contract.applyWith .standard rule (.single (.tuple [.i32 1, .i32 0])) before =
            .finished (.error fault) after) ∧
        ∀ rule before fault after,
          contract.applyWith .standard rule (.single (.i32 1)) before =
            .finished (.error fault) after →
          (∃ length value,
            Contract.Checks .standard rule length value contract (.single (.i32 1)) before ∧
            Misshapen length value fault) ∧
          (∀ refusal, fault ≠ .unsupported refusal) ∧ ∀ failure, fault ≠ .user failure := by
  have quotient : Obtained .standard (fun _ _ => True) {}
      (.wide (.leaf (.specialized (Catalog.divI32 "quotient")))) :=
    @Obtained.leaf _ _ 1 {} _ _ (.specialized (Catalog.divI32 "quotient")) trivial rfl
  have ofPairs : Obtained .standard (fun _ _ => True)
      (World.making {} [.tupled (.leaf (.specialized (Catalog.divI32 "quotient")))])
      (.object 0) :=
    quotient.tupled rfl
  have square : Obtained .standard (fun _ _ => True)
      (World.making {} [.tupled (.leaf (.specialized (Catalog.divI32 "quotient"))),
        .leaf (.specialized (Catalog.squareI32 "square"))]) (.object 1) :=
    @Obtained.leaf _ _ 0
      (World.making {} [.tupled (.leaf (.specialized (Catalog.divI32 "quotient")))]) _ _
      (.specialized (Catalog.squareI32 "square")) trivial rfl
  have both : Obtained .standard (fun _ _ => True) _ (.object 2) :=
    (ofPairs.earlier ⟨[_], rfl⟩).andThen square rfl
  refine ⟨_, both, ?_⟩
  obtain ⟨contract, held, _, calls⟩ := both.faults_have_origin
  cases held
  refine ⟨_, rfl, fun rule before fault after failed => ?_, fun rule before fault after ended => ?_⟩
  · obtain ⟨_, _, _, _, handsOn, _⟩ := calls rule (.single (.tuple [.i32 1, .i32 0])) before
    refine handsOn ⟨⟨[.first], 2, _⟩, .pair (.i32 1) (.i32 0), before⟩ ?_ fault after failed
    show _ ∈ (Account.andThen ⟨[_], rule 2 _ (.pair (.i32 1) (.i32 0)) before⟩ _).calls.getLast?
    rw [Account.andThen, failed]
    rfl
  · obtain ⟨_, _, _, _, _, raised⟩ := calls rule (.single (.i32 1)) before
    exact raised fault after ended (List.forall_mem_nil _)

end Erasure
