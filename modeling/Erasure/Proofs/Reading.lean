/-
This file proves which texts a signature is read from. They are those that a document is
written as, with blanks anywhere between its tokens, that spells the signature: an array of
the parameters and the result, or an object with one member for each of them among others,
where every kind is given by its name or by an object with that name. How a signature was
spelled cannot be told from what is read.
-/

import Erasure.Proofs.Lexemes
import Erasure.Proofs.Tokens
import Erasure.Signature.Json
import Mathlib.Data.List.Forall2
import Mathlib.Data.List.Perm.Basic

namespace Erasure

/-! ### Texts of documents -/

namespace Json

theorem endsValue_of_arrayNext {before : List Json} {outer : List Frame} {token : Token}
    {later : Reader} (advanced : advance token (.arrayNext before :: outer) = some later) :
    token.EndsValue := by
  cases token with
  | comma => exact Or.inl rfl
  | closeBracket => exact Or.inr (Or.inl rfl)
  | _ => cases advanced

theorem endsValue_of_objectNext {before : List (Option String × Json)} {outer : List Frame}
    {token : Token} {later : Reader}
    (advanced : advance token (.objectNext before :: outer) = some later) : token.EndsValue := by
  cases token with
  | comma => exact Or.inl rfl
  | closeBrace => exact Or.inr (Or.inr rfl)
  | _ => cases advanced

/-- Behind a value there is a comma or the end of its container. -/
theorem endsValue_of_step {frames : List Frame} {value : Json} {between later : Reader}
    {token : Token} (delivered : deliver value frames = some between)
    (stepped : between.step token = some later) : token.EndsValue := by
  unfold deliver at delivered
  split at delivered <;> cases delivered
  · cases stepped
  · exact endsValue_of_arrayNext stepped
  · exact endsValue_of_arrayNext stepped
  · exact endsValue_of_objectNext stepped

/-- In tokens that can be read at all, numbers end. -/
theorem numbersEnd_of_readAll {reader last : Reader} {tokens : List Token}
    (ended : reader.readAll tokens = some last) : NumbersEnd tokens := by
  induction tokens generalizing reader with
  | nil => exact trivial
  | cons token rest inductionHypothesis =>
    rw [Reader.readAll_cons, Option.bind_eq_some_iff] at ended
    obtain ⟨between, stepped, onwards⟩ := ended
    refine ⟨?_, inductionHypothesis onwards⟩
    rintro rfl next head
    cases rest with
    | nil => cases head
    | cons following others =>
      cases head
      rw [Reader.readAll_cons, Option.bind_eq_some_iff] at onwards
      obtain ⟨later, steppedNext, _⟩ := onwards
      -- A number is a value, and something was being read as another token came before it.
      cases reader with
      | reading frames => exact @endsValue_of_step _ .number _ _ _ stepped steppedNext
      | complete document => cases stepped

/-- A text is a document if it is written with the tokens of the document. -/
theorem ofText?_eq_some_iff {text : String} {document : Json} :
    ofText? text = some document ↔ Written text.toList document.tokens := by
  rw [ofText?, Option.bind_eq_some_iff]
  constructor
  · rintro ⟨tokens, cut, made⟩
    rw [ofTokens?_eq_some_iff] at made
    rw [← made]
    exact tokens?_sound cut
  · intro written
    have ended : (Reader.reading []).readAll document.tokens = some (.complete document) :=
      readAll_tokens document rfl
    exact ⟨_, tokens?_of_written written (numbersEnd_of_readAll ended),
      ofTokens?_eq_some_iff.mpr rfl⟩

end Json

/-! ### Documents of kinds -/

namespace Kind

/-- The two ways to spell a kind. -/
inductive Spelled (kind : Kind) : Json → Prop
  | name : Spelled kind (.string (some kind.name))
  | object : Spelled kind (.object [(some kind.name, .null)])

theorem ofJson?_eq_some_iff {document : Json} {kind : Kind} :
    ofJson? document = some kind ↔ kind.Spelled document := by
  constructor
  · intro read
    unfold ofJson? at read
    split at read
    · rw [ofName?_eq_some_iff] at read
      subst read
      exact .name
    · rw [ofName?_eq_some_iff] at read
      subst read
      exact .object
    · cases read
  · rintro (_ | _) <;> exact ofName?_name kind

/-- Kinds are read one after the other. -/
theorem mapM_ofJson?_eq_some_iff {items : List Json} {kinds : List Kind} :
    items.mapM ofJson? = some kinds ↔ List.Forall₂ Spelled kinds items := by
  induction items generalizing kinds with
  | nil => simp [eq_comm]
  | cons item rest inductionHypothesis =>
    simp only [List.mapM_cons, Option.bind_eq_bind, Option.bind_eq_some_iff, Option.pure_def,
      Option.some.injEq, ofJson?_eq_some_iff, inductionHypothesis]
    constructor
    · rintro ⟨kind, first, others, more, rfl⟩
      exact .cons first more
    · intro all
      cases all with
      | cons first more => exact ⟨_, first, _, more, rfl⟩

end Kind

/-! ### Documents of signatures -/

namespace Signature

/-- A member that has nothing to do with the signature. It has a name of its own; a key that holds
half of a pair of codes is no name, and no signature is read from an object with such a key. -/
def Unrelated (member : Option String × Json) : Prop :=
  ∃ name, member.1 = some name ∧ name ≠ paramsKey ∧ name ≠ resultKey

/-- The ways to spell a signature. -/
inductive Spelled (signature : Signature) : Json → Prop
  | array {items : List Json} {result : Json}
    (params : List.Forall₂ Kind.Spelled signature.params items)
    (returned : signature.result.Spelled result) : Spelled signature (.array [.array items, result])
  | object {items : List Json} {result : Json} {members others : List (Option String × Json)}
    (params : List.Forall₂ Kind.Spelled signature.params items)
    (returned : signature.result.Spelled result)
    (unrelated : ∀ member ∈ others, Unrelated member)
    (order : members.Perm ((some paramsKey, .array items) :: (some resultKey, result) :: others)) :
    Spelled signature (.object members)

/-- A signature is read from two parts if the first is an array that spells the parameters and the
second spells the result. -/
theorem ofParts?_eq_some_iff {params result : Json} {signature : Signature} :
    ofParts? params result = some signature ↔
      ∃ items, params = .array items ∧ List.Forall₂ Kind.Spelled signature.params items ∧
        signature.result.Spelled result := by
  obtain ⟨kinds, kind⟩ := signature
  simp only [ofParts?, Option.bind_eq_bind, Option.bind_eq_some_iff, Option.pure_def,
    Option.some.injEq, Signature.mk.injEq, Kind.ofJson?_eq_some_iff]
  constructor
  · rintro ⟨found, read, other, spelled, rfl, rfl⟩
    unfold paramsOfJson? at read
    split at read
    · next items => exact ⟨items, rfl, Kind.mapM_ofJson?_eq_some_iff.mp read, spelled⟩
    · cases read
  · rintro ⟨items, rfl, all, spelled⟩
    exact ⟨kinds, Kind.mapM_ofJson?_eq_some_iff.mpr all, kind, spelled, rfl, rfl⟩

theorem membersOf_cons_self (key : String) (value : Json) (members : List (Option String × Json)) :
    membersOf key ((some key, value) :: members) = value :: membersOf key members := by
  rw [membersOf, List.filterMap_cons, if_pos rfl]
  rfl

theorem membersOf_cons_other {key : String} {member : Option String × Json}
    (other : member.1 ≠ some key) (members : List (Option String × Json)) :
    membersOf key (member :: members) = membersOf key members := by
  rw [membersOf, List.filterMap_cons, if_neg other]
  rfl

theorem membersOf_eq_nil_iff {key : String} {members : List (Option String × Json)} :
    membersOf key members = [] ↔ ∀ member ∈ members, member.1 ≠ some key := by
  rw [membersOf, List.filterMap_eq_nil_iff]
  simp

/-- The members with a key stay the same up to order if all members do. -/
theorem membersOf_perm {first second : List (Option String × Json)} (order : first.Perm second)
    (key : String) : (membersOf key first).Perm (membersOf key second) :=
  order.filterMap _

/-- There is one member with a key if it stands among others that do not have it. -/
theorem membersOf_eq_singleton_iff {key : String} {members : List (Option String × Json)}
    {value : Json} : membersOf key members = [value] ↔ ∃ others,
      members.Perm ((some key, value) :: others) ∧ ∀ member ∈ others, member.1 ≠ some key := by
  constructor
  · intro only
    obtain ⟨before, ⟨found, content⟩, behind, rfl, earlier, here, later⟩ :=
      List.filterMap_eq_cons_iff.mp only
    have same : found = some key ∧ content = value := by simpa using here
    obtain ⟨rfl, rfl⟩ := same
    refine ⟨before ++ behind, List.perm_middle, List.forall_mem_append.mpr ⟨?_, ?_⟩⟩
    · intro member among has
      simpa [has] using earlier member among
    · exact membersOf_eq_nil_iff.mp later
  · rintro ⟨others, order, without⟩
    have same := membersOf_perm order key
    rw [membersOf_cons_self, membersOf_eq_nil_iff.mpr without] at same
    exact List.perm_singleton.mp same

theorem paramsKey_ne_resultKey : paramsKey ≠ resultKey := by decide

/-- An object holds the two parts of a signature once each if all other members are unrelated. -/
theorem members_iff {members : List (Option String × Json)} {params result : Json} :
    (∀ member ∈ members, member.1.isSome = true) ∧ membersOf paramsKey members = [params] ∧
        membersOf resultKey members = [result] ↔
      ∃ others, (∀ member ∈ others, Unrelated member) ∧
        members.Perm ((some paramsKey, params) :: (some resultKey, result) :: others) := by
  have otherKey : (some paramsKey : Option String) ≠ some resultKey :=
    fun same => paramsKey_ne_resultKey (Option.some.inj same)
  constructor
  · rintro ⟨named, onlyParams, onlyResult⟩
    obtain ⟨rest, order, noParams⟩ := membersOf_eq_singleton_iff.mp onlyParams
    have restResult := membersOf_perm order resultKey
    rw [onlyResult, membersOf_cons_other otherKey] at restResult
    obtain ⟨others, orderRest, noResult⟩ :=
      membersOf_eq_singleton_iff.mp (List.perm_singleton.mp restResult.symm)
    have whole := order.trans (orderRest.cons (some paramsKey, params))
    refine ⟨others, fun member among => ?_, whole⟩
    have amongRest : member ∈ rest := orderRest.mem_iff.mpr (List.mem_cons_of_mem _ among)
    have amongAll : member ∈ members := order.mem_iff.mpr (List.mem_cons_of_mem _ amongRest)
    obtain ⟨name, has⟩ := Option.isSome_iff_exists.mp (named member amongAll)
    refine ⟨name, has, ?_, ?_⟩
    · rintro rfl
      exact noParams member amongRest has
    · rintro rfl
      exact noResult member among has
  · rintro ⟨others, unrelated, order⟩
    refine ⟨fun member among => ?_, ?_, ?_⟩
    · rcases List.mem_cons.mp (order.mem_iff.mp among) with rfl | behind
      · rfl
      · rcases List.mem_cons.mp behind with rfl | further
        · rfl
        · obtain ⟨name, has, _⟩ := unrelated member further
          rw [has, Option.isSome_some]
    · refine membersOf_eq_singleton_iff.mpr ⟨_, order, List.forall_mem_cons.mpr ⟨otherKey.symm, ?_⟩⟩
      rintro member among has
      obtain ⟨name, named, notParams, _⟩ := unrelated member among
      exact notParams (Option.some.inj (named.symm.trans has))
    · refine membersOf_eq_singleton_iff.mpr
        ⟨_, order.trans (.swap _ _ _), List.forall_mem_cons.mpr ⟨otherKey, ?_⟩⟩
      rintro member among has
      obtain ⟨name, named, _, notResult⟩ := unrelated member among
      exact notResult (Option.some.inj (named.symm.trans has))

/-- A document is read as a signature if it spells it. -/
theorem ofJson?_eq_some_iff {document : Json} {signature : Signature} :
    ofJson? document = some signature ↔ signature.Spelled document := by
  constructor
  · intro read
    unfold ofJson? at read
    split at read
    · obtain ⟨items, rfl, params, returned⟩ := ofParts?_eq_some_iff.mp read
      exact .array params returned
    · next members =>
      split at read
      · next named =>
        split at read
        · next params result onlyParams onlyResult =>
          obtain ⟨items, rfl, all, returned⟩ := ofParts?_eq_some_iff.mp read
          obtain ⟨others, unrelated, order⟩ :=
            members_iff.mp ⟨List.all_eq_true.mp named, onlyParams, onlyResult⟩
          exact .object all returned unrelated order
        · cases read
      · cases read
    · cases read
  · intro spelled
    cases spelled with
    | array params returned => exact ofParts?_eq_some_iff.mpr ⟨_, rfl, params, returned⟩
    | object params returned unrelated order =>
      obtain ⟨named, onlyParams, onlyResult⟩ := members_iff.mpr ⟨_, unrelated, order⟩
      rw [ofJson?, if_pos (List.all_eq_true.mpr named), onlyParams, onlyResult]
      exact ofParts?_eq_some_iff.mpr ⟨_, rfl, params, returned⟩

theorem ofJsonText?_of_written {text : String} {document : Json}
    (written : Json.Written text.toList document.tokens) :
    ofJsonText? text = ofJson? document := by
  rw [ofJsonText?, Json.ofText?_eq_some_iff.mpr written, Option.bind_some]

theorem Spelled.of_perm {signature : Signature} {first second : List (Option String × Json)}
    (order : first.Perm second) (spelled : signature.Spelled (.object first)) :
    signature.Spelled (.object second) := by
  cases spelled with
  | object params returned unrelated whole =>
    exact .object params returned unrelated (order.symm.trans whole)

/-- The order of the members of an object does not matter. -/
theorem ofJson?_perm {first second : List (Option String × Json)} (order : first.Perm second) :
    ofJson? (.object first) = ofJson? (.object second) := by
  refine Option.ext fun signature => ?_
  rw [ofJson?_eq_some_iff, ofJson?_eq_some_iff]
  exact ⟨.of_perm order, .of_perm order.symm⟩

/-- A member of another name does not matter. -/
theorem ofJson?_unrelated {member : Option String × Json} (unrelated : Unrelated member)
    (members : List (Option String × Json)) :
    ofJson? (.object (member :: members)) = ofJson? (.object members) := by
  obtain ⟨name, has, notParams, notResult⟩ := unrelated
  have named : member.1.isSome = true := by rw [has, Option.isSome_some]
  have other (key : String) (different : name ≠ key) : member.1 ≠ some key := by
    rw [has]
    exact fun same => different (Option.some.inj same)
  rw [ofJson?, ofJson?, List.all_cons, named, Bool.true_and,
    membersOf_cons_other (other paramsKey notParams),
    membersOf_cons_other (other resultKey notResult)]

/-- A text is read as a signature if and only if it is a document that spells the signature, and
nothing but the signature can be told from what is read: not how the document was written, in which
order the members of an object came, what else they held, or which way a kind was spelled. -/
theorem reads_exactly :
    (∀ (text : String) (signature : Signature), ofJsonText? text = some signature ↔
      ∃ document, Json.Written text.toList document.tokens ∧ signature.Spelled document) ∧
    (∀ (document : Json) (signature : Signature),
      ofJson? document = some signature ↔ signature.Spelled document) ∧
    (∀ (document : Json) (kind : Kind),
      Kind.ofJson? document = some kind ↔ kind.Spelled document) ∧
    (∀ (text : String) (document : Json), Json.Written text.toList document.tokens →
      ofJsonText? text = ofJson? document) ∧
    (∀ first second : List (Option String × Json), first.Perm second →
      ofJson? (.object first) = ofJson? (.object second)) ∧
    ∀ member members, Unrelated member →
      ofJson? (.object (member :: members)) = ofJson? (.object members) := by
  refine ⟨fun text signature => ?_, fun _ _ => ofJson?_eq_some_iff, fun _ _ =>
    Kind.ofJson?_eq_some_iff, fun _ _ => ofJsonText?_of_written, fun _ _ => ofJson?_perm,
    fun _ members unrelated => ofJson?_unrelated unrelated members⟩
  rw [ofJsonText?, Option.bind_eq_some_iff]
  constructor
  · rintro ⟨document, made, read⟩
    exact ⟨document, Json.ofText?_eq_some_iff.mp made, ofJson?_eq_some_iff.mp read⟩
  · rintro ⟨document, written, spelled⟩
    exact ⟨document, Json.ofText?_eq_some_iff.mpr written, ofJson?_eq_some_iff.mpr spelled⟩

/-- No parameters and a truth value are read from an array with a blank in front of it, and from an
object whose members come in any order and among others. -/
theorem reads_exactly_noParams :
    ofJsonText? " [[],\"Bool\"]" = some ⟨[], .bool⟩ ∧
      ofJson? (.object [(some "note", .number), (some "result", .object [(some "Bool", .null)]),
        (some "params", .array [])]) = some ⟨[], .bool⟩ := by
  obtain ⟨_, documents, _, texts, order, unrelated⟩ := reads_exactly
  constructor
  · have written : Json.Written [' ', '[', '[', ']', ',', '"', 'B', 'o', 'o', 'l', '"', ']']
        (Json.array [.array [], .string (some "Bool")]).tokens :=
      .blank rfl <| @Json.Written.token ['['] _ _ _ (.fixed rfl) <|
        @Json.Written.token ['['] _ _ _ (.fixed rfl) <|
        @Json.Written.token [']'] _ _ _ (.fixed rfl) <|
        @Json.Written.token [','] _ _ _ (.fixed rfl) <|
        @Json.Written.token _ _ _ _ (@Json.Lexeme.plain ['B', 'o', 'o', 'l'] (by simp)) <|
        @Json.Written.token [']'] _ _ _ (.fixed rfl) .nothing
    rw [texts " [[],\"Bool\"]" _ written]
    exact (documents _ _).mpr (.array .nil .name)
  · rw [unrelated _ _ ⟨"note", rfl, by decide, by decide⟩, order _ _ (.swap _ _ _)]
    exact (documents _ _).mpr (.object .nil .object (List.forall_mem_nil _) (.refl _))

end Signature

end Erasure
