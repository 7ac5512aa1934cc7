/-
This file proves that a signature can be told from its text. The parameters stand in the text
as a list of kinds stands in a layout, and the names of kinds are clear next to the bracket
of a list. So any text that shows a function by its signature alone, as the texts of
functions do, is the same for two functions exactly if they declare the same.
-/

import Erasure.Proofs.Legibility
import Erasure.World

namespace Erasure

/-! ### Names of kinds -/

/-- No name of a kind is the beginning of another one. -/
theorem Kind.eq_of_name_begins {left right : Kind}
    (begins : left.name.toList <+: right.name.toList) : left = right := by
  cases left <;> cases right <;> first | rfl | exact absurd begins (by decide)

/-- The openings in a list of kinds. -/
inductive Kind.Vocabulary : Layout.Opening → Prop
  | name (kind : Kind) : Vocabulary (.word kind.name)
  | list : Vocabulary (.bracket "" .square)

/-- The names of kinds are clear next to the bracket of a list. -/
theorem Kind.clear_vocabulary : Layout.Clear Kind.Vocabulary where
  prefixFree first second begins := by
    cases first with
    | name kind =>
      cases second with
      | name other => rw [Kind.eq_of_name_begins begins]
      | list => cases kind <;> exact absurd begins (by decide)
    | list =>
      cases second with
      | name other => cases other <;> exact absurd begins (by decide)
      | list => rfl
  begins known := by
    cases known with
    | name kind => cases kind <;> exact ⟨_, by decide, _, rfl⟩
    | list => exact ⟨'[', by decide, [], rfl⟩

namespace Signature

/-! ### Texts of signatures -/

/-- The parameters of a signature as a layout. -/
def paramsLayout (signature : Signature) : Layout :=
  .list (signature.params.map fun kind => .word kind.name)

theorem legible_paramsLayout (signature : Signature) :
    signature.paramsLayout.Legible Kind.Vocabulary := by
  refine .group nofun .list fun item member => ?_
  obtain ⟨kind, _, rfl⟩ := List.mem_map.mp member
  exact .word (.name kind)

/-- Equal layouts have equal parameters. -/
theorem params_eq_of_paramsLayout {left right : Signature}
    (equal : left.paramsLayout = right.paramsLayout) : left.params = right.params := by
  have items := (Layout.group.inj equal).2.2
  exact (List.map_inj_right fun _ _ same => Kind.name_injective (Layout.word.inj same)).mp items

theorem flatItems_names (kinds : List Kind) :
    Layout.flatItems (kinds.map fun kind => .word kind.name) =
      ", ".intercalate (kinds.map Kind.name) := by
  induction kinds with
  | nil => rfl
  | cons kind rest inductionHypothesis =>
    cases rest with
    | nil => simp [Layout.flatItems, Layout.flat]
    | cons next following =>
      simp only [List.map_cons] at inductionHypothesis ⊢
      rw [Layout.flatItems, inductionHypothesis, String.intercalate_cons_cons, Layout.flat]

/-- The text of a signature is that of its parameters, followed by an arrow and its result. -/
theorem text_eq (signature : Signature) :
    signature.text = signature.paramsLayout.flat ++ " -> " ++ signature.result.name := by
  rw [paramsLayout, Layout.list, Layout.flat, flatItems_names, text]
  simp [Bracket.openFlat, Bracket.closeFlat, String.append_assoc]

/-- No two signatures have the same text. -/
theorem text_injective {left right : Signature} (equal : left.text = right.text) :
    left = right := by
  have characters := congrArg String.toList equal
  -- Only the parameters may be followed by something, so they are cancelled first.
  simp only [text_eq, String.toList_append, List.append_assoc] at characters
  obtain ⟨params, further⟩ := left.legible_paramsLayout.flat_separated Kind.clear_vocabulary
    right.legible_paramsLayout characters
  have result := Kind.name_injective (String.toList_inj.mp (List.append_cancel_left further))
  calc left = ⟨left.params, left.result⟩ := rfl
    _ = ⟨right.params, right.result⟩ := by rw [params_eq_of_paramsLayout params, result]
    _ = right := rfl

/-- A signature is determined by its text, however many parameters it has. So the plain texts of two
functions are the same exactly if they declare the same, and so are their layouts as text, on one
line and on several, whether the functions are held as values or as contracts. -/
theorem text_determines :
    (∀ left right : Signature, left.text = right.text ↔ left = right) ∧
    (∀ (world other : World) (function counterpart : Address),
      (world.text (.func function) = other.text (.func counterpart) ↔
        world.signatureAt function = other.signatureAt counterpart) ∧
      ((world.layout (.func function)).flat = (other.layout (.func counterpart)).flat ↔
        world.signatureAt function = other.signatureAt counterpart) ∧
      ∀ depth, (world.layout (.func function)).spread depth =
          (other.layout (.func counterpart)).spread depth ↔
        world.signatureAt function = other.signatureAt counterpart) ∧
    ∀ contract other : Contract 1,
      (contract.layout.flat = other.layout.flat ↔ contract.signature = other.signature) ∧
      ∀ depth, contract.layout.spread depth = other.layout.spread depth ↔
        contract.signature = other.signature := by
  have determined : ∀ left right : Signature, left.text = right.text ↔ left = right :=
    fun _ _ => ⟨text_injective, congrArg text⟩
  have enclosed : ∀ (before after : String) (left right : Signature),
      before ++ left.text ++ after = before ++ right.text ++ after ↔ left = right :=
    fun before after left right => by
      rw [String.append_left_inj, String.append_right_inj, determined]
  refine ⟨determined, fun world other function counterpart => ⟨?_, ?_, fun depth => ?_⟩,
    fun contract other => ⟨?_, fun depth => ?_⟩⟩
  · exact String.append_right_inj _ |>.trans (determined _ _)
  · exact enclosed _ _ _ _
  · exact enclosed _ _ _ _
  · exact enclosed _ _ _ _
  · exact enclosed _ _ _ _

example : (⟨[.i32, .f64], .bool⟩ : Signature).text = "[I32, F64] -> Bool" := by
  decide

end Signature

end Erasure
