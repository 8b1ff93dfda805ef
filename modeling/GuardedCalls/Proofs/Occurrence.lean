import GuardedCalls.Guard.Eligibility
import GuardedCalls.Proofs.Cuts
import GuardedCalls.Proofs.Parts
import Mathlib.Data.List.Infix

/-! Where one text stands in another: the text of a part in that of the whole, a simple name in the
full one, and the name of the target in every guarded form. -/

namespace GuardedCalls

namespace Text

lemma occursIn_iff {needle s : List Char} : occursIn needle s = true ↔ needle <:+: s := by
  induction s with
  | nil => rw [occursIn, List.isEmpty_iff, List.infix_nil]
  | cons c s ih => rw [occursIn, Bool.or_eq_true, List.isPrefixOf_iff_prefix, ih, List.infix_cons_iff]

end Text

lemma TypeName.simpleName_infix (n : TypeName) : n.simpleName.toList <:+: n.text.toList := by
  rw [TypeName.simpleName]
  split
  · rename_i package simple hs
    obtain ⟨c, -, hc, -⟩ := Text.cutLast_eq_some_iff.mp hs
    refine ⟨package ++ [c], [], ?_⟩
    rw [hc, String.toList_ofList, List.append_nil, List.append_assoc]
    rfl
  · exact List.infix_rfl

namespace Expr

lemma source_infix_listSource {es : List Expr} {s : Expr} (hs : s ∈ es) :
    s.source.toList <:+: (listSource es).toList := by
  induction es with
  | nil => simp at hs
  | cons e es ih =>
    cases es with
    | nil =>
      obtain rfl := List.mem_singleton.mp hs
      exact List.infix_rfl
    | cons e' es =>
      simp only [listSource, String.toList_append]
      rcases List.mem_cons.mp hs with rfl | h
      · exact List.infix_append_of_infix_left List.infix_append_left
      · exact List.infix_append_of_infix_right (ih h)

lemma source_infix_of_mem_parts {e s : Expr} (hs : s ∈ e.parts) :
    s.source.toList <:+: e.source.toList := by
  cases e with
  | ident | literal => simp [parts] at hs
  | select | typeTest =>
    obtain rfl := List.mem_singleton.mp hs
    simp only [source, String.toList_append, List.append_assoc]
    exact List.infix_append_left
  | call receiver name arguments signature =>
    rcases List.mem_append.mp hs with h | h
    · obtain rfl := Option.mem_toList.mp h
      simp only [source, receiverSource, String.toList_append, List.append_assoc]
      exact List.infix_append_left
    · refine (source_infix_listSource h).trans ?_
      simp only [source, String.toList_append]
      exact List.infix_append _ _ _
  | cast type operand =>
    obtain rfl := List.mem_singleton.mp hs
    simp only [source, String.toList_append]
    exact List.infix_append_right
  | paren inner =>
    obtain rfl := List.mem_singleton.mp hs
    simp only [source, String.toList_append]
    exact List.infix_append _ _ _
  | conditional test yes no type =>
    simp only [parts, List.mem_cons, List.not_mem_nil, or_false] at hs
    simp only [source, String.toList_append]
    rcases hs with rfl | rfl | rfl
    · simp only [List.append_assoc]
      exact List.infix_append_left
    · exact List.infix_append_of_infix_left (List.infix_append _ _ _)
    · exact List.infix_append_right
  | construct type arguments =>
    refine (source_infix_listSource hs).trans ?_
    simp only [source, String.toList_append]
    exact List.infix_append _ _ _
  | binary left op right type =>
    simp only [parts, List.mem_cons, List.not_mem_nil, or_false] at hs
    simp only [source, String.toList_append]
    rcases hs with rfl | rfl
    · simp only [List.append_assoc]
      exact List.infix_append_left
    · exact List.infix_append_right

end Expr

namespace GuardTemplate

lemma simpleName_infix_typeText (t : GuardTemplate) :
    t.target.simpleName.toList <:+: t.typeText.toList := by
  rw [typeText]
  split
  · exact t.target.simpleName_infix
  · exact List.infix_rfl

lemma simpleName_infix_build (t : GuardTemplate) (tested casted : Expr) :
    t.target.simpleName.toList <:+: (t.build tested casted).source.toList := by
  have ht : t.typeText.toList <:+: (Expr.typeTest tested.asOperand t.typeRef).source.toList := by
    simp only [Expr.source, String.toList_append]
    exact List.infix_append_right
  have hb : Expr.typeTest tested.asOperand t.typeRef ∈ (t.build tested casted).parts :=
    List.mem_cons_self
  exact t.simpleName_infix_typeText.trans (ht.trans (Expr.source_infix_of_mem_parts hb))

end GuardTemplate

end GuardedCalls
