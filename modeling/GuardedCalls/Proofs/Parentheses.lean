import GuardedCalls.Proofs.Runs

/-! How tightly expressions bind, and which of them stand as operands without parentheses. A call is
of the highest level and its guarded form of the lowest, and yet a run leaves every operand bound as
tightly as it was. -/

namespace GuardedCalls

def Operator.level : Operator → Nat
  | .or => 1
  | .and => 2
  | .equal | .notEqual => 3
  | .add | .sub => 5

namespace Expr

def level : Expr → Nat
  | .conditional .. => 0
  | .binary _ op _ _ => op.level
  | .typeTest .. => 4
  | .cast .. => 6
  | .ident .. | .select .. | .call .. | .literal _ | .paren _ | .construct .. => 7

def operandsFit : Expr → Bool
  | .select target _ _ => target.level = 7
  | .call receiver _ _ _ => receiver.all fun e => e.level = 7
  | .cast _ operand => 6 ≤ operand.level
  | .typeTest operand _ => 4 ≤ operand.level
  | .conditional test _ _ _ => 1 ≤ test.level
  | .binary left op right _ => op.level ≤ left.level && op.level < right.level
  | .ident .. | .literal _ | .paren _ | .construct .. => true

def WellParenthesized (e : Expr) : Prop :=
  ∀ s ∈ e.subexprs, s.operandsFit = true

instance (e : Expr) : Decidable e.WellParenthesized :=
  inferInstanceAs (Decidable (∀ s ∈ e.subexprs, s.operandsFit = true))

variable {e : Expr}

lemma wellParenthesized_iff :
    e.WellParenthesized ↔ e.operandsFit = true ∧ ∀ s ∈ e.parts, s.WellParenthesized := by
  simp only [WellParenthesized, subexprs_eq e, List.forall_mem_cons, List.forall_mem_flatMap]

lemma WellParenthesized.part (he : e.WellParenthesized) {s : Expr} (hs : s ∈ e.parts) :
    s.WellParenthesized :=
  (wellParenthesized_iff.mp he).2 s hs

lemma WellParenthesized.subexpr (he : e.WellParenthesized) {s : Expr} (hs : s ∈ e.subexprs) :
    s.WellParenthesized :=
  fun t ht => he t (mem_subexprs_trans ht hs)

lemma WellParenthesized.paren (he : e.WellParenthesized) : (Expr.paren e).WellParenthesized := by
  rw [wellParenthesized_iff]
  exact ⟨rfl, fun s hs => List.mem_singleton.mp hs ▸ he⟩

lemma level_of_not_isLoose (he : e.isLoose = false) : e.level = 7 := by
  cases e <;> simp_all [isLoose, level]

lemma level_asOperand (e : Expr) : e.asOperand.level = 7 := by
  rw [asOperand]
  split
  · rfl
  · exact level_of_not_isLoose (by simp_all)

lemma level_inPlaceOf {old : Expr} (ho : old.isLoose = false) (new : Expr) :
    (old.inPlaceOf new).level = 7 := by
  rw [inPlaceOf, ho]
  split
  · rfl
  · exact level_of_not_isLoose (by simp_all)

lemma inPlaceOf_of_isLoose {old : Expr} (ho : old.isLoose = true) (new : Expr) :
    old.inPlaceOf new = new := by
  simp [inPlaceOf, ho]

lemma call?_of_isLoose (he : e.isLoose = true) : e.call? = none := by
  cases e <;> simp_all [isLoose, call?]

@[simp] lemma level_mapParts (operand part : Expr → Expr) (e : Expr) :
    (e.mapParts operand part).level = e.level := by
  cases e <;> rfl

lemma level_rebuildOperand (form : Call → Expr) (e : Expr) :
    (e.rebuildOperand form).level = e.level := by
  rw [rebuildOperand]
  -- Whatever the calls become, an operand that is not loose stays so or is put in parentheses, and a
  -- loose one is no call and stays of its kind.
  cases hl : e.isLoose with
  | false => rw [level_inPlaceOf hl, level_of_not_isLoose hl]
  | true =>
    rw [inPlaceOf_of_isLoose hl, rebuild_of_call?_eq_none form (call?_of_isLoose hl), rebuildParts,
      level_mapParts]

lemma operandsFit_mapParts {operand : Expr → Expr} (ho : ∀ s, (operand s).level = s.level)
    (part : Expr → Expr) (e : Expr) : (e.mapParts operand part).operandsFit = e.operandsFit := by
  cases e with
  | call receiver name arguments signature =>
    cases receiver <;> simp [mapParts, operandsFit, ho]
  | _ => simp [mapParts, operandsFit, ho]

variable {form : Call → Expr}

lemma wellParenthesized_rebuildParts (he : e.operandsFit = true)
    (hs : ∀ s ∈ e.parts, (s.rebuild form).WellParenthesized) :
    (e.rebuildParts form).WellParenthesized := by
  rw [wellParenthesized_iff]
  constructor
  · rw [rebuildParts, operandsFit_mapParts (level_rebuildOperand form), he]
  · intro s h
    obtain ⟨t, ht, rfl | rfl⟩ := mem_parts_rebuildParts h
    · exact hs t ht
    · exact (hs t ht).paren

lemma WellParenthesized.rebuild
    (hf : ∀ c : Call, c.toExpr.WellParenthesized → (form c).WellParenthesized)
    (he : e.WellParenthesized) : (e.rebuild form).WellParenthesized := by
  induction e using call_induction with
  | call c ih =>
    obtain ⟨hc, hs⟩ := wellParenthesized_iff.mp he
    rw [rebuild_toExpr]
    apply hf
    rw [← rebuildParts_toExpr]
    exact wellParenthesized_rebuildParts hc fun s h => ih s h (hs s h)
  | other e hn ih =>
    obtain ⟨hc, hs⟩ := wellParenthesized_iff.mp he
    rw [rebuild_of_call?_eq_none form hn]
    exact wellParenthesized_rebuildParts hc fun s h => ih s h (hs s h)

lemma WellParenthesized.asOperand (he : e.WellParenthesized) : e.asOperand.WellParenthesized := by
  rw [Expr.asOperand]
  split
  · exact he.paren
  · exact he

end Expr

lemma GuardTemplate.wellParenthesized_build (t : GuardTemplate) {tested casted : Expr}
    (ht : tested.WellParenthesized) (hc : casted.WellParenthesized)
    (ha : ∀ a ∈ t.call.arguments, a.WellParenthesized) :
    (t.build tested casted).WellParenthesized := by
  have hcast : (Expr.cast t.typeRef casted.asOperand).WellParenthesized := by
    rw [Expr.wellParenthesized_iff]
    refine ⟨?_, fun s hs => List.mem_singleton.mp hs ▸ hc.asOperand⟩
    simp [Expr.operandsFit, Expr.level_asOperand]
  have htest : (Expr.typeTest tested.asOperand t.typeRef).WellParenthesized := by
    rw [Expr.wellParenthesized_iff]
    refine ⟨?_, fun s hs => List.mem_singleton.mp hs ▸ ht.asOperand⟩
    simp [Expr.operandsFit, Expr.level_asOperand]
  have hcall : (Expr.call (some (.paren (.cast t.typeRef casted.asOperand))) t.call.name
      t.call.arguments t.call.signature).WellParenthesized := by
    rw [Expr.wellParenthesized_iff]
    refine ⟨rfl, fun s hs => ?_⟩
    rcases List.mem_cons.mp hs with rfl | h
    · exact hcast.paren
    · exact ha s h
  have hfallback : (Expr.string fallback).WellParenthesized := by
    rw [Expr.wellParenthesized_iff]
    exact ⟨rfl, fun s hs => nomatch hs⟩
  rw [build, Expr.wellParenthesized_iff]
  refine ⟨rfl, fun s hs => ?_⟩
  simp only [Expr.parts, List.mem_cons, List.not_mem_nil, or_false] at hs
  rcases hs with rfl | rfl | rfl
  · exact htest
  · exact hcall
  · exact hfallback

namespace Recipe

lemma wellParenthesized_form (r : Recipe) (qualified : Bool) {c : Call}
    (hc : c.toExpr.WellParenthesized) : (r.form qualified c).WellParenthesized := by
  cases he : r.isEligible c with
  | false => rwa [form_of_not_isEligible qualified he]
  | true =>
    obtain ⟨x, hx, hf⟩ := form_of_isEligible qualified he
    obtain ⟨s, hs, hxs⟩ := Call.guarded?_mem hx
    have hw : x.WellParenthesized := (hc.part hs).subexpr hxs
    rw [hf]
    exact (r.template c qualified).wellParenthesized_build hw hw fun a ha =>
      hc.part (List.mem_append_right _ ha)

theorem run_wellParenthesized (r : Recipe) (f : SourceFile)
    (hf : ∀ e ∈ f.exprs, e.WellParenthesized) :
    ∀ e ∈ (r.run f).file.exprs, e.WellParenthesized := by
  intro e he
  rw [SourceFile.exprs_eq, run_roots] at he
  obtain ⟨new, hn, he⟩ := List.mem_flatMap.mp he
  obtain ⟨old, ho, rfl⟩ := List.mem_map.mp hn
  have hw : old.WellParenthesized := by
    apply hf
    rw [f.exprs_eq]
    exact List.mem_flatMap.mpr ⟨old, ho, old.self_mem_subexprs⟩
  exact (hw.rebuild fun _ => r.wellParenthesized_form _).subexpr he

theorem run_wellParenthesized_sum :
    let recipe : Recipe :=
      { pattern := ⟨"a.B m()", [.glob ['a'], .glob ['B']], some "m", []⟩
        target := ⟨"a.B", by decide +kernel⟩ }
    let signature : Signature := { declaringType := "a.B", name := "m", result := .string }
    let sum : Expr := .binary (.call (some (.ident "x" none)) "m" [] (some signature)) .add
      (.string "!") (some .string)
    let value : Expr := .call (some (.paren sum)) "length" [] none
    let file : SourceFile := { classes := [{ name := "C", methods :=
      [{ returnType := ⟨"int", none⟩, name := "f", body := [.returns (some value)] }] }] }
    (recipe.run file).report.guarded = 1 ∧ (∀ e ∈ file.exprs, e.WellParenthesized) ∧
      ∀ e ∈ (recipe.run file).file.exprs, e.WellParenthesized := by
  intro recipe signature sum value file
  have hf : ∀ e ∈ file.exprs, e.WellParenthesized := by decide +kernel
  exact ⟨by decide +kernel, hf, recipe.run_wellParenthesized file hf⟩

end Recipe

end GuardedCalls
