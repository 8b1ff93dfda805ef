import GuardedCalls.Proofs.Runs

/-! A run leaves no call that could be guarded, and a file without such calls stays as it is: a
second run changes nothing. -/

namespace GuardedCalls

lemma Expr.calls_asOperand (e : Expr) : e.asOperand.calls = e.calls := by
  rw [Expr.asOperand]
  split
  · exact e.calls_paren
  · rfl

lemma Call.mem_callsInside_of_guarded? {c d : Call} {x : Expr} (hx : c.guarded? = some x)
    (hd : d ∈ x.calls) : d ∈ c.callsInside := by
  obtain ⟨s, hs, hxs⟩ := Call.guarded?_mem hx
  have hd := Expr.mem_calls_iff.mpr (Expr.mem_subexprs_trans (Expr.mem_calls_iff.mp hd) hxs)
  exact List.mem_flatMap.mpr ⟨s, hs, hd⟩

namespace GuardTemplate

def castCall (t : GuardTemplate) (casted : Expr) : Call :=
  { t.call with receiver := some (.paren (.cast t.typeRef casted.asOperand)) }

lemma calls_build (t : GuardTemplate) (tested casted : Expr) :
    (t.build tested casted).calls =
      tested.calls ++ t.castCall casted :: (casted.calls ++ t.call.arguments.flatMap Expr.calls) := by
  have hc : (t.castCall casted).toExpr.calls =
      t.castCall casted :: (casted.calls ++ t.call.arguments.flatMap Expr.calls) := by
    rw [Call.calls_toExpr, Call.callsInside, Expr.parts_toExpr]
    simp [castCall, Expr.calls_paren, Expr.calls_eq (.cast ..), Expr.call?, Expr.parts,
      Expr.calls_asOperand]
  have hb : (t.build tested casted).calls = (Expr.typeTest tested.asOperand t.typeRef).calls ++
      ((t.castCall casted).toExpr.calls ++ (Expr.string fallback).calls) := by
    rw [build, Expr.calls_eq]
    simp [Expr.call?, Expr.parts, castCall, Call.toExpr]
  have ht : (Expr.typeTest tested.asOperand t.typeRef).calls = tested.calls := by
    simp [Expr.calls_eq (.typeTest ..), Expr.call?, Expr.parts, Expr.calls_asOperand]
  have hs : (Expr.string fallback).calls = [] := rfl
  rw [hb, hc, ht, hs, List.append_nil]

end GuardTemplate

namespace Recipe

variable {r : Recipe}

lemma not_isEligible_castCall (t : GuardTemplate) (casted : Expr) :
    r.isEligible (t.castCall casted) = false := by
  rw [Bool.eq_false_iff]
  intro h
  obtain ⟨⟨x, hx⟩, _⟩ := isEligible_iff.mp h
  -- The receiver is in parentheses, and nothing is tested in the place of such a one.
  have hg := (check_eq_eligible_iff.mp hx).2.2.2
  simp [GuardTemplate.castCall, Call.guarded?] at hg

lemma not_isEligible_form (qualified : Bool) {c : Call}
    (hc : ∀ d ∈ c.callsInside, r.isEligible d = false) :
    ∀ d ∈ (r.form qualified c).calls, r.isEligible d = false := by
  intro d hd
  by_cases he : r.isEligible c = true
  · obtain ⟨x, hx, hf⟩ := form_of_isEligible qualified he
    have hi : ∀ d ∈ x.calls, r.isEligible d = false := fun d hd =>
      hc d (Call.mem_callsInside_of_guarded? hx hd)
    rw [hf, GuardTemplate.calls_build, List.mem_append, List.mem_cons, List.mem_append] at hd
    rcases hd with h | rfl | h | h
    · exact hi d h
    · exact not_isEligible_castCall _ x
    · exact hi d h
    · obtain ⟨a, ha, h⟩ := List.mem_flatMap.mp h
      exact hc d (List.mem_flatMap.mpr ⟨a, List.mem_append_right _ ha, h⟩)
  · have hn : r.isEligible c = false := by simpa using he
    rw [form_of_not_isEligible qualified hn, Call.calls_toExpr] at hd
    rcases List.mem_cons.mp hd with rfl | h
    · exact hn
    · exact hc d h

variable (r)

def Settled (f : SourceFile) : Prop :=
  ∀ c ∈ f.calls, r.isEligible c = false

theorem settled_run (f : SourceFile) : r.Settled (r.run f).file := by
  intro c hc
  rw [SourceFile.calls_eq, run_roots] at hc
  obtain ⟨e, he, hc⟩ := List.mem_flatMap.mp hc
  obtain ⟨old, _, rfl⟩ := List.mem_map.mp he
  exact Expr.forall_calls_rebuild (fun _ => not_isEligible_form _) old c hc

variable {r}

lemma offered_of_settled {f : SourceFile} (qualified : Bool) (hf : r.Settled f) :
    r.offered qualified f = f.sitesInsideOut := by
  have hs : ∀ site ∈ f.sitesInsideOut, site.rebuildParts (r.form qualified) = site := by
    intro site hs
    have hc : ∀ d ∈ site.call.callsInside, r.form qualified d = d.toExpr := fun d hd =>
      form_of_not_isEligible qualified (hf d (f.mem_calls_of_mem_callsInside
        (f.call_mem_of_mem_sitesInsideOut hs) hd))
    rw [CallSite.rebuildParts, Call.rebuildParts_eq_self hc]
  rw [offered, List.map_congr_left hs, List.map_id']

theorem run_of_settled {f : SourceFile} (hf : r.Settled f) :
    (r.run f).file = f ∧ (r.run f).report.guarded = 0 ∧ (r.run f).report.importsAdded = [] := by
  obtain ⟨hfile, hreport⟩ := r.run_eq f
  have hg : (r.extend {} f.sitesInsideOut).guarded = 0 := by
    rw [extend, Nat.zero_add, List.countP_eq_zero]
    intro site hs
    rw [hf site.call (f.call_mem_of_mem_sitesInsideOut hs)]
    exact Bool.false_ne_true
  rw [hfile, hreport, offered_of_settled _ hf, r.mapExprs_rebuild_eq_self _ hf, hg, importFor, if_pos rfl]
  exact ⟨rfl, rfl, rfl⟩

theorem run_run (r : Recipe) (f : SourceFile) :
    let first := r.run f
    let second := r.run first.file
    r.Settled first.file ∧ second.file = first.file ∧ second.report.guarded = 0 ∧
      second.report.importsAdded = [] ∧ second.changed = false := by
  have hs := r.settled_run f
  obtain ⟨hf, hg, hi⟩ := run_of_settled hs
  exact ⟨hs, hf, hg, hi, by rw [Run.changed, hg, hi]; rfl⟩

end Recipe

end GuardedCalls
