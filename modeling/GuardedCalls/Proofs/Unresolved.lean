import GuardedCalls.Proofs.Idempotence
import Mathlib.Data.List.Forall2

/-! Runs with a target that is not on the classpath: the file stays as it is, whatever calls are
nested in each other, and each accepted call is reported once, from the inside out. -/

namespace GuardedCalls

namespace Recipe

variable {r : Recipe}

/-- The entry for an accepted call when the target is not on the classpath: a call that could be
guarded otherwise fails for that reason. -/
structure Reports (r : Recipe) (site : CallSite) (entry : SkippedCall) : Prop where
  scope : entry.scope = site.scope
  call : entry.call = site.call.source
  reason : r.check site.call = .skip entry.reason ∨
    (∃ x, r.check site.call = .eligible x) ∧
      entry.reason = .template (.unresolvedType r.target.text)

lemma not_isEligible_of_unresolved (hr : r.classpath.contains r.target = false) (c : Call) :
    r.isEligible c = false := by
  rw [Bool.eq_false_iff]
  intro h
  obtain ⟨-, hc⟩ := isEligible_iff.mp h
  exact absurd (hr.symm.trans hc) Bool.false_ne_true

lemma skippedAt?_of_not_finds {site : CallSite} (hs : r.pattern.finds site = false) :
    r.skippedAt? site = none := by
  rw [skippedAt?, skipReason?_of_not_accepts hs, Option.map_none]

lemma skippedAt?_of_finds (hr : r.classpath.contains r.target = false) {site : CallSite}
    (hs : r.pattern.finds site = true) :
    ∃ entry, r.skippedAt? site = some entry ∧ r.Reports site entry := by
  cases hc : r.check site.call with
  | noMatch =>
    have hn : r.pattern.finds site = false := check_eq_noMatch_iff.mp hc
    exact absurd (hn.symm.trans hs) Bool.false_ne_true
  | skip reason =>
    have hn : r.skipReason? site.call = some reason := by rw [skipReason?, hc]
    refine ⟨⟨site.scope, site.call.source, reason⟩, ?_, rfl, rfl, .inl hc⟩
    rw [skippedAt?, hn, Option.map_some]
  | eligible x =>
    have hn : r.skipReason? site.call = some (.template (.unresolvedType r.target.text)) := by
      rw [skipReason?, hc]
      exact if_neg (by simp [hr])
    refine ⟨⟨site.scope, site.call.source, _⟩, ?_, rfl, rfl, .inr ⟨⟨x, hc⟩, rfl⟩⟩
    rw [skippedAt?, hn, Option.map_some]

lemma forall₂_reports (hr : r.classpath.contains r.target = false) (sites : List CallSite) :
    List.Forall₂ r.Reports (sites.filter r.pattern.finds) (sites.filterMap r.skippedAt?) := by
  induction sites with
  | nil => exact .nil
  | cons site sites ih =>
    cases hs : r.pattern.finds site with
    | false =>
      rw [List.filter_cons_of_neg (by simp [hs]),
        List.filterMap_cons_none (skippedAt?_of_not_finds hs)]
      exact ih
    | true =>
      obtain ⟨entry, he, h⟩ := skippedAt?_of_finds hr hs
      rw [List.filter_cons_of_pos hs, List.filterMap_cons_some he]
      exact .cons h ih

lemma skipped_of_settled {f : SourceFile} (hf : r.Settled f) :
    (r.run f).report.skipped = f.sitesInsideOut.filterMap r.skippedAt? := by
  rw [(r.run_eq f).2, offered_of_settled _ hf]
  rfl

theorem run_of_unresolved (r : Recipe) (f : SourceFile)
    (hr : r.classpath.contains r.target = false) :
    let sites := f.sitesInsideOut.filter r.pattern.finds
    (r.run f).file = f ∧ (r.run f).report.guarded = 0 ∧ (r.run f).report.importsAdded = [] ∧
      sites.Perm (r.pattern.findCalls f) ∧
      List.Forall₂ r.Reports sites (r.run f).report.skipped := by
  intro sites
  have hf : r.Settled f := fun c _ => not_isEligible_of_unresolved hr c
  obtain ⟨hfile, hguarded, himports⟩ := run_of_settled hf
  refine ⟨hfile, hguarded, himports, ?_, ?_⟩
  · rw [r.pattern.findCalls_eq f]
    exact (f.sites_perm_insideOut.filter r.pattern.finds).symm
  · rw [skipped_of_settled hf]
    exact forall₂_reports hr f.sitesInsideOut

theorem run_of_unresolved_nested :
    let recipe : Recipe :=
      { pattern := ⟨"a.* m(..)", [.glob ['a'], .any], some "m", [.run]⟩
        target := ⟨"a.B", by decide⟩
        classpath := { types := some ["a.C"] } }
    let call (receiver : Option Expr) (type : String) (arguments : List Expr) : Call :=
      { receiver, name := "m", arguments, signature :=
        some { declaringType := type, name := "m", result := .string } }
    let mismatched := call (some (.ident "x" none)) "a.C" []
    let argument := call (some (.ident "y" none)) "a.B" []
    let outer := call (some mismatched.toExpr) "a.B" [argument.toExpr]
    let unsupported := call none "a.B" []
    let file : SourceFile := { classes := [{ name := "D", methods :=
      [{ returnType := ⟨"String", none⟩, name := "f", body :=
        [.expression outer.toExpr, .returns (some unsupported.toExpr)] }] }] }
    Recipe.make "a.* m(..)" "a.B" { types := some ["a.C"] } = .ok recipe ∧
      recipe.classpath.contains recipe.target = false ∧ (recipe.run file).file = file ∧
      List.Forall₂ recipe.Reports
        [⟨"D.f", mismatched⟩, ⟨"D.f", argument⟩, ⟨"D.f", outer⟩, ⟨"D.f", unsupported⟩]
        (recipe.run file).report.skipped ∧
      (recipe.run file).report.skipped.map (fun entry => (entry.call, entry.reason.code)) =
        [("x.m()", "type_mismatch"), ("y.m()", "template_failure"),
          ("x.m().m(y.m())", "template_failure"), ("m()", "unsupported_receiver")] := by
  intro recipe call mismatched argument outer unsupported file
  have hr : recipe.classpath.contains recipe.target = false := by decide +kernel
  have hs : file.sitesInsideOut.filter recipe.pattern.finds =
      [⟨"D.f", mismatched⟩, ⟨"D.f", argument⟩, ⟨"D.f", outer⟩, ⟨"D.f", unsupported⟩] := by
    decide +kernel
  obtain ⟨hfile, -, -, -, hreports⟩ := run_of_unresolved recipe file hr
  rw [hs] at hreports
  exact ⟨rfl, hr, hfile, hreports, by decide +kernel⟩

end Recipe

end GuardedCalls
