import GuardedCalls.Proofs.Idempotence
import GuardedCalls.Proofs.Innermost

/-! The calls that a run reports as skipped, and where they are afterwards: each stands in its method
as it was reported, except for those of a chain whose guard tests what the chain begins with. -/

namespace GuardedCalls

/-- The calls that are missing in the guarded form of a call: the one that it is made on and those in
the arguments of that one. -/
def Call.leftOut (c : Call) : List Call :=
  (c.receiver.bind Expr.call?).toList.flatMap fun inner =>
    inner :: inner.arguments.flatMap Expr.calls

lemma Call.mem_callsInside_cases {c d : Call} {x : Expr} (hx : c.guarded? = some x)
    (hd : d ∈ c.callsInside) :
    d ∈ x.calls ∨ d ∈ c.arguments.flatMap Expr.calls ∨ d ∈ c.leftOut := by
  obtain ⟨s, hs, hd⟩ := List.mem_flatMap.mp hd
  rcases List.mem_append.mp hs with hr | ha
  · have hr : c.receiver = some s := Option.mem_toList.mp hr
    rw [Call.guarded?, hr] at hx
    cases s with
    | call receiver name arguments signature =>
      have hx : receiver = some x := hx
      have hl : c.leftOut =
          ⟨receiver, name, arguments, signature⟩ :: arguments.flatMap Expr.calls := by
        simp [Call.leftOut, hr, Expr.call?]
      rw [Expr.calls_eq, List.mem_append, Expr.parts, List.flatMap_append, List.mem_append] at hd
      rw [hl, List.mem_cons]
      rcases hd with hd | hd | hd
      · exact .inr (.inr (.inl (Option.some.inj (Option.mem_toList.mp hd)).symm))
      · exact .inl (by simpa [hx] using hd)
      · exact .inr (.inr (.inr hd))
    | ident | select =>
      obtain rfl := Option.some.inj hx
      exact .inl hd
    | _ => simp at hx
  · exact .inr (.inl (List.mem_flatMap.mpr ⟨s, ha, hd⟩))

lemma Call.leftOut_subset (c : Call) : c.leftOut ⊆ c.callsInside := by
  intro d hd
  obtain ⟨inner, hi, hd⟩ := List.mem_flatMap.mp hd
  obtain ⟨s, hs, hc⟩ := Option.bind_eq_some_iff.mp (Option.mem_toList.mp hi)
  obtain rfl := (Expr.call?_eq_some_iff s inner).mp hc
  refine List.mem_flatMap.mpr ⟨inner.toExpr, by simp [hs], ?_⟩
  rw [Call.calls_toExpr, Call.callsInside, Expr.parts_toExpr, List.flatMap_append]
  rcases List.mem_cons.mp hd with rfl | hd
  · exact List.mem_cons_self
  · exact List.mem_cons_of_mem _ (List.mem_append_right _ hd)

lemma Call.callsInside_subset {c d : Call} (hd : d ∈ c.callsInside) :
    d.callsInside ⊆ c.callsInside := by
  intro b hb
  obtain ⟨s, hs, hd⟩ := List.mem_flatMap.mp hd
  exact List.mem_flatMap.mpr ⟨s, hs, Expr.mem_calls_of_mem_callsInside hd hb⟩

lemma Expr.mem_calls_rebuildParts {form : Call → Expr} {e s : Expr} {c : Call} (hs : s ∈ e.parts)
    (hc : c ∈ (s.rebuild form).calls) : c ∈ (e.rebuildParts form).calls := by
  rcases Expr.rebuild_mem_parts hs with h | h
  · exact mem_calls_of_mem_parts h hc
  · exact mem_calls_of_mem_parts h ((calls_paren _).symm ▸ hc)

namespace Recipe

variable {r : Recipe} {qualified : Bool}

lemma rebuildParts_of_mem_callsInside {c d : Call} (hc : r.isInnermost c = true)
    (hd : d ∈ c.callsInside) : d.rebuildParts (r.form qualified) = d := by
  apply rebuildParts_eq_self
  have hn := List.any_eq_false.mp (isInnermost_iff.mp hc).2
  exact List.any_eq_false.mpr fun b hb => hn b (Call.callsInside_subset hd hb)

lemma mem_calls_form {c d : Call} (hc : r.isInnermost c = true) (hd : d ∈ c.callsInside)
    (hl : d ∉ c.leftOut) : d ∈ (r.form qualified c).calls := by
  obtain ⟨x, hx, hf⟩ := form_of_isEligible qualified (isInnermost_iff.mp hc).1
  rw [hf, GuardTemplate.calls_build, List.mem_append, List.mem_cons, List.mem_append]
  rcases Call.mem_callsInside_cases hx hd with h | h | h
  · exact .inl h
  · exact .inr (.inr (.inr h))
  · exact absurd h hl

lemma rebuildParts_mem_or_leftOut {e : Expr} {c : Call} (hc : c ∈ e.calls)
    (hn : r.isInnermost c = false) :
    c.rebuildParts (r.form qualified) ∈ (e.rebuild (r.form qualified)).calls ∨
      ∃ d ∈ e.calls, r.isInnermost d = true ∧ c ∈ d.leftOut := by
  induction e using Expr.parts_induction with
  | step e ih =>
    cases he : e.call?.any r.isInnermost with
    | true =>
      obtain ⟨d, hd, hi⟩ := (Option.any_eq_true _ _).mp he
      obtain rfl := (Expr.call?_eq_some_iff e d).mp hd
      rw [Call.calls_toExpr] at hc
      -- Inside `d` nothing is guarded, so that its form is made of the calls as they were.
      rcases List.mem_cons.mp hc with rfl | hc
      · exact absurd hi (by simp [hn])
      · by_cases hl : c ∈ d.leftOut
        · exact .inr ⟨d, Expr.mem_calls_toExpr d, hi, hl⟩
        · rw [rebuildParts_of_mem_callsInside hi hc, rebuild_of_isInnermost hi]
          exact .inl (mem_calls_form hi hc hl)
    | false =>
      rw [rebuild_of_not_isInnermost he]
      rw [Expr.calls_eq] at hc
      rcases List.mem_append.mp hc with hc | hc
      · obtain rfl := (Expr.call?_eq_some_iff e c).mp (Option.mem_toList.mp hc)
        exact .inl (Expr.mem_calls_toExpr _)
      · obtain ⟨s, hs, hc⟩ := List.mem_flatMap.mp hc
        rcases ih s hs hc with h | ⟨d, hd, hi, hl⟩
        · exact .inl (Expr.mem_calls_rebuildParts hs h)
        · exact .inr ⟨d, Expr.mem_calls_of_mem_parts hs hd, hi, hl⟩

end Recipe

namespace SourceFile

variable {calls : Expr → List Call} {f : SourceFile} {site : CallSite}

lemma mem_sitesBy_iff : site ∈ f.sitesBy calls ↔ ∃ c ∈ f.classes, ∃ m ∈ c.methods,
    site.scope = c.name ++ "." ++ m.name ∧ ∃ e ∈ m.roots, site.call ∈ calls e := by
  obtain ⟨scope, call⟩ := site
  simp only [sitesBy, ClassDecl.sitesBy, Method.sitesBy, List.mem_flatMap, List.mem_map,
    CallSite.mk.injEq]
  grind

lemma sitesBy_mapExprs (g : Expr → Expr) :
    (f.mapExprs g).sitesBy calls = f.sitesBy (calls ∘ g) := by
  simp [sitesBy, ClassDecl.sitesBy, Method.sitesBy, mapExprs, ClassDecl.mapExprs, List.flatMap_map,
    Method.roots_mapExprs]
  rfl

end SourceFile

namespace Recipe

variable {r : Recipe}

lemma run_sites (f : SourceFile) : (r.run f).file.sites =
    f.sitesBy (Expr.calls ∘ Expr.rebuild (r.form (f.conflictingImport? r.target).isSome)) := by
  obtain ⟨imports, hf⟩ := r.run_file f
  rw [hf, ← SourceFile.sitesBy_mapExprs]
  rfl

lemma exists_skipped_iff {f : SourceFile} {scope text : String} :
    (∃ entry ∈ (r.run f).report.skipped, entry.scope = scope ∧ entry.call = text) ↔
      ∃ site ∈ f.sites, r.pattern.acceptsCall site.call = true ∧ r.isInnermost site.call = false ∧
        site.scope = scope ∧
        (site.call.rebuildParts (r.form (f.conflictingImport? r.target).isSome)).source = text := by
  generalize hq : (f.conflictingImport? r.target).isSome = qualified
  have hs : (r.run f).report.skipped =
      f.sitesInsideOut.filterMap (r.skippedAt? ∘ CallSite.rebuildParts (r.form qualified)) := by
    rw [(r.run_eq f).2, hq, ← List.filterMap_map]
    rfl
  have hr (site : CallSite) : (r.skipReason? (site.call.rebuildParts (r.form qualified))).isSome =
      (r.pattern.acceptsCall site.call && !r.isInnermost site.call) := by
    rw [isSome_skipReason?, isEligible_rebuildParts]
    rfl
  simp only [hs, List.mem_filterMap, ← f.sites_perm_insideOut.mem_iff]
  constructor
  · rintro ⟨entry, ⟨site, hm, he⟩, rfl, rfl⟩
    obtain ⟨reason, hn, rfl⟩ := Option.map_eq_some_iff.mp he
    have hb := hr site
    have hn : r.skipReason? (site.call.rebuildParts (r.form qualified)) = some reason := hn
    rw [hn, Option.isSome_some, eq_comm, Bool.and_eq_true, Bool.not_eq_true'] at hb
    exact ⟨site, hm, hb.1, hb.2, rfl, rfl⟩
  · rintro ⟨site, hm, ha, hi, rfl, rfl⟩
    obtain ⟨reason, hn⟩ := Option.isSome_iff_exists.mp ((hr site).trans (by rw [ha, hi]; rfl))
    exact ⟨⟨_, _, reason⟩, ⟨site, hm, Option.map_eq_some_iff.mpr ⟨reason, hn, rfl⟩⟩, rfl, rfl⟩

/-- A call that is reported as skipped stands in its method as it was reported, or a guard has left it
out together with the chain that the guarded call was made on. An accepted call that is left out so is
reported all the same. -/
theorem skipped_mem_or_leftOut (r : Recipe) (f : SourceFile) :
    (∀ entry ∈ (r.run f).report.skipped,
      (∃ site ∈ (r.run f).file.sites, site.scope = entry.scope ∧ site.call.source = entry.call) ∨
      ∃ site ∈ f.sites, site.scope = entry.scope ∧ r.isInnermost site.call = true ∧
        ∃ c ∈ site.call.leftOut, r.pattern.acceptsCall c = true ∧ c.source = entry.call) ∧
    ∀ site ∈ f.sites, r.isInnermost site.call = true →
      ∀ c ∈ site.call.leftOut, r.pattern.acceptsCall c = true →
        ∃ entry ∈ (r.run f).report.skipped, entry.scope = site.scope ∧ entry.call = c.source := by
  constructor
  · intro entry he
    obtain ⟨site, hs, ha, hn, hscope, hcall⟩ := exists_skipped_iff.mp ⟨entry, he, rfl, rfl⟩
    obtain ⟨c, hc, m, hm, hname, e, he, hcalls⟩ := SourceFile.mem_sitesBy_iff.mp hs
    rcases rebuildParts_mem_or_leftOut hcalls hn with h | ⟨d, hd, hi, hl⟩
    · refine .inl ⟨⟨site.scope, site.call.rebuildParts _⟩, ?_, hscope, hcall⟩
      rw [run_sites]
      exact SourceFile.mem_sitesBy_iff.mpr ⟨c, hc, m, hm, hname, e, he, h⟩
    · rw [rebuildParts_of_mem_callsInside hi (d.leftOut_subset hl)] at hcall
      refine .inr ⟨⟨site.scope, d⟩, ?_, hscope, hi, site.call, hl, ha, hcall⟩
      exact SourceFile.mem_sitesBy_iff.mpr ⟨c, hc, m, hm, hname, e, he, hd⟩
  · intro site hs hi d hl ha
    obtain ⟨c, hc, m, hm, hname, e, he, hcalls⟩ := SourceFile.mem_sitesBy_iff.mp hs
    have hd : d ∈ site.call.callsInside := site.call.leftOut_subset hl
    have hn : r.isEligible d = false := by
      simpa using List.any_eq_false.mp (isInnermost_iff.mp hi).2 d hd
    refine exists_skipped_iff.mpr ⟨⟨site.scope, d⟩, ?_, ha, by rw [isInnermost, hn]; rfl, rfl, ?_⟩
    · exact SourceFile.mem_sitesBy_iff.mpr
        ⟨c, hc, m, hm, hname, e, he, Expr.mem_calls_of_mem_callsInside hcalls hd⟩
    · rw [rebuildParts_of_mem_callsInside hi hd]

theorem skipped_mem_or_leftOut_both :
    let recipe : Recipe :=
      { pattern := ⟨"a.* m()", [.glob ['a'], .any], some "m", []⟩
        target := ⟨"a.B", by decide⟩ }
    let call (receiver : Expr) (type : String) : Call :=
      { receiver := some receiver, name := "m", signature :=
        some { declaringType := type, name := "m", result := .string } }
    let alone := call (.ident "y" none) "a.C"
    let inner := call (.ident "x" none) "a.C"
    let outer := call inner.toExpr "a.B"
    let file : SourceFile := { classes := [{ name := "D", methods :=
      [{ returnType := ⟨"String", none⟩, name := "f", body :=
        [.expression alone.toExpr, .returns (some outer.toExpr)] }] }] }
    (∃ site ∈ (recipe.run file).file.sites, site.scope = "D.f" ∧ site.call.source = "y.m()") ∧
      (⟨"D.f", outer⟩ : CallSite) ∈ file.sites ∧ recipe.isInnermost outer = true ∧
      inner ∈ outer.leftOut ∧
      ∃ entry ∈ (recipe.run file).report.skipped, entry.scope = "D.f" ∧ entry.call = inner.source := by
  intro recipe call alone inner outer file
  obtain ⟨hm, hl⟩ := skipped_mem_or_leftOut recipe file
  have hs : (⟨"D.f", outer⟩ : CallSite) ∈ file.sites := by decide +kernel
  have hi : recipe.isInnermost outer = true := by decide +kernel
  have ho : inner ∈ outer.leftOut := by decide +kernel
  have he : ("D.f", "y.m()") ∈
      (recipe.run file).report.skipped.map fun entry => (entry.scope, entry.call) := by
    decide +kernel
  have hn : ∀ site ∈ file.sites, ∀ c ∈ site.call.leftOut, ¬ c.source = "y.m()" := by decide +kernel
  obtain ⟨entry, he, hy⟩ := List.mem_map.mp he
  obtain ⟨hscope, hcall⟩ := Prod.mk.inj hy
  refine ⟨?_, hs, hi, ho, hl _ hs hi inner ho (by decide +kernel)⟩
  rcases hm entry he with ⟨site, hsite, h⟩ | ⟨site, hsite, -, -, c, hc, -, h⟩
  · exact ⟨site, hsite, h.1.trans hscope, h.2.trans hcall⟩
  · exact absurd (h.trans hcall) (hn site hsite c hc)

/-- The call that is reported as skipped is the one that the guarded call was made on, and it is not
in the file any more. -/
theorem skipped_not_in_file :
    let recipe : Recipe :=
      { pattern := ⟨"a.* m()", [.glob ['a'], .any], some "m", []⟩
        target := ⟨"a.B", by decide⟩ }
    let signature (type : String) : Signature :=
      { declaringType := type, name := "m", result := .string }
    let inner : Expr := .call (some (.ident "x" none)) "m" [] (some (signature "a.C"))
    let value : Expr := .call (some inner) "m" [] (some (signature "a.B"))
    let file : SourceFile := { classes := [{ name := "D", methods :=
      [{ returnType := ⟨"String", none⟩, name := "f", body := [.returns (some value)] }] }] }
    Recipe.make "a.* m()" "a.B" {} = .ok recipe ∧
      (recipe.run file).report.skipped.map (fun entry => (entry.scope, entry.call)) =
        [("D.f", "x.m()")] ∧
      (recipe.run file).file.sites.map (fun site => (site.scope, site.call.source)) =
        [("D.f", "((B) x).m()")] := by
  intro recipe signature inner value file
  exact ⟨rfl, by decide +kernel⟩

end Recipe

end GuardedCalls
