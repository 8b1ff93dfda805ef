import GuardedCalls.Proofs.Verdicts
import GuardedCalls.Proofs.Walks

/-! The file and the report that a run comes to, without the steps in between: the expressions are
rebuilt, the report takes in the calls one by one from the inside out, and the target is imported
if one of them was guarded. -/

namespace GuardedCalls

namespace Recipe

variable (r : Recipe)

def skippedAt? (site : CallSite) : Option SkippedCall :=
  (r.skipReason? site.call).map (SkippedCall.mk site.scope site.call.source)

def extend (report : Report) (sites : List CallSite) : Report where
  guarded := report.guarded + sites.countP fun site => r.isEligible site.call
  skipped := report.skipped ++ sites.filterMap r.skippedAt?
  importsAdded := report.importsAdded

lemma extend_nil (report : Report) : r.extend report [] = report := by
  simp [extend]

lemma extend_append (report : Report) (as bs : List CallSite) :
    r.extend report (as ++ bs) = r.extend (r.extend report as) bs := by
  simp [extend, Nat.add_assoc]

lemma note_report (p : Progress) (c : Call) :
    (r.note p c).report = r.extend p.report [⟨p.scope.name, c⟩] := by
  have hs := isSome_skipReason? (r := r) (c := c)
  by_cases he : r.isEligible c = true
  · have hn : r.skipReason? c = none := by simpa [he] using hs
    simp [note, extend, Progress.countGuarded, skippedAt?, he, hn]
  · cases hr : r.skipReason? c <;>
      simp [note, extend, Progress.skip, Progress.note, skippedAt?, he, hr]

lemma note_scope (p : Progress) (c : Call) : (r.note p c).scope = p.scope := by
  rw [note]
  split
  · rfl
  · split <;> rfl

lemma foldl_note (p : Progress) (cs : List Call) :
    (cs.foldl r.note p).scope = p.scope ∧
      (cs.foldl r.note p).report = r.extend p.report (cs.map (CallSite.mk p.scope.name)) := by
  induction cs generalizing p with
  | nil => exact ⟨rfl, (r.extend_nil p.report).symm⟩
  | cons c cs ih =>
    obtain ⟨hs, hr⟩ := ih (r.note p c)
    refine ⟨hs.trans (r.note_scope p c), ?_⟩
    rw [List.foldl_cons, hr, note_scope, note_report, ← extend_append, List.map_cons]
    rfl

end Recipe

lemma SourceFile.ensureImported_eq (f : SourceFile) (n : TypeName) :
    ∃ imports, (f.ensureImported n).1 = { f with imports } := by
  rw [SourceFile.ensureImported]
  repeat' split
  all_goals exact ⟨_, rfl⟩

def CallSite.rebuildParts (form : Call → Expr) (site : CallSite) : CallSite :=
  { site with call := site.call.rebuildParts form }

namespace Recipe

variable {r : Recipe} {α β : Type}

/-- From every state in the scope the computation comes to the result, leaves the scope as it is
and takes the sites into the report. -/
def Records (r : Recipe) (scope : Scope) (x : StateM Progress α) (result : α)
    (sites : List CallSite) : Prop :=
  ∀ p, p.scope = scope → (x.run p).1 = result ∧ (x.run p).2.scope = scope ∧
    (x.run p).2.report = r.extend p.report sites

lemma Records.mapM {scope : Scope} {act : α → StateM Progress β} {result : α → β}
    {sites : α → List CallSite} {xs : List α}
    (hx : ∀ x ∈ xs, r.Records scope (act x) (result x) (sites x)) :
    r.Records scope (xs.mapM act) (xs.map result) (xs.flatMap sites) := by
  induction xs with
  | nil => exact fun p hp => ⟨rfl, hp, (r.extend_nil p.report).symm⟩
  | cons x xs ih =>
    intro p hp
    obtain ⟨ha, hs, hr⟩ := hx x List.mem_cons_self p hp
    obtain ⟨ha', hs', hr'⟩ := ih (fun y hy => hx y (List.mem_cons_of_mem x hy)) _ hs
    simp only [List.mapM_cons, run_bind, run_pure]
    refine ⟨?_, hs', ?_⟩
    · rw [ha, ha', List.map_cons]
    · rw [hr', hr, ← extend_append, List.flatMap_cons]

variable (r) (qualified : Bool)

lemma records_method (className : String) (m : Method) :
    r.Records ⟨some className, none⟩ (m.fold (r.hooks qualified))
      (m.mapExprs (Expr.rebuild (r.form qualified)))
      ((m.sitesBy Expr.callsInsideOut className).map
        (CallSite.rebuildParts (r.form qualified))) := by
  rintro ⟨scope, report, events⟩ rfl
  have he : ((r.hooks qualified).enterMethod m).run ⟨⟨some className, none⟩, report, events⟩ =
      ((), ⟨⟨some className, some m.name⟩, report, events⟩) := rfl
  have hl : ∀ m p, ((r.hooks qualified).method m).run p =
      (m, { p with scope := p.scope.leaveMethod }) := fun _ _ => rfl
  have hb := Statement.foldBlock_run (r.hooks_onCalls qualified) m
    ⟨⟨some className, some m.name⟩, report, events⟩
  obtain ⟨hs, hr⟩ := r.foldl_note ⟨⟨some className, some m.name⟩, report, events⟩
    ((m.roots.flatMap Expr.callsInsideOut).map (Call.rebuildParts (r.form qualified)))
  simp only [Method.fold, run_bind, he, hb, hl, hs, hr]
  refine ⟨rfl, rfl, ?_⟩
  simp [Method.sitesBy, Scope.name, CallSite.rebuildParts, Function.comp_def]

lemma records_classDecl (c : ClassDecl) :
    r.Records {} (c.fold (r.hooks qualified)) (c.mapExprs (Expr.rebuild (r.form qualified)))
      ((c.sitesBy Expr.callsInsideOut).map (CallSite.rebuildParts (r.form qualified))) := by
  rintro ⟨scope, report, events⟩ rfl
  have he : ((r.hooks qualified).enterClass c).run ⟨{}, report, events⟩ =
      ((), ⟨⟨some c.name, none⟩, report, events⟩) := rfl
  have hl : ∀ c p, ((r.hooks qualified).classDecl c).run p = (c, { p with scope := {} }) :=
    fun _ _ => rfl
  obtain ⟨hm, hs, hr⟩ := Records.mapM (fun m (_ : m ∈ c.methods) => r.records_method qualified c.name m)
    ⟨⟨some c.name, none⟩, report, events⟩ rfl
  simp only [ClassDecl.fold, run_bind, he, hm, hl, hr]
  refine ⟨rfl, trivial, ?_⟩
  rw [ClassDecl.sitesBy, List.map_flatMap]

def offered (f : SourceFile) : List CallSite :=
  f.sitesInsideOut.map (CallSite.rebuildParts (r.form qualified))

lemma records_classes (f : SourceFile) :
    r.Records {} (f.classes.mapM (·.fold (r.hooks qualified)))
      (f.mapExprs (Expr.rebuild (r.form qualified))).classes (r.offered qualified f) := by
  have hc := Records.mapM fun c (_ : c ∈ f.classes) => r.records_classDecl qualified c
  rwa [← List.map_flatMap] at hc

def importFor (guarded : Nat) (f : SourceFile) : SourceFile × List String :=
  if guarded = 0 then (f, [])
  else match f.ensureImported r.target with
    | (f, .added) => (f, [r.target.text])
    | (f, _) => (f, [])

lemma importFor_eq (guarded : Nat) (f : SourceFile) :
    ∃ imports, (r.importFor guarded f).1 = { f with imports } := by
  obtain ⟨imports, hi⟩ := f.ensureImported_eq r.target
  rw [importFor]
  split
  · exact ⟨f.imports, rfl⟩
  · generalize f.ensureImported r.target = imported at hi
    split <;> exact ⟨imports, hi⟩

lemma importTarget_run (f : SourceFile) (p : Progress) :
    ((r.importTarget f).run p).1 = (r.importFor p.report.guarded f).1 ∧
      ((r.importTarget f).run p).2.report = { p.report with
        importsAdded := p.report.importsAdded ++ (r.importFor p.report.guarded f).2 } := by
  by_cases hg : p.report.guarded = 0
  · simp only [importTarget, importFor, run_bind, run_get, hg, ↓reduceIte, run_pure, List.append_nil]
    exact ⟨trivial, congrArg (Report.mk · _ _) hg⟩
  · simp only [importTarget, importFor, run_bind, run_get, hg, ↓reduceIte]
    obtain ⟨g, outcome⟩ := f.ensureImported r.target
    cases outcome <;> simp only [run_bind, run_modify, run_pure, List.append_nil] <;>
      exact ⟨trivial, rfl⟩

lemma fold_file (f : SourceFile) (p : Progress) (hs : p.scope = {}) (hr : p.report = {}) :
    let report := r.extend {} (r.offered qualified f)
    let imported := r.importFor report.guarded (f.mapExprs (Expr.rebuild (r.form qualified)))
    ((f.fold (r.hooks qualified)).run p).1 = imported.1 ∧
      ((f.fold (r.hooks qualified)).run p).2.report = { report with importsAdded := imported.2 } := by
  obtain ⟨hc, -, hp⟩ := r.records_classes qualified f p hs
  have hi := r.importTarget_run (f.mapExprs (Expr.rebuild (r.form qualified)))
    ((f.classes.mapM (ClassDecl.fold (r.hooks qualified))).run p).2
  rw [hp, hr] at hi
  have he : ((r.hooks qualified).enterFile f).run p = ((), p) := rfl
  simp only [SourceFile.fold, run_bind, he, hc]
  exact hi

lemma guardFile_eq (f : SourceFile) :
    let qualified := (f.conflictingImport? r.target).isSome
    let report := r.extend {} (r.offered qualified f)
    let imported := r.importFor report.guarded (f.mapExprs (Expr.rebuild (r.form qualified)))
    (r.guardFile f).file = imported.1 ∧
      (r.guardFile f).report = { report with importsAdded := imported.2 } := by
  cases hq : f.conflictingImport? r.target with
  | none =>
    simp only [guardFile, hq]
    exact r.fold_file false f {} rfl rfl
  | some i =>
    simp only [guardFile, hq]
    exact r.fold_file true f (Progress.note {} _) rfl rfl

lemma extend_eq_self {sites : List CallSite} (report : Report)
    (hs : ∀ site ∈ sites, r.pattern.acceptsCall site.call = false) :
    r.extend report sites = report := by
  have hg : sites.countP (fun site => r.isEligible site.call) = 0 :=
    List.countP_eq_zero.mpr fun site hm => by simp [isEligible_of_not_accepts (hs site hm)]
  have hn : sites.filterMap r.skippedAt? = [] :=
    List.filterMap_eq_nil_iff.mpr fun site hm => by
      rw [skippedAt?, skipReason?_of_not_accepts (hs site hm), Option.map_none]
  rw [extend, hg, hn, Nat.add_zero, List.append_nil]

lemma mapExprs_rebuild_eq_self {f : SourceFile} (hf : ∀ c ∈ f.calls, r.isEligible c = false) :
    f.mapExprs (Expr.rebuild (r.form qualified)) = f := by
  refine SourceFile.mapExprs_eq_self fun e he => Expr.rebuild_eq_self fun c hc => ?_
  apply form_of_not_isEligible
  apply hf
  rw [f.calls_eq]
  exact List.mem_flatMap.mpr ⟨e, he, hc⟩

lemma offered_not_accepted {f : SourceFile} (hf : ∀ c ∈ f.calls, r.pattern.acceptsCall c = false) :
    ∀ site ∈ r.offered qualified f, r.pattern.acceptsCall site.call = false := by
  intro site hs
  obtain ⟨old, ho, rfl⟩ := List.mem_map.mp hs
  exact hf old.call (f.call_mem_of_mem_sitesInsideOut ho)

lemma not_accepted_of_findCalls {f : SourceFile} (hf : r.pattern.findCalls f = []) :
    ∀ c ∈ f.calls, r.pattern.acceptsCall c = false := by
  intro c hc
  by_contra hn
  have ho := (r.pattern.occursIn_iff (f := f)).mpr ⟨c, hc, by simpa using hn⟩
  exact r.pattern.occursIn_iff_findCalls.mp ho hf

lemma fold_of_findCalls {f : SourceFile} (hf : r.pattern.findCalls f = []) :
    ((f.fold (r.hooks qualified)).run {}).1 = f ∧
      ((f.fold (r.hooks qualified)).run {}).2.report = {} := by
  have hn := r.not_accepted_of_findCalls hf
  obtain ⟨hg, hr⟩ := r.fold_file qualified f {} rfl rfl
  rw [hg, hr, r.extend_eq_self {} (r.offered_not_accepted qualified hn),
    r.mapExprs_rebuild_eq_self qualified fun c hc => isEligible_of_not_accepts (hn c hc)]
  exact ⟨rfl, rfl⟩

lemma run_eq_guardFile (f : SourceFile) :
    (r.run f).file = (r.guardFile f).file ∧ (r.run f).report = (r.guardFile f).report := by
  by_cases ho : r.pattern.occursIn f = true
  · simp [run, ho]
  · have hf : ∀ c ∈ f.calls, r.pattern.acceptsCall c = false := fun c hc => by
      by_contra hn
      exact ho ((MethodPattern.occursIn_iff _).mpr ⟨c, hc, by simpa using hn⟩)
    obtain ⟨hg, hr⟩ := r.guardFile_eq f
    rw [hg, hr, r.extend_eq_self {} (r.offered_not_accepted _ hf),
      r.mapExprs_rebuild_eq_self _ fun c hc => isEligible_of_not_accepts (hf c hc)]
    simp [run, ho, importFor]

theorem run_eq (f : SourceFile) :
    let qualified := (f.conflictingImport? r.target).isSome
    let report := r.extend {} (r.offered qualified f)
    let imported := r.importFor report.guarded (f.mapExprs (Expr.rebuild (r.form qualified)))
    (r.run f).file = imported.1 ∧
      (r.run f).report = { report with importsAdded := imported.2 } := by
  rw [(r.run_eq_guardFile f).1, (r.run_eq_guardFile f).2]
  exact r.guardFile_eq f

lemma run_file (f : SourceFile) : ∃ imports, (r.run f).file =
    { f.mapExprs (Expr.rebuild (r.form (f.conflictingImport? r.target).isSome)) with imports } := by
  rw [(r.run_eq f).1]
  exact r.importFor_eq _ _

lemma run_roots (f : SourceFile) :
    (r.run f).file.roots =
      f.roots.map (Expr.rebuild (r.form (f.conflictingImport? r.target).isSome)) := by
  obtain ⟨imports, hf⟩ := r.run_file f
  rw [hf, ← SourceFile.roots_mapExprs]
  rfl

/-- The walk that looks for an accepted call spares a run its fold, and that is all it does: the fold
comes to the same file and the same report. -/
theorem run_eq_fold :
    (∀ (p : MethodPattern) (f : SourceFile), p.occursIn f = true ↔ p.findCalls f ≠ []) ∧
    ∀ (r : Recipe) (f : SourceFile),
      let fold (qualified : Bool) := (f.fold (r.hooks qualified)).run {}
      (r.run f).file = (fold (f.conflictingImport? r.target).isSome).1 ∧
      (r.run f).report = (fold (f.conflictingImport? r.target).isSome).2.report ∧
      (r.pattern.findCalls f = [] →
        ∀ qualified, (fold qualified).1 = f ∧ (fold qualified).2.report = {}) := by
  refine ⟨fun p f => p.occursIn_iff_findCalls, ?_⟩
  intro r f fold
  obtain ⟨hf, hr⟩ := r.run_eq f
  obtain ⟨hf', hr'⟩ := r.fold_file (f.conflictingImport? r.target).isSome f {} rfl rfl
  exact ⟨hf.trans hf'.symm, hr.trans hr'.symm, fun hn qualified => r.fold_of_findCalls qualified hn⟩

theorem run_eq_fold_other_arity :
    let recipe : Recipe :=
      { pattern := ⟨"a.C m()", [.glob ['a'], .glob ['C']], some "m", []⟩
        target := ⟨"a.C", by decide +kernel⟩ }
    let signature : Signature :=
      { declaringType := "a.C", name := "m", parameters := [.string], result := .string }
    let value : Expr := .call (some (.ident "x" none)) "m" [.string "!"] (some signature)
    let file : SourceFile := { classes := [{ name := "D", methods :=
      [{ returnType := ⟨"String", none⟩, name := "f", body := [.returns (some value)] }] }] }
    file.calls.length = 1 ∧ recipe.pattern.findCalls file = [] ∧
      ((file.fold (recipe.hooks true)).run {}).1 = file ∧
      ((file.fold (recipe.hooks true)).run {}).2.report = {} := by
  intro recipe signature value file
  have hf : recipe.pattern.findCalls file = [] := by decide +kernel
  exact ⟨by decide +kernel, hf, (run_eq_fold.2 recipe file).2.2 hf true⟩

end Recipe

end GuardedCalls
