import GuardedCalls.Proofs.Imports
import GuardedCalls.Proofs.Innermost

/-! How the guards that a run puts into a file spell their type, and what the imports make of that
spelling. -/

namespace GuardedCalls

lemma Expr.replaceCalls_congr {chosen : Call → Bool} {new new' : Call → Expr}
    (hn : ∀ c, chosen c = true → new c = new' c) (e : Expr) :
    e.replaceCalls chosen new = e.replaceCalls chosen new' := by
  induction e using parts_induction with
  | step e ih =>
    cases he : e.call?.any chosen with
    | true =>
      obtain ⟨c, hc, hi⟩ := (Option.any_eq_true _ _).mp he
      obtain rfl := (call?_eq_some_iff e c).mp hc
      rw [replaceCalls_toExpr_of_chosen hi, replaceCalls_toExpr_of_chosen hi, hn c hi]
    | false =>
      rw [replaceCalls_of_not_chosen he, replaceCalls_of_not_chosen he]
      exact mapParts_congr (fun s hs => congrArg (s.bracketed chosen) (ih s hs)) ih

def Call.guardedBy (type : TypeRef) (c : Call) : Expr :=
  match c.guarded? with
  | some receiver =>
    .conditional (.typeTest receiver.asOperand type)
      (.call (some (.paren (.cast type receiver.asOperand))) c.name c.arguments c.signature)
      (.string GuardTemplate.fallback) (some .string)
  | none => c.toExpr

namespace Recipe

variable (r : Recipe)

def spelled (name : String) : TypeRef :=
  ⟨name, some (.classType r.target.text)⟩

/-- The tests and casts that a run puts into the file spell the target as `name`: the classes are the
old ones with guards of this spelling in the place of the innermost eligible calls. -/
def Spells (f : SourceFile) (name : String) : Prop :=
  (r.run f).file.classes =
    f.classes.map (ClassDecl.mapExprs
      (Expr.replaceCalls r.isInnermost (Call.guardedBy (r.spelled name))))

instance (f : SourceFile) (name : String) : Decidable (r.Spells f name) :=
  inferInstanceAs (Decidable (_ = _))

variable {r}

lemma form_eq_guardedBy {c : Call} (qualified : Bool) (hc : r.isEligible c = true) :
    r.form qualified c =
      c.guardedBy (r.spelled (if qualified then r.target.text else r.target.simpleName)) := by
  obtain ⟨x, hx, hf⟩ := form_of_isEligible qualified hc
  rw [hf, Call.guardedBy, hx]
  rfl

lemma spells (f : SourceFile) :
    r.Spells f (if (f.conflictingImport? r.target).isSome then r.target.text
      else r.target.simpleName) := by
  have hr : ∀ e : Expr, e.rebuild (r.form (f.conflictingImport? r.target).isSome) =
      e.replaceCalls r.isInnermost (Call.guardedBy (r.spelled
        (if (f.conflictingImport? r.target).isSome then r.target.text else r.target.simpleName))) :=
    fun e => (rebuild_eq_replaceCalls e).trans
      (Expr.replaceCalls_congr (fun c hc => form_eq_guardedBy _ (isInnermost_iff.mp hc).1) e)
  obtain ⟨imports, hf⟩ := r.run_file f
  rw [Spells, hf]
  exact congrArg (fun g => f.classes.map (ClassDecl.mapExprs g)) (funext hr)

lemma run_package (f : SourceFile) : (r.run f).file.package = f.package := by
  obtain ⟨imports, hf⟩ := r.run_file f
  rw [hf]
  rfl

lemma run_eq_importFor (f : SourceFile) :
    ∃ g, g.package = f.package ∧ g.imports = f.imports ∧
      (r.run f).file = (r.importFor (r.run f).report.guarded g).1 ∧
      (r.run f).report.importsAdded = (r.importFor (r.run f).report.guarded g).2 := by
  obtain ⟨hf, hr⟩ := r.run_eq f
  refine ⟨f.mapExprs (Expr.rebuild (r.form (f.conflictingImport? r.target).isSome)), rfl, rfl, ?_, ?_⟩
  · rw [hf, hr]
  · rw [hr]

lemma run_imports_of_guarded_eq_zero {f : SourceFile} (hg : (r.run f).report.guarded = 0) :
    (r.run f).file.imports = f.imports ∧ (r.run f).report.importsAdded = [] := by
  obtain ⟨g, -, hi, hf, ha⟩ := run_eq_importFor (r := r) f
  rw [importFor, if_pos hg] at hf ha
  exact ⟨by rw [hf, hi], ha⟩

lemma run_imports_cases {f : SourceFile} {package : String} (hp : r.target.package? = some package)
    (hg : (r.run f).report.guarded ≠ 0) :
    ((f.imports? r.target = true ∨ (f.conflictingImport? r.target).isSome = true ∨
        f.package = some package ∨ package = "java.lang") ∧
      (r.run f).file.imports = f.imports ∧ (r.run f).report.importsAdded = []) ∨
    (f.imports? r.target = false ∧ f.conflictingImport? r.target = none ∧
      (∃ before after, f.imports = before ++ after ∧
        (r.run f).file.imports = before ++ { path := r.target.text } :: after) ∧
      (r.run f).report.importsAdded = [r.target.text]) := by
  obtain ⟨g, hn, hi, hf, ha⟩ := run_eq_importFor (r := r) f
  have hq : g.conflictingImport? r.target = f.conflictingImport? r.target := by
    rw [SourceFile.conflictingImport?, hi, SourceFile.conflictingImport?]
  have hv : g.imports? r.target = f.imports? r.target := by
    rw [SourceFile.imports?, hi, SourceFile.imports?]
  rw [importFor, if_neg hg] at hf ha
  rcases SourceFile.ensureImported_cases (f := g) hp with ⟨hc, outcome, ho, he⟩ | ⟨hc, hs, he⟩
  · rw [hq, hv, hn] at hc
    rw [he] at hf ha
    refine .inl ⟨hc, ?_⟩
    cases outcome <;> simp_all
  · rw [hq] at hs
    rw [hv] at hc
    rw [he] at hf ha
    obtain ⟨before, after, hb, hw⟩ := insertImport_eq { path := r.target.text } g.imports
    exact .inr ⟨hc, hs, ⟨before, after, hi ▸ hb, by rw [hf]; exact hw⟩, ha⟩

lemma run_conflictingImport? (f : SourceFile) :
    (r.run f).file.conflictingImport? r.target = f.conflictingImport? r.target := by
  have hsame : (r.run f).file.imports = f.imports →
      (r.run f).file.conflictingImport? r.target = f.conflictingImport? r.target := fun hi => by
    rw [SourceFile.conflictingImport?, hi, SourceFile.conflictingImport?]
  by_cases hg : (r.run f).report.guarded = 0
  · exact hsame (run_imports_of_guarded_eq_zero hg).1
  · cases hp : r.target.package? with
    | none =>
      obtain ⟨g, -, hi, hf, -⟩ := run_eq_importFor (r := r) f
      obtain ⟨outcome, ho, he⟩ := SourceFile.ensureImported_of_package?_eq_none (f := g) hp
      rw [importFor, if_neg hg, he] at hf
      refine hsame ?_
      cases outcome <;> simp_all
    | some package =>
      rcases run_imports_cases hp hg with ⟨-, hi, -⟩ | ⟨-, -, ⟨before, after, hb, ha⟩, -⟩
      · exact hsame hi
      · exact SourceFile.conflictingImport?_insert hb ha

/-- The spelling of the guards and the imports go together: a guard spells the type in full if its
simple name has been imported from elsewhere, and otherwise it spells the simple name, which the
imports, the package or the language give to the type. -/
theorem run_spelling_agrees_with_imports (r : Recipe) (f : SourceFile) {package : String}
    (hp : r.target.package? = some package) :
    let run := r.run f
    let inserted := ∃ before after, f.imports = before ++ after ∧
      run.file.imports = before ++ { path := r.target.text } :: after
    (run.report.guarded = 0 → run.file.imports = f.imports ∧ run.report.importsAdded = []) ∧
    (run.report.guarded ≠ 0 →
      ((f.conflictingImport? r.target).isSome = true ∧ r.Spells f r.target.text ∧
        run.file.imports = f.imports ∧ run.report.importsAdded = []) ∨
      (f.conflictingImport? r.target = none ∧ run.file.conflictingImport? r.target = none ∧
        r.Spells f r.target.simpleName ∧
        (run.file.imports? r.target = true ∨ run.file.package = some package ∨
          package = "java.lang") ∧
        (run.report.importsAdded = [r.target.text] ↔ inserted) ∧
        (inserted → f.imports? r.target = false) ∧
        (¬ inserted → run.report.importsAdded = [] ∧ run.file.imports = f.imports))) := by
  intro run inserted
  refine ⟨run_imports_of_guarded_eq_zero, fun hg => ?_⟩
  have hs := spells (r := r) f
  have hlength : run.file.imports = f.imports → ¬ inserted := by
    rintro h ⟨before, after, hb, ha⟩
    have hl := congrArg List.length (hb.symm.trans (h.symm.trans ha))
    simp at hl
  cases hq : f.conflictingImport? r.target with
  | some i =>
    rw [hq] at hs
    rcases run_imports_cases hp hg with ⟨-, hi, ha⟩ | ⟨-, hn, -⟩
    · exact .inl ⟨rfl, hs, hi, ha⟩
    · exact absurd (hq.symm.trans hn) (by simp)
  | none =>
    rw [hq] at hs
    have hq' : run.file.conflictingImport? r.target = none := (run_conflictingImport? f).trans hq
    rcases run_imports_cases hp hg with ⟨hc, hi, ha⟩ | ⟨hv, -, hin, ha⟩
    · have hn := hlength hi
      have hc' : run.file.imports? r.target = true ∨ run.file.package = some package ∨
          package = "java.lang" := by
        have hv : run.file.imports? r.target = f.imports? r.target := by
          rw [SourceFile.imports?, hi, SourceFile.imports?]
        rw [hv, run_package]
        simpa [hq] using hc
      exact .inr ⟨rfl, hq', hs, hc', by simp [run, ha, hn], fun h => absurd h hn, fun _ => ⟨ha, hi⟩⟩
    · obtain ⟨before, after, hb, hw⟩ := hin
      have hin : inserted := ⟨before, after, hb, hw⟩
      exact .inr ⟨rfl, hq', hs, .inl (SourceFile.imports?_insert hw), ⟨fun _ => hin, fun _ => ha⟩,
        fun _ => hv, fun h => absurd hin h⟩

theorem run_spelling_agrees_with_imports_taken :
    let recipe : Recipe :=
      { pattern := ⟨"p.Note text()", [.glob ['p'], .glob ['N', 'o', 't', 'e']], some "text", []⟩
        target := ⟨"p.Note", by decide +kernel⟩ }
    let signature : Signature := { declaringType := "p.Note", name := "text", result := .string }
    let value : Expr := .call (some (.ident "x" none)) "text" [] (some signature)
    let file : SourceFile :=
      { imports := [{ path := "p", isWildcard := true }, { path := "q.Note" }]
        classes := [{ name := "C", methods :=
          [{ returnType := ⟨"String", none⟩, name := "f", body := [.returns (some value)] }] }] }
    recipe.target.package? = some "p" ∧ (recipe.run file).report.guarded = 1 ∧
      recipe.Spells file "p.Note" ∧ (recipe.run file).file.imports = file.imports ∧
      (recipe.run file).report.importsAdded = [] := by
  intro recipe signature value file
  have hp : recipe.target.package? = some "p" := by decide +kernel
  have hg : (recipe.run file).report.guarded = 1 := by decide +kernel
  have hq : ¬ file.conflictingImport? recipe.target = none := by decide +kernel
  have ht := (run_spelling_agrees_with_imports recipe file hp).2 (hg ▸ Nat.one_ne_zero)
  exact ⟨hp, hg, (ht.resolve_right fun h => hq h.1).2⟩

lemma run_declaresOther_iff (f : SourceFile) (name : String) :
    (r.run f).file.DeclaresOther name r.target ↔ f.DeclaresOther name r.target := by
  obtain ⟨imports, hf⟩ := r.run_file f
  rw [hf]
  simp [SourceFile.DeclaresOther, SourceFile.mapExprs, SourceFile.fullName, ClassDecl.mapExprs]

/-- No import gives a spelling without a dot to another type. A class of the file does so wherever it
bears the simple name of the target and no import has taken that name: classes are not looked at. -/
theorem run_spelling_not_imported (r : Recipe) (f : SourceFile)
    (h : r.target.package?.isSome = true ∨ f.conflictingImport? r.target = none) :
    ∃ name, r.Spells f name ∧
      ¬ ('.' ∉ name.toList ∧ (r.run f).file.ImportsOther name r.target) ∧
      (('.' ∉ name.toList ∧ (r.run f).file.DeclaresOther name r.target) ↔
        f.conflictingImport? r.target = none ∧ f.DeclaresOther r.target.simpleName r.target) := by
  have hs := spells (r := r) f
  cases hq : f.conflictingImport? r.target with
  | some i =>
    rw [hq] at hs h
    obtain ⟨package, hp⟩ := Option.isSome_iff_exists.mp (h.resolve_right (by simp))
    have hd := TypeName.dot_mem_text hp
    exact ⟨_, hs, fun h => h.1 hd, by simp [hd]⟩
  | none =>
    rw [hq] at hs
    have hd := r.target.dot_notMem_simpleName
    refine ⟨_, hs, fun h => ?_, ?_⟩
    · have hc := SourceFile.importsOther_simpleName_iff.mp h.2
      simp [run_conflictingImport?, hq] at hc
    · simp [hd, run_declaresOther_iff]

theorem run_spelling_not_imported_taken :
    let recipe : Recipe :=
      { pattern := ⟨"p.Note text()", [.glob ['p'], .glob ['N', 'o', 't', 'e']], some "text", []⟩
        target := ⟨"p.Note", by decide +kernel⟩ }
    let signature : Signature := { declaringType := "p.Note", name := "text", result := .string }
    let value : Expr := .call (some (.ident "x" none)) "text" [] (some signature)
    let file : SourceFile :=
      { imports := [{ path := "q.Note" }]
        classes := [{ name := "Note", methods :=
          [{ returnType := ⟨"String", none⟩, name := "f", body := [.returns (some value)] }] }] }
    (recipe.run file).report.guarded = 1 ∧ (file.conflictingImport? recipe.target).isSome = true ∧
      ∃ name, recipe.Spells file name ∧
        ¬ ('.' ∉ name.toList ∧ (recipe.run file).file.ImportsOther name recipe.target) ∧
        ¬ ('.' ∉ name.toList ∧ (recipe.run file).file.DeclaresOther name recipe.target) := by
  intro recipe signature value file
  have hq : (file.conflictingImport? recipe.target).isSome = true := by decide +kernel
  obtain ⟨name, hs, hi, hd⟩ := run_spelling_not_imported recipe file (.inl (by decide +kernel))
  refine ⟨by decide +kernel, hq, name, hs, hi, fun h => ?_⟩
  rw [(hd.mp h).1] at hq
  exact Bool.noConfusion hq

/-- Two files in which a guard spells a name that stands for another type: one declares a class of
this name, the other imports one, and there the target has no package to be spelled with. -/
theorem run_spelling_declared_or_imported :
    let note : Recipe :=
      { pattern := ⟨"p.Note text()", [.glob ['p'], .glob ['N', 'o', 't', 'e']], some "text", []⟩
        target := ⟨"p.Note", by decide +kernel⟩ }
    let bare : Recipe :=
      { pattern := ⟨"Note text()", [.glob ['N', 'o', 't', 'e']], some "text", []⟩
        target := ⟨"Note", by decide +kernel⟩ }
    let value (type : String) : Expr :=
      .call (some (.ident "x" none)) "text" [] (some
        { declaringType := type, name := "text", result := .string })
    let method (type : String) : Method :=
      { returnType := ⟨"String", none⟩, name := "f", body := [.returns (some (value type))] }
    let declaring : SourceFile :=
      { package := some "q", classes := [{ name := "Note", methods := [method "p.Note"] }] }
    let importing : SourceFile :=
      { imports := [{ path := "q.Note" }], classes := [{ name := "C", methods := [method "Note"] }] }
    (Recipe.make "p.Note text()" "p.Note" {} = .ok note ∧
      (note.run declaring).report.guarded = 1 ∧ note.Spells declaring "Note" ∧
      (note.run declaring).file.DeclaresOther "Note" note.target) ∧
    (Recipe.make "Note text()" "Note" {} = .ok bare ∧
      (bare.run importing).report.guarded = 1 ∧ bare.Spells importing "Note" ∧
      (bare.run importing).file.ImportsOther "Note" bare.target) := by
  intro note bare value method declaring importing
  exact ⟨⟨rfl, by decide +kernel⟩, rfl, by decide +kernel⟩

end Recipe

end GuardedCalls
