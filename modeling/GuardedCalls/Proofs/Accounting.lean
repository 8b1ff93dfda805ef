import GuardedCalls.Proofs.Runs
import GuardedCalls.Tool.Commands
import Mathlib.Algebra.BigOperators.Group.List.Basic
import Mathlib.Algebra.GroupWithZero.Nat
import Mathlib.Data.Multiset.Defs

/-! A run and a search with the same pattern count the same calls: every accepted call is guarded or
skipped, once and in its own scope. The summary of a response adds this up over all files. -/

namespace GuardedCalls

namespace Recipe

variable (r : Recipe)

lemma countP_add_length_skipped (sites : List CallSite) :
    sites.countP (fun site => r.isEligible site.call) + (sites.filterMap r.skippedAt?).length =
      sites.countP r.pattern.finds := by
  have he : ∀ site : CallSite,
      (r.pattern.finds site && r.isEligible site.call) = r.isEligible site.call := by
    intro site
    by_cases h : r.isEligible site.call = true
    · rw [h, MethodPattern.finds, accepts_of_isEligible h, Bool.and_true]
    · simp [h]
  have hs : ∀ site : CallSite,
      (r.pattern.finds site && !r.isEligible site.call) = (r.skippedAt? site).isSome := by
    intro site
    rw [skippedAt?, Option.isSome_map, isSome_skipReason?, MethodPattern.finds]
  rw [List.countP_eq_countP_filter_add sites r.pattern.finds fun site => r.isEligible site.call,
    List.countP_filter, List.countP_filter, List.length_filterMap_eq_countP]
  simp only [he, hs]

lemma scopes_skipped_sublist (sites : List CallSite) :
    ((sites.filterMap r.skippedAt?).map SkippedCall.scope).Sublist
      ((sites.filter r.pattern.finds).map CallSite.scope) := by
  induction sites with
  | nil => exact .slnil
  | cons site sites ih =>
    have hs := isSome_skipReason? (r := r) (c := site.call)
    cases hr : r.skipReason? site.call with
    | none =>
      rw [List.filterMap_cons_none (by rw [skippedAt?, hr, Option.map_none])]
      exact ih.trans ((List.sublist_cons_self site sites).filter _ |>.map _)
    | some reason =>
      rw [hr] at hs
      have hf : r.pattern.finds site = true := (Bool.and_eq_true_iff.mp hs.symm).1
      rw [List.filterMap_cons_some (by rw [skippedAt?, hr, Option.map_some]),
        List.filter_cons_of_pos hf]
      exact ih.cons_cons site.scope

lemma filter_offered_perm (qualified : Bool) (f : SourceFile) :
    ((r.offered qualified f).filter r.pattern.finds).Perm
      ((r.pattern.findCalls f).map (CallSite.rebuildParts (r.form qualified))) := by
  rw [offered, List.filter_map, MethodPattern.findCalls_eq]
  exact (f.sites_perm_insideOut.symm.filter _).map _

lemma guarded_add_length_skipped (f : SourceFile) :
    (r.run f).report.guarded + (r.run f).report.skipped.length = (r.pattern.findCalls f).length := by
  have hc := r.countP_add_length_skipped (r.offered (f.conflictingImport? r.target).isSome f)
  have hp := (r.filter_offered_perm (f.conflictingImport? r.target).isSome f).length_eq
  rw [List.length_map, ← List.countP_eq_length_filter, ← hc] at hp
  rw [(r.run_eq f).2, ← hp]
  simp [extend]

lemma scopes_skipped_le (f : SourceFile) :
    (↑((r.run f).report.skipped.map SkippedCall.scope) : Multiset String) ≤
      ↑((r.pattern.findCalls f).map CallSite.scope) := by
  have hs := r.scopes_skipped_sublist (r.offered (f.conflictingImport? r.target).isSome f)
  have hp := (r.filter_offered_perm (f.conflictingImport? r.target).isSome f).map CallSite.scope
  rw [List.map_map] at hp
  rw [(r.run_eq f).2, Multiset.coe_le]
  exact hs.subperm.trans hp.subperm

end Recipe

lemma Summary.foldl_add_zipWith (tree : Run → Option Json) {runs : List Run} {labels : List String}
    (hl : runs.length = labels.length) (s : Summary) :
    (List.zipWith (fun run label => FileResult.of run label (tree run)) runs labels).foldl
      Summary.add s =
      { filesProcessed := s.filesProcessed + UInt32.ofNat runs.length
        filesChanged := s.filesChanged + UInt32.ofNat (runs.countP Run.changed)
        callsGuarded := s.callsGuarded + UInt32.ofNat (runs.map (·.report.guarded)).sum
        callsSkipped := s.callsSkipped + UInt32.ofNat (runs.map (·.report.skipped.length)).sum } := by
  induction runs generalizing labels s with
  | nil => simp
  | cons run runs ih =>
    cases labels with
    | nil => simp at hl
    | cons label labels =>
      have ht := ih (Nat.succ.inj hl) (s.add (FileResult.of run label (tree run)))
      rw [List.zipWith_cons_cons, List.foldl_cons, ht]
      by_cases hc : run.changed = true <;>
        simp [Summary.add, FileResult.of, hc, UInt32.ofNat_add, UInt32.add_assoc, UInt32.add_comm]

lemma Documents.length_labels (d : Documents) : d.labels.length = d.files.length := by
  rw [Documents.labels, List.length_map, List.length_range]

lemma summary_runResponse (r : Recipe) (input : Documents) :
    (runResponse (input.files.map r.run) input.labels).summary =
      { filesProcessed := UInt32.ofNat input.files.length
        filesChanged := UInt32.ofNat ((input.files.map r.run).countP Run.changed)
        callsGuarded := UInt32.ofNat (input.files.map fun f => (r.run f).report.guarded).sum
        callsSkipped :=
          UInt32.ofNat (input.files.map fun f => (r.run f).report.skipped.length).sum } := by
  have hl : (input.files.map r.run).length = input.labels.length := by
    rw [List.length_map, input.length_labels]
  have hs := Summary.foldl_add_zipWith (fun run => some run.file.toJson.sorted) hl {}
  refine Eq.trans hs ?_
  simp [Function.comp_def]

lemma length_flatten_zipWith (p : MethodPattern) {files : List SourceFile} {labels : List String}
    (hl : files.length = labels.length) :
    (List.zipWith (fun file label => (p.findCalls file).map (SiteInfo.of label)) files
      labels).flatten.length = (files.flatMap p.findCalls).length := by
  induction files generalizing labels with
  | nil => rfl
  | cons f files ih =>
    cases labels with
    | nil => simp at hl
    | cons label labels =>
      rw [List.zipWith_cons_cons, List.flatten_cons, List.length_append, List.length_map,
        ih (Nat.succ.inj hl), List.flatMap_cons, List.length_append]

lemma searchCalls_of_parse {pattern : String} {p : MethodPattern}
    (hp : MethodPattern.parse pattern = .ok p) (input : Documents) :
    ∃ found, searchCalls pattern input = .ok found ∧
      found.sites.length = (input.files.flatMap p.findCalls).length := by
  refine ⟨_, by rw [searchCalls, hp]; rfl, ?_⟩
  exact length_flatten_zipWith p input.length_labels.symm

lemma Recipe.sum_guarded_add_sum_skipped (r : Recipe) (files : List SourceFile) :
    (files.map fun f => (r.run f).report.guarded).sum +
      (files.map fun f => (r.run f).report.skipped.length).sum =
      (files.flatMap r.pattern.findCalls).length := by
  rw [← List.sum_map_add, List.length_flatMap]
  simp only [r.guarded_add_length_skipped]

lemma Settings.parse_of_build {settings : Settings} {r : Recipe} (hs : settings.build = .ok r) :
    ∃ pattern, settings.methodPattern = some pattern ∧
      MethodPattern.parse pattern = .ok r.pattern := by
  rw [Settings.build] at hs
  split at hs
  · simp at hs
  · simp at hs
  · rename_i pattern typeName hp ht
    refine ⟨pattern, hp, ?_⟩
    rw [Recipe.make] at hs
    cases hm : MethodPattern.parse pattern with
    | error e => rw [hm] at hs; exact nomatch hs
    | ok p =>
      cases hn : TypeName.parse typeName with
      | error e => rw [hm, hn] at hs; exact nomatch hs
      | ok n =>
        rw [hm, hn] at hs
        obtain rfl := Except.ok.inj hs
        rfl

theorem run_accounts_for_search :
    (∀ (r : Recipe) (f : SourceFile),
      (r.run f).report.guarded + (r.run f).report.skipped.length = (r.pattern.findCalls f).length ∧
      (↑((r.run f).report.skipped.map SkippedCall.scope) : Multiset String) ≤
        ↑((r.pattern.findCalls f).map CallSite.scope)) ∧
    ∀ (settings : Settings) (r : Recipe) (input : Documents), settings.build = .ok r →
      input.files.length < 2 ^ 32 → (input.files.flatMap r.pattern.findCalls).length < 2 ^ 32 →
      ∃ pattern response found, settings.methodPattern = some pattern ∧
        runRecipe settings input .json = .ok (.response response) ∧
        searchCalls pattern input = .ok found ∧
        response.summary.callsGuarded.toNat + response.summary.callsSkipped.toNat =
          found.sites.length ∧
        response.summary.filesProcessed.toNat = input.files.length ∧
        response.summary.filesChanged.toNat = (input.files.map r.run).countP Run.changed := by
  refine ⟨fun r f => ⟨r.guarded_add_length_skipped f, r.scopes_skipped_le f⟩, ?_⟩
  intro settings r input hs hf hc
  obtain ⟨pattern, hp, hm⟩ := Settings.parse_of_build hs
  obtain ⟨found, hfound, hsites⟩ := searchCalls_of_parse hm input
  have hn := r.sum_guarded_add_sum_skipped input.files
  have hd : (input.files.map r.run).countP Run.changed ≤ input.files.length := by
    simpa using List.countP_le_length (p := Run.changed) (l := input.files.map r.run)
  refine ⟨pattern, runResponse (input.files.map r.run) input.labels, found, hp, ?_, hfound, ?_⟩
  · rw [runRecipe, hs]
    rfl
  · rw [summary_runResponse, hsites, ← hn]
    refine ⟨?_, ?_, ?_⟩
    · rw [UInt32.toNat_ofNat_of_lt' (by change _ < 2 ^ 32; omega),
        UInt32.toNat_ofNat_of_lt' (by change _ < 2 ^ 32; omega)]
    · exact UInt32.toNat_ofNat_of_lt' hf
    · exact UInt32.toNat_ofNat_of_lt' (Nat.lt_of_le_of_lt hd hf)

theorem run_accounts_for_search_two_calls :
    let settings : Settings := ⟨some "p.Log text()", some "p.Log", none⟩
    let recipe : Recipe :=
      { pattern := ⟨"p.Log text()", [.glob ['p'], .glob ['L', 'o', 'g']], some "text", []⟩
        target := ⟨"p.Log", by decide +kernel⟩ }
    let signature : Signature := { declaringType := "p.Log", name := "text", result := .string }
    let body : List Statement :=
      [.expression (.call (some (.ident "x" none)) "text" [] (some signature)),
        .returns (some (.call none "text" [] (some signature)))]
    let file : SourceFile := { classes := [{ name := "C", methods :=
      [{ returnType := ⟨"String", none⟩, name := "f", body }] }] }
    settings.build = .ok recipe ∧ ([file].flatMap recipe.pattern.findCalls).length = 2 ∧
      (recipe.run file).report.guarded = 1 ∧
      ∃ pattern response found, settings.methodPattern = some pattern ∧
        runRecipe settings ⟨"-", [file]⟩ .json = .ok (.response response) ∧
        searchCalls pattern ⟨"-", [file]⟩ = .ok found ∧
        response.summary.callsGuarded.toNat + response.summary.callsSkipped.toNat =
          found.sites.length ∧
        response.summary.filesProcessed.toNat = 1 ∧
        response.summary.filesChanged.toNat = ([file].map recipe.run).countP Run.changed := by
  intro settings recipe signature body file
  have hs : settings.build = .ok recipe := rfl
  have hc : ([file].flatMap recipe.pattern.findCalls).length = 2 := by decide +kernel
  refine ⟨hs, hc, by decide +kernel, ?_⟩
  exact run_accounts_for_search.2 settings recipe ⟨"-", [file]⟩ hs (by decide)
    (hc ▸ by decide)

end GuardedCalls
