import GuardedCalls.Proofs.Imports
import Mathlib.Data.List.Nodup
import Mathlib.Data.List.Perm.Basic

/-! Requests for types, one after another. Whatever their order, no two imports of single types come
to give the same simple name, and no import is lost, moved or added twice. -/

namespace GuardedCalls

def Import.single (path : String) : Import :=
  { path := path }

def Import.isSingleType (i : Import) : Bool :=
  !i.isStatic && !i.isWildcard

namespace SourceFile

def importedNames (f : SourceFile) : List String :=
  (f.imports.filter Import.isSingleType).map Import.simpleName

def requestAll (f : SourceFile) (names : List TypeName) : SourceFile :=
  names.foldl (fun f n => (f.ensureImported n).1) f

def outcomes : SourceFile → List TypeName → List (TypeName × ImportOutcome)
  | _, [] => []
  | f, n :: names => (n, (f.ensureImported n).2) :: (f.ensureImported n).1.outcomes names

def added (f : SourceFile) (names : List TypeName) : List String :=
  (f.outcomes names).filterMap fun (n, outcome) => if outcome = .added then some n.text else none

variable {f g : SourceFile} {n : TypeName} {names : List TypeName}

lemma request_cases (f : SourceFile) (n : TypeName) :
    (f.ensureImported n).1 = f ∧ (f.ensureImported n).2 ≠ .added ∨
      (f.ensureImported n).2 = .added ∧ f.imports? n = false ∧ f.conflictingImport? n = none ∧
        ∃ before after, f.imports = before ++ after ∧
          (f.ensureImported n).1 = { f with imports := before ++ { path := n.text } :: after } := by
  rcases f.ensureImported_unchanged_or_inserted n with h | ⟨hi, hc, he⟩
  · exact .inl h
  · obtain ⟨before, after, hf, hn⟩ := insertImport_eq { path := n.text } f.imports
    rw [he, hn]
    exact .inr ⟨rfl, hi, hc, before, after, hf, rfl⟩

lemma package_ensureImported (f : SourceFile) (n : TypeName) :
    (f.ensureImported n).1.package = f.package := by
  rcases request_cases f n with ⟨hu, -⟩ | ⟨-, -, -, before, after, -, hg⟩
  · rw [hu]
  · rw [hg]

lemma imports_sublist (f : SourceFile) (n : TypeName) :
    f.imports.Sublist (f.ensureImported n).1.imports := by
  rcases request_cases f n with ⟨hu, -⟩ | ⟨-, -, -, before, after, hf, hg⟩
  · rw [hu]
  · rw [hf, hg]
    exact (List.Sublist.refl before).append (List.sublist_cons_self _ after)

lemma simpleName_notMem_importedNames (hi : f.imports? n = false)
    (hc : f.conflictingImport? n = none) : n.simpleName ∉ f.importedNames := by
  intro hm
  obtain ⟨i, hi', hn⟩ := List.mem_map.mp hm
  obtain ⟨hif, hs⟩ := List.mem_filter.mp hi'
  have hs : i.isStatic = false ∧ i.isWildcard = false := by
    simpa [Import.isSingleType] using hs
  have hcov := List.any_eq_false.mp hi i hif
  have hsh := List.find?_eq_none.mp hc i hif
  simp [Import.covers, hs] at hcov
  simp [Import.shadows, hs, hcov, hn] at hsh

lemma nodup_importedNames_ensureImported (n : TypeName) (hf : f.importedNames.Nodup) :
    (f.ensureImported n).1.importedNames.Nodup := by
  rcases request_cases f n with ⟨hu, -⟩ | ⟨-, hi, hc, before, after, himports, hg⟩
  · rwa [hu]
  · have hn := simpleName_notMem_importedNames hi hc
    have hs : ({ path := n.text } : Import).simpleName = n.simpleName := rfl
    have hnew : (f.ensureImported n).1.importedNames.Perm (n.simpleName :: f.importedNames) := by
      rw [hg, importedNames, importedNames, himports, ← hs, ← List.map_cons]
      refine List.Perm.map _ ?_
      rw [List.filter_append, List.filter_append, List.filter_cons_of_pos rfl]
      exact List.perm_middle
    exact hnew.nodup_iff.mpr (List.nodup_cons.mpr ⟨hn, hf⟩)

lemma ensureImported_of_imports? (hi : f.imports? n = true) :
    (f.ensureImported n).1 = f ∧ (f.ensureImported n).2 ≠ .added := by
  rcases request_cases f n with h | ⟨-, hn, -⟩
  · exact h
  · exact absurd hi (by simp [hn])

lemma ensureImported_again (f : SourceFile) (n : TypeName) :
    let g := (f.ensureImported n).1
    (g.ensureImported n).1 = g ∧ (g.ensureImported n).2 ≠ .added := by
  intro g
  rcases request_cases f n with ⟨hu, ha⟩ | ⟨-, -, -, before, after, -, hg⟩
  · have hgf : g = f := hu
    rw [hgf]
    exact ⟨hu, ha⟩
  · have hgf : g = _ := hg
    apply ensureImported_of_imports?
    exact imports?_insert (congrArg imports hgf)

lemma imports?_of_sublist (hs : f.imports.Sublist g.imports) (hi : f.imports? n = true) :
    g.imports? n = true := by
  obtain ⟨i, hi, hc⟩ := List.any_eq_true.mp hi
  exact List.any_eq_true.mpr ⟨i, hs.subset hi, hc⟩

lemma importsOther_of_sublist {name : String} (hs : f.imports.Sublist g.imports)
    (ho : f.ImportsOther name n) : g.ImportsOther name n := by
  obtain ⟨i, hi, h⟩ := ho
  exact ⟨i, hs.subset hi, h⟩

lemma ensureImported_provides {package : String} (hp : n.package? = some package)
    (ho : f.package ≠ some package) (hl : package ≠ "java.lang") :
    (f.ensureImported n).1.imports? n = true ∨
      (f.ensureImported n).1.ImportsOther n.simpleName n := by
  rcases ensureImported_cases (f := f) hp with ⟨hw, outcome, -, he⟩ | ⟨-, -, he⟩
  · rw [he]
    rcases hw with hi | hc | hs | hj
    · exact .inl hi
    · exact .inr (importsOther_simpleName_iff.mpr hc)
    · exact absurd hs ho
    · exact absurd hj hl
  · rw [he]
    obtain ⟨before, after, -, hn⟩ := insertImport_eq { path := n.text } f.imports
    exact .inl (imports?_insert hn)

lemma requestAll_cons (f : SourceFile) (n : TypeName) (names : List TypeName) :
    f.requestAll (n :: names) = (f.ensureImported n).1.requestAll names := rfl

lemma requestAll_append (f : SourceFile) (as bs : List TypeName) :
    f.requestAll (as ++ bs) = (f.requestAll as).requestAll bs :=
  List.foldl_append

lemma added_cons (f : SourceFile) (n : TypeName) (names : List TypeName) :
    f.added (n :: names) = (if (f.ensureImported n).2 = .added then [n.text] else []) ++
      (f.ensureImported n).1.added names := by
  rw [added, outcomes, List.filterMap_cons]
  split <;> simp_all [added]

lemma package_requestAll (f : SourceFile) (names : List TypeName) :
    (f.requestAll names).package = f.package := by
  induction names generalizing f with
  | nil => rfl
  | cons n names ih => rw [requestAll_cons, ih, package_ensureImported]

lemma imports_sublist_requestAll (f : SourceFile) (names : List TypeName) :
    f.imports.Sublist (f.requestAll names).imports := by
  induction names generalizing f with
  | nil => exact List.Sublist.refl _
  | cons n names ih => exact (imports_sublist f n).trans (ih _)

lemma nodup_importedNames_requestAll (hf : f.importedNames.Nodup) (names : List TypeName) :
    (f.requestAll names).importedNames.Nodup := by
  induction names generalizing f with
  | nil => exact hf
  | cons n names ih => exact ih (nodup_importedNames_ensureImported n hf)

lemma text_notMem_added (hi : f.imports? n = true) (names : List TypeName) :
    n.text ∉ f.added names := by
  induction names generalizing f with
  | nil => simp [added, outcomes]
  | cons m names ih =>
    rw [added_cons, List.mem_append, not_or]
    constructor
    · split
      · rename_i ha
        intro hm
        have hn : n = m := by
          cases n
          cases m
          simpa using hm
        exact (ensureImported_of_imports? hi).2 (hn ▸ ha)
      · simp
    · exact ih (imports?_of_sublist (imports_sublist f m) hi)

lemma nodup_added (f : SourceFile) (names : List TypeName) : (f.added names).Nodup := by
  induction names generalizing f with
  | nil => exact List.nodup_nil
  | cons n names ih =>
    rw [added_cons]
    rcases request_cases f n with ⟨-, ha⟩ | ⟨ha, -, -, before, after, -, hg⟩
    · rw [if_neg ha, List.nil_append]
      exact ih _
    · rw [if_pos ha, List.singleton_append, List.nodup_cons]
      exact ⟨text_notMem_added (imports?_insert (congrArg imports hg)) names, ih _⟩

lemma imports_requestAll_perm (f : SourceFile) (names : List TypeName) :
    (f.requestAll names).imports.Perm
      (f.imports ++ (f.added names).map Import.single) := by
  induction names generalizing f with
  | nil => simp [requestAll, added, outcomes]
  | cons n names ih =>
    rw [requestAll_cons, added_cons]
    refine (ih _).trans ?_
    rcases request_cases f n with ⟨hu, ha⟩ | ⟨ha, -, -, before, after, hf, hg⟩
    · rw [if_neg ha, hu, List.nil_append]
    · rw [if_pos ha, hf, List.map_append, ← List.append_assoc]
      refine List.Perm.append_right _ ?_
      rw [hg]
      exact List.perm_middle.trans (List.perm_append_singleton _ _).symm

lemma requestAll_provides {package : String} (hm : n ∈ names) (hp : n.package? = some package)
    (ho : f.package ≠ some package) (hl : package ≠ "java.lang") :
    (f.requestAll names).imports? n = true ∨ (f.requestAll names).ImportsOther n.simpleName n := by
  obtain ⟨before, after, rfl⟩ := List.append_of_mem hm
  have hs := imports_sublist_requestAll ((f.requestAll before).ensureImported n).1 after
  rw [← package_requestAll f before] at ho
  rw [requestAll_append, requestAll_cons]
  rcases ensureImported_provides hp ho hl with hi | hc
  · exact .inl (imports?_of_sublist hs hi)
  · exact .inr (importsOther_of_sublist hs hc)

/-- After each request of a sequence no two imports of single types give the same name, all imports
are still there in their order, and the same request once more does nothing. Over the sequence no type
is added twice, the imports are the old ones and the added ones, and a type that needs an import has
one, unless its name is taken. -/
theorem requests_keep_names_distinct (hf : f.importedNames.Nodup) (names : List TypeName) :
    (∀ before n after, names = before ++ n :: after →
      let g := f.requestAll before
      let h := (g.ensureImported n).1
      h.importedNames.Nodup ∧ g.imports.Sublist h.imports ∧
        (h.ensureImported n).1 = h ∧ (h.ensureImported n).2 ≠ .added) ∧
    (f.added names).Nodup ∧
    (f.requestAll names).imports.Perm (f.imports ++ (f.added names).map Import.single) ∧
    ∀ n ∈ names, ∀ package, n.package? = some package → f.package ≠ some package →
      package ≠ "java.lang" →
        (f.requestAll names).imports? n = true ∨
          (f.requestAll names).ImportsOther n.simpleName n := by
  refine ⟨?_, nodup_added f names, imports_requestAll_perm f names, ?_⟩
  · intro before n after _ g h
    have hg : g.importedNames.Nodup := nodup_importedNames_requestAll hf before
    exact ⟨nodup_importedNames_ensureImported n hg, imports_sublist g n, ensureImported_again g n⟩
  · intro n hn package hp ho hl
    exact requestAll_provides hn hp ho hl

theorem requests_keep_names_distinct_taken :
    let file : SourceFile := { imports := [.single "a.X"] }
    let first : List TypeName :=
      [⟨"b.X", by decide⟩, ⟨"c.Y", by decide⟩, ⟨"d.Y", by decide⟩]
    let again : TypeName := ⟨"c.Y", by decide⟩
    let done := file.requestAll (first ++ [again])
    file.importedNames.Nodup ∧
      (file.outcomes (first ++ [again])).map Prod.snd =
        [.conflict, .added, .conflict, .alreadyImported] ∧
      done.importedNames.Nodup ∧ (done.ensureImported again).1 = done ∧
      done.imports.Perm [.single "a.X", .single "c.Y"] := by
  intro file first again done
  have hf : file.importedNames.Nodup := by decide +kernel
  obtain ⟨hstep, -, hperm, -⟩ := requests_keep_names_distinct hf (first ++ [again])
  obtain ⟨hd, -, hr, -⟩ := hstep first again [] rfl
  have ha : file.added (first ++ [again]) = ["c.Y"] := by decide +kernel
  rw [ha] at hperm
  exact ⟨hf, by decide +kernel, hd, hr, hperm⟩

end SourceFile

end GuardedCalls
