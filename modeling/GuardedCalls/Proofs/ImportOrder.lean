import GuardedCalls.Proofs.ImportRequests

/-! Where a request for a type puts the new import. Static imports can stand anywhere and do not count;
of the others those with a path up to the new one stay before it, and if all were sorted they still
are. -/

namespace GuardedCalls

lemma paths_le_of_first {path : String} {after : List Import}
    (hs : ((after.filter (!·.isStatic)).map Import.path).Pairwise (· ≤ ·))
    (hf : ∀ i ∈ after.find? (!·.isStatic), path < i.path) :
    ∀ p ∈ (after.filter (!·.isStatic)).map Import.path, path ≤ p := by
  rw [← List.head?_filter] at hf
  cases hl : after.filter (!·.isStatic) with
  | nil => simp
  | cons first rest =>
    rw [hl] at hs hf
    have hfirst : path ≤ first.path := String.not_lt.mp (String.lt_asymm (hf first rfl))
    rw [List.map_cons, List.pairwise_cons] at hs
    rw [List.map_cons, List.forall_mem_cons]
    exact ⟨hfirst, fun p hp => String.le_trans hfirst (hs.1 p hp)⟩

namespace SourceFile

def importedPaths (f : SourceFile) : List String :=
  (f.imports.filter (!·.isStatic)).map Import.path

def NeedsImport (f : SourceFile) (n : TypeName) : Prop :=
  f.imports? n = false ∧ f.conflictingImport? n = none ∧
    ∃ package, n.package? = some package ∧ f.package ≠ some package ∧ package ≠ "java.lang"

variable {f g : SourceFile} {n : TypeName} {before after : List Import}

lemma ensureImported_eq_added_iff (f : SourceFile) (n : TypeName) :
    (f.ensureImported n).2 = .added ↔ f.NeedsImport n := by
  rw [ensureImported, NeedsImport]
  cases n.package? with
  | none => cases f.package <;> simp
  | some package =>
    cases f.imports? n with
    | true => simp
    | false =>
      cases f.conflictingImport? n with
      | some i => simp
      | none =>
        by_cases hs : f.package = some package
        · simp [hs]
        · by_cases hl : package = "java.lang" <;> simp_all

lemma importedPaths_insert (hg : g.imports = before ++ Import.single n.text :: after) :
    g.importedPaths = (before.filter (!·.isStatic)).map Import.path ++
      n.text :: (after.filter (!·.isStatic)).map Import.path := by
  rw [importedPaths, hg, List.filter_append, List.filter_cons_of_pos rfl, List.map_append,
    List.map_cons]
  rfl

lemma pairwise_importedPaths_insert (hf : f.imports = before ++ after)
    (hg : g.imports = before ++ Import.single n.text :: after)
    (hb : ∀ i ∈ before, i.isStatic = false → i.path ≤ n.text)
    (ha : ∀ i ∈ after.find? (!·.isStatic), n.text < i.path)
    (hs : f.importedPaths.Pairwise (· ≤ ·)) : g.importedPaths.Pairwise (· ≤ ·) := by
  rw [importedPaths, hf, List.filter_append, List.map_append, List.pairwise_append] at hs
  obtain ⟨hbefore, hafter, hcross⟩ := hs
  have hle : ∀ p ∈ (before.filter (!·.isStatic)).map Import.path, p ≤ n.text := by
    intro p hp
    obtain ⟨i, hi, rfl⟩ := List.mem_map.mp hp
    obtain ⟨hi, hn⟩ := List.mem_filter.mp hi
    exact hb i hi (by simpa using hn)
  rw [importedPaths_insert hg, List.pairwise_append, List.pairwise_cons]
  refine ⟨hbefore, ⟨paths_le_of_first hafter ha, hafter⟩, fun p hp q hq => ?_⟩
  rcases List.mem_cons.mp hq with rfl | hq
  · exact hle p hp
  · exact hcross p hp q hq

theorem ensureImported_inserts_in_order (f : SourceFile) (n : TypeName) :
    let g := (f.ensureImported n).1
    let outcome := (f.ensureImported n).2
    g.package = f.package ∧ g.classes = f.classes ∧ (outcome = .added ↔ f.NeedsImport n) ∧
      (outcome ≠ .added → g.imports = f.imports) ∧
      (outcome = .added → ∃ before after, f.imports = before ++ after ∧
        g.imports = before ++ Import.single n.text :: after ∧
        (∀ i ∈ before, i.isStatic = false → i.path ≤ n.text) ∧
        (∀ i ∈ after.find? (!·.isStatic), n.text < i.path) ∧
        (f.importedPaths.Pairwise (· ≤ ·) → g.importedPaths.Pairwise (· ≤ ·))) := by
  intro g outcome
  have hadded : outcome = .added ↔ f.NeedsImport n := f.ensureImported_eq_added_iff n
  rcases f.ensureImported_unchanged_or_inserted n with ⟨he, ha⟩ | ⟨-, -, he⟩
  · have hg : g = f := he
    rw [hg]
    exact ⟨rfl, rfl, hadded, fun _ => rfl, fun h => absurd h ha⟩
  · have hg : g = { f with imports := insertImport (.single n.text) f.imports } := congrArg Prod.fst he
    have ho : outcome = .added := congrArg Prod.snd he
    obtain ⟨before, after, hf, hi, hb, ha⟩ := insertImport_between (.single n.text) f.imports
    have hgi : g.imports = before ++ Import.single n.text :: after := by rw [hg, ← hi]
    rw [hg] at hgi ⊢
    refine ⟨rfl, rfl, hadded, fun h => absurd ho h, fun _ => ⟨before, after, hf, hgi, hb, ha, ?_⟩⟩
    exact pairwise_importedPaths_insert hf hgi hb ha

theorem ensureImported_inserts_in_order_static :
    let file : SourceFile :=
      { package := some "p"
        imports := [{ path := "z.Sort.by", isStatic := true }, .single "a.A",
          { path := "c.M", isStatic := true, isWildcard := true }, { path := "b", isWildcard := true },
          { path := "a.N.of", isStatic := true }] }
    let g := (file.ensureImported ⟨"b.c.D", by decide⟩).1
    (file.ensureImported ⟨"b.c.D", by decide⟩).2 = .added ∧
      file.importedPaths.Pairwise (· ≤ ·) ∧ g.importedPaths = ["a.A", "b", "b.c.D"] ∧
      g.importedPaths.Pairwise (· ≤ ·) ∧ g.imports[4]? = some (.single "b.c.D") := by
  intro file g
  have hadded : (file.ensureImported ⟨"b.c.D", by decide⟩).2 = .added := by decide +kernel
  have hs : file.importedPaths.Pairwise (· ≤ ·) := by decide +kernel
  obtain ⟨-, -, -, -, h⟩ := ensureImported_inserts_in_order file ⟨"b.c.D", by decide⟩
  obtain ⟨before, after, -, -, -, -, hsorted⟩ := h hadded
  exact ⟨hadded, hs, by decide +kernel, hsorted hs, by decide +kernel⟩

end SourceFile

end GuardedCalls
