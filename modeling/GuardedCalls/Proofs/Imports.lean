import GuardedCalls.Java.Imports
import GuardedCalls.Proofs.Cuts
import Mathlib.Tactic.Lemma

/-! What a request for a type does to the imports of a file: it puts one import into the list, or
leaves the list alone because the name of the type is taken or needs no import. -/

namespace GuardedCalls

namespace TypeName

variable {n : TypeName} {package : String}

lemma cutLast_text (hp : n.package? = some package) :
    Text.cutLast (· = '.') n.text.toList = some (package.toList, n.simpleName.toList) := by
  obtain ⟨⟨before, after⟩, hc, hb⟩ := Option.map_eq_some_iff.mp hp
  obtain rfl : String.ofList before = package := hb
  have hs : n.simpleName = String.ofList after := by simp only [simpleName, hc]
  rw [hc, hs, String.toList_ofList, String.toList_ofList]

lemma toList_text (hp : n.package? = some package) :
    n.text.toList = package.toList ++ '.' :: n.simpleName.toList := by
  obtain ⟨c, hc, ht, -⟩ := Text.cutLast_eq_some_iff.mp (cutLast_text hp)
  obtain rfl : c = '.' := by simpa using hc
  exact ht

lemma dot_mem_text (hp : n.package? = some package) : '.' ∈ n.text.toList := by
  rw [toList_text hp]
  exact List.mem_append_right _ List.mem_cons_self

lemma cutLast_text_eq_none (hp : n.package? = none) :
    Text.cutLast (· = '.') n.text.toList = none :=
  Option.map_eq_none_iff.mp hp

lemma simpleName_of_package?_eq_none (hp : n.package? = none) : n.simpleName = n.text := by
  simp only [simpleName, cutLast_text_eq_none hp]

lemma dot_notMem_simpleName (n : TypeName) : '.' ∉ n.simpleName.toList := by
  intro hd
  cases hp : n.package? with
  | none =>
    rw [simpleName_of_package?_eq_none hp] at hd
    simpa using Text.cutLast_eq_none_iff.mp (cutLast_text_eq_none hp) '.' hd
  | some package =>
    obtain ⟨-, -, -, hs⟩ := Text.cutLast_eq_some_iff.mp (cutLast_text hp)
    simpa using hs '.' hd

end TypeName

lemma insertLast_eq (new : Import) (imports : List Import) :
    ∃ before after, imports = before ++ after ∧ insertLast new imports = before ++ new :: after ∧
      ∀ i ∈ after, i.isStatic = true := by
  rw [insertLast]
  split
  · exact ⟨imports, [], (List.append_nil _).symm, rfl, nofun⟩
  · have hs : (imports.reverse.takeWhile (·.isStatic)).reverse <:+ imports := by
      rw [← List.reverse_prefix, List.reverse_reverse]
      exact List.takeWhile_prefix _
    obtain ⟨before, hb⟩ := hs
    have hl := congrArg List.length hb
    rw [List.length_append, List.length_reverse] at hl
    refine ⟨before, _, hb.symm, ?_, fun i hi => ?_⟩
    · rw [← hl, Nat.add_sub_cancel, ← List.prefix_iff_eq_take.mp ⟨_, hb⟩]
    · exact List.mem_takeWhile_imp (List.mem_reverse.mp hi)

lemma Import.isAfter_eq_false_iff {path : String} {i : Import} :
    i.isAfter path = false ↔ (i.isStatic = false → i.path ≤ path) := by
  rw [Import.isAfter]
  cases i.isStatic with
  | true => simp
  | false =>
    rw [Bool.not_false, Bool.true_and, decide_eq_false_iff_not, String.not_lt]
    exact ⟨fun h _ => h, fun h => h rfl⟩

lemma insertImport_between (new : Import) (imports : List Import) :
    ∃ before after, imports = before ++ after ∧ insertImport new imports = before ++ new :: after ∧
      (∀ i ∈ before, i.isStatic = false → i.path ≤ new.path) ∧
      ∀ i ∈ after.find? (!·.isStatic), new.path < i.path := by
  rw [insertImport]
  split
  · rename_i ha
    refine ⟨_, _, List.takeWhile_append_dropWhile.symm, rfl, fun i hi => ?_, fun i hi => ?_⟩
    · apply Import.isAfter_eq_false_iff.mp
      simpa using List.mem_takeWhile_imp hi
    · have hne : imports.dropWhile (!Import.isAfter new.path ·) ≠ [] := by
        rw [ne_eq, List.dropWhile_eq_nil_iff]
        simpa using ha
      obtain ⟨first, rest, hd⟩ := List.exists_cons_of_ne_nil hne
      have hf : first.isAfter new.path = true := by
        have h := List.head_dropWhile_not (!Import.isAfter new.path ·) hne
        simpa [hd] using h
      rw [Import.isAfter, Bool.and_eq_true] at hf
      obtain ⟨hs, hp⟩ := hf
      rw [hd, List.find?_cons, hs] at hi
      obtain rfl := Option.some.inj hi
      exact of_decide_eq_true hp
  · rename_i ha
    obtain ⟨before, after, rfl, hn, hs⟩ := insertLast_eq new imports
    refine ⟨before, after, rfl, hn, fun i hi => ?_, fun i hi => ?_⟩
    · apply Import.isAfter_eq_false_iff.mp
      simpa using List.any_eq_false.mp (Bool.eq_false_iff.mpr ha) i (List.mem_append_left after hi)
    · have hi' := List.find?_some hi
      simp [hs i (List.mem_of_find?_eq_some hi)] at hi'

lemma insertImport_eq (new : Import) (imports : List Import) :
    ∃ before after, imports = before ++ after ∧ insertImport new imports = before ++ new :: after := by
  obtain ⟨before, after, h, hn, -⟩ := insertImport_between new imports
  exact ⟨before, after, h, hn⟩

namespace SourceFile

variable {f : SourceFile} {n : TypeName} {package : String}

lemma ensureImported_cases (hp : n.package? = some package) :
    ((f.imports? n = true ∨ (f.conflictingImport? n).isSome = true ∨ f.package = some package ∨
        package = "java.lang") ∧
      ∃ outcome, outcome ≠ .added ∧ f.ensureImported n = (f, outcome)) ∨
    (f.imports? n = false ∧ f.conflictingImport? n = none ∧
      f.ensureImported n =
        ({ f with imports := insertImport { path := n.text } f.imports }, .added)) := by
  rw [ensureImported, hp]
  by_cases hi : f.imports? n = true
  · exact .inl ⟨.inl hi, .alreadyImported, by simp, by simp [hi]⟩
  by_cases hc : (f.conflictingImport? n).isSome = true
  · exact .inl ⟨.inr (.inl hc), .conflict, by simp, by simp [hi, hc]⟩
  by_cases hs : f.package = some package
  · exact .inl ⟨.inr (.inr (.inl hs)), .samePackage, by simp, by simp [hi, hc, hs]⟩
  by_cases hl : package = "java.lang"
  · exact .inl ⟨.inr (.inr (.inr hl)), .implicit, by simp, by simp [hi, hc, hs, ← hl]⟩
  · exact .inr ⟨by simpa using hi, by simpa using hc, by simp [hi, hc, hs, hl]⟩

lemma ensureImported_of_package?_eq_none (hp : n.package? = none) :
    ∃ outcome, outcome ≠ .added ∧ f.ensureImported n = (f, outcome) := by
  refine ⟨if f.package.isNone then .samePackage else .notImportable, ?_, by rw [ensureImported, hp]⟩
  split <;> simp

lemma ensureImported_unchanged_or_inserted (f : SourceFile) (n : TypeName) :
    (f.ensureImported n).1 = f ∧ (f.ensureImported n).2 ≠ .added ∨
      f.imports? n = false ∧ f.conflictingImport? n = none ∧
        f.ensureImported n =
          ({ f with imports := insertImport { path := n.text } f.imports }, .added) := by
  cases hp : n.package? with
  | none =>
    obtain ⟨outcome, ha, he⟩ := ensureImported_of_package?_eq_none (f := f) hp
    rw [he]
    exact .inl ⟨rfl, ha⟩
  | some package =>
    rcases ensureImported_cases (f := f) hp with ⟨-, outcome, ha, he⟩ | h
    · rw [he]
      exact .inl ⟨rfl, ha⟩
    · exact .inr h

variable {g : SourceFile} {before after : List Import}

lemma conflictingImport?_insert (hf : f.imports = before ++ after)
    (hg : g.imports = before ++ { path := n.text } :: after) :
    g.conflictingImport? n = f.conflictingImport? n := by
  have hs : ({ path := n.text } : Import).shadows n = false := by simp [Import.shadows]
  simp [conflictingImport?, hf, hg, List.find?_append, hs]

lemma imports?_insert (hg : g.imports = before ++ { path := n.text } :: after) :
    g.imports? n = true := by
  simp [imports?, hg, Import.covers]

def fullName (f : SourceFile) (name : String) : String :=
  match f.package with
  | some package => package ++ "." ++ name
  | none => name

def ImportsOther (f : SourceFile) (name : String) (n : TypeName) : Prop :=
  ∃ i ∈ f.imports, i.isStatic = false ∧ i.isWildcard = false ∧ i.path ≠ n.text ∧
    i.simpleName = name

def DeclaresOther (f : SourceFile) (name : String) (n : TypeName) : Prop :=
  ∃ c ∈ f.classes, c.name = name ∧ f.fullName c.name ≠ n.text

instance (f : SourceFile) (name : String) (n : TypeName) : Decidable (f.ImportsOther name n) :=
  inferInstanceAs (Decidable (∃ i ∈ f.imports, _))

instance (f : SourceFile) (name : String) (n : TypeName) : Decidable (f.DeclaresOther name n) :=
  inferInstanceAs (Decidable (∃ c ∈ f.classes, _))

lemma importsOther_simpleName_iff :
    f.ImportsOther n.simpleName n ↔ (f.conflictingImport? n).isSome = true := by
  simp [ImportsOther, conflictingImport?, Import.shadows, and_assoc]

end SourceFile

end GuardedCalls
