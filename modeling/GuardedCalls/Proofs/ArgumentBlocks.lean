import GuardedCalls.Proofs.MethodPatterns
import Mathlib.Data.List.Forall2

/-! Which parameters an argument list takes: it takes them if and only if their names can be cut
into blocks, one for each item of the text and in its order, such that each item takes its own. -/

namespace GuardedCalls

open Text (pieces trim isUppercase)
open Pattern (Slot Aligned Covers aligns_iff)
open TypePattern (Spells)

namespace Pattern

variable {α : Type}

def Slot.Takes : Slot α → List α → Prop
  | .one test, block => ∃ x, test x = true ∧ block = [x]
  | .run test, block => ∀ x ∈ block, test x = true

lemma aligned_cons_iff {slot : Slot α} {slots : List (Slot α)} {xs : List α} :
    Aligned (slot :: slots) xs ↔
      ∃ block rest, slot.Takes block ∧ Aligned slots rest ∧ xs = block ++ rest := by
  constructor
  · intro h
    cases slot with
    | one test =>
      cases h with
      | @one _ x _ rest hx hr => exact ⟨[x], rest, ⟨x, hx, rfl⟩, hr, rfl⟩
    | run test =>
      obtain ⟨taken, rest, rfl, ht, hr⟩ := h.exists_run
      exact ⟨taken, rest, ht, hr, rfl⟩
  · rintro ⟨block, rest, hb, hr, rfl⟩
    cases slot with
    | one test =>
      obtain ⟨x, hx, rfl⟩ := hb
      exact .one hx hr
    | run test => exact hr.run_append hb

lemma aligned_iff_blocks {slots : List (Slot α)} {xs : List α} :
    Aligned slots xs ↔
      ∃ blocks : List (List α), xs = blocks.flatten ∧ List.Forall₂ Slot.Takes slots blocks := by
  induction slots generalizing xs with
  | nil =>
    constructor
    · intro h
      cases h
      exact ⟨[], rfl, .nil⟩
    · rintro ⟨blocks, rfl, h⟩
      cases h
      exact .nil
  | cons slot slots ih =>
    rw [aligned_cons_iff]
    constructor
    · rintro ⟨block, rest, hb, hr, rfl⟩
      obtain ⟨blocks, rfl, h⟩ := ih.mp hr
      exact ⟨block :: blocks, rfl, .cons hb h⟩
    · rintro ⟨blocks, rfl, h⟩
      cases h with
      | @cons _ block _ blocks hb h =>
        exact ⟨block, blocks.flatten, hb, ih.mpr ⟨blocks, rfl, h⟩, rfl⟩

end Pattern

namespace MethodPattern

def brackets (dimensions : Nat) : List Char :=
  (List.replicate dimensions ['[', ']']).flatten

def NamesElement (base : List Char) (pattern : TypePattern) (name : List Char) : Prop :=
  Covers pattern (pieces '.' name) ∨
    '.' ∉ base ∧ '*' ∉ base ∧ (∃ c ∈ base.head?, isUppercase c = true) ∧
      name = "java.lang.".toList ++ base

inductive Takes : List Char → List (List Char) → Prop
  | run (names : List (List Char)) : Takes ['.', '.'] names
  | any (name : List Char) : Takes ['*'] [name]
  | element {item base name : List Char} {pattern : TypePattern} {dimensions : Nat} :
      item ≠ ['.', '.'] → item ≠ ['*'] → HasDimensions item base dimensions →
      Spells pattern base → NamesElement base pattern name →
      Takes item [name ++ brackets dimensions]

def argumentItems (text : List Char) : List (List Char) :=
  if trim text = [] then [] else (pieces ',' (trim text)).map trim

variable {item name : List Char} {dimensions : Nat}

lemma brackets_succ (dimensions : Nat) :
    brackets (dimensions + 1) = ['[', ']'] ++ brackets dimensions := by
  rw [brackets, List.replicate_succ, List.flatten_cons, brackets]

lemma dropBrackets_eq_some_iff {element : List Char} :
    ElementPattern.dropBrackets dimensions name = some element ↔
      name = element ++ brackets dimensions := by
  induction dimensions generalizing element with
  | zero => simp [ElementPattern.dropBrackets, brackets]
  | succ dimensions ih =>
    rw [ElementPattern.dropBrackets, Option.bind_eq_bind, Option.bind_eq_some_iff, brackets_succ,
      ← List.append_assoc]
    simp only [ih, Text.dropSuffix?_eq_some_iff]
    constructor
    · rintro ⟨before, rfl, rfl⟩
      rfl
    · rintro rfl
      exact ⟨element ++ ['[', ']'], rfl, rfl⟩

lemma isImplicit_iff (p : ElementPattern) :
    p.isImplicit = true ↔
      '.' ∉ p.base ∧ '*' ∉ p.base ∧ ∃ c ∈ p.base.head?, isUppercase c = true := by
  rw [ElementPattern.isImplicit]
  cases p.base with
  | nil => simp
  | cons c base => simp [and_assoc]

lemma namesElement_iff (p : ElementPattern) :
    NamesElement p.base p.pattern name ↔
      (p.pattern.matchesText name ||
        (p.isImplicit && name = "java.lang.".toList ++ p.base)) = true := by
  rw [Bool.or_eq_true, Bool.and_eq_true, TypePattern.matchesText_iff, isImplicit_iff,
    decide_eq_true_eq, NamesElement, and_assoc, and_assoc]

lemma matchesText_element_iff (p : ElementPattern) :
    p.matchesText name = true ↔
      ∃ element, NamesElement p.base p.pattern element ∧ name = element ++ brackets p.dimensions := by
  simp only [namesElement_iff, ← dropBrackets_eq_some_iff]
  rw [ElementPattern.matchesText]
  cases ElementPattern.dropBrackets p.dimensions name with
  | none => simp only [Bool.false_eq_true, reduceCtorEq, and_false, exists_false]
  | some element =>
    constructor
    · exact fun h => ⟨element, h, rfl⟩
    · rintro ⟨_, h, he⟩
      obtain rfl := Option.some.inj he
      exact h

lemma takes_element_iff {block : List (List Char)} (hrun : item ≠ ['.', '.'])
    (hany : item ≠ ['*']) :
    Takes item block ↔ ∃ p, ElementPattern.parse item = .ok p ∧
      ∃ name, p.matchesText name = true ∧ block = [name] := by
  constructor
  · intro h
    cases h with
    | run => exact absurd rfl hrun
    | any => exact absurd rfl hany
    | @element _ base element pattern dimensions _ _ hd hs he =>
      refine ⟨⟨base, pattern, dimensions⟩, parse_element_eq_ok_iff.mpr ⟨hd, hs⟩, _, ?_, rfl⟩
      exact (matchesText_element_iff _).mpr ⟨element, he, rfl⟩
  · rintro ⟨p, hp, name, hm, rfl⟩
    obtain ⟨element, he, rfl⟩ := (matchesText_element_iff p).mp hm
    obtain ⟨hd, hs⟩ := parse_element_eq_ok_iff.mp hp
    exact .element hrun hany hd hs he

inductive ReadsAs : List Char → ArgumentPattern → Prop
  | run : ReadsAs ['.', '.'] .run
  | any : ReadsAs ['*'] .any
  | element {item : List Char} {p : ElementPattern} :
      item ≠ ['.', '.'] → item ≠ ['*'] → ElementPattern.parse item = .ok p →
      ReadsAs item (.element p)

lemma ReadsAs.takes_iff {a : ArgumentPattern} {block : List (List Char)} (h : ReadsAs item a) :
    a.slot.Takes block ↔ Takes item block := by
  cases h with
  | run => exact ⟨fun _ => .run block, fun _ _ _ => rfl⟩
  | any =>
    constructor
    · rintro ⟨name, -, rfl⟩
      exact .any name
    · intro h
      cases h with
      | any name => exact ⟨name, rfl, rfl⟩
      | element _ hany => exact absurd rfl hany
  | element hrun hany hp =>
    constructor
    · exact fun h => (takes_element_iff hrun hany).mpr ⟨_, hp, h⟩
    · intro h
      obtain ⟨q, hq, h⟩ := (takes_element_iff hrun hany).mp h
      obtain rfl := Except.ok.inj (hp.symm.trans hq)
      exact h

lemma readsAs_of_parseItems_cons {afterRun : Bool} {items : List (List Char)}
    {arguments : List ArgumentPattern}
    (h : ArgumentPattern.parseItems afterRun (item :: items) = .ok arguments) :
    ∃ a rest next, arguments = a :: rest ∧ ReadsAs (trim item) a ∧
      ArgumentPattern.parseItems next items = .ok rest := by
  rw [ArgumentPattern.parseItems] at h
  split at h
  · cases h
  split at h
  · rename_i hrun
    split at h
    · cases h
    · obtain ⟨rest, hr, h⟩ := bind_eq_ok_iff.mp h
      exact ⟨.run, rest, true, (Except.ok.inj h).symm, hrun ▸ .run, hr⟩
  rename_i hrun
  split at h
  · rename_i hany
    obtain ⟨rest, hr, h⟩ := bind_eq_ok_iff.mp h
    exact ⟨.any, rest, false, (Except.ok.inj h).symm, hany ▸ .any, hr⟩
  · rename_i hany
    obtain ⟨p, hp, h⟩ := bind_eq_ok_iff.mp h
    obtain ⟨rest, hr, h⟩ := bind_eq_ok_iff.mp h
    exact ⟨.element p, rest, false, (Except.ok.inj h).symm, .element hrun hany hp, hr⟩

lemma readsAs_of_parseItems {afterRun : Bool} {items : List (List Char)}
    {arguments : List ArgumentPattern}
    (h : ArgumentPattern.parseItems afterRun items = .ok arguments) :
    List.Forall₂ ReadsAs (items.map trim) arguments := by
  induction items generalizing afterRun arguments with
  | nil =>
    obtain rfl := Except.ok.inj h
    exact .nil
  | cons item items ih =>
    obtain ⟨a, rest, next, rfl, ha, hr⟩ := readsAs_of_parseItems_cons h
    exact .cons ha (ih hr)

lemma readsAs_of_parseList {text : List Char} {arguments : List ArgumentPattern}
    (h : ArgumentPattern.parseList text = .ok arguments) :
    List.Forall₂ ReadsAs (argumentItems text) arguments := by
  rw [ArgumentPattern.parseList] at h
  rw [argumentItems]
  by_cases hempty : trim text = []
  · rw [hempty] at h ⊢
    obtain rfl := Except.ok.inj h
    exact .nil
  · have he : (trim text).isEmpty = false := by simpa using hempty
    simp only [he, Bool.false_eq_true, ↓reduceIte] at h
    rw [if_neg hempty]
    exact readsAs_of_parseItems h

lemma forall₂_takes_iff {items : List (List Char)} {arguments : List ArgumentPattern}
    {blocks : List (List (List Char))} (h : List.Forall₂ ReadsAs items arguments) :
    List.Forall₂ Slot.Takes (arguments.map ArgumentPattern.slot) blocks ↔
      List.Forall₂ Takes items blocks := by
  induction h generalizing blocks with
  | nil => simp only [List.map_nil, List.forall₂_nil_left_iff]
  | cons ha _ ih => simp only [List.map_cons, List.forall₂_cons_left_iff, ha.takes_iff, ih]

theorem acceptsArguments_iff_blocks (p : MethodPattern) (text : List Char)
    (hp : ArgumentPattern.parseList text = .ok p.arguments) (parameters : List ErasedType) :
    p.acceptsArguments parameters = true ↔
      ∃ blocks : List (List (List Char)), parameters.map (·.name.toList) = blocks.flatten ∧
        List.Forall₂ Takes (argumentItems text) blocks := by
  rw [acceptsArguments, aligns_iff, Pattern.aligned_iff_blocks]
  simp only [forall₂_takes_iff (readsAs_of_parseList hp)]

theorem acceptsArguments_iff_blocks_two_runs :
    let text := ".., String [], .., int".toList
    let string : ElementPattern := ⟨"String".toList, [.glob "String".toList], 1⟩
    let int : ElementPattern := ⟨"int".toList, [.glob "int".toList], 0⟩
    let p : MethodPattern := ⟨".. *(.., String [], .., int)", [.run], none,
      [.run, .element string, .run, .element int]⟩
    let strings : ErasedType := .array .string
    let accepted : List ErasedType := [strings, .primitive .int, strings, .primitive .int]
    let refused : List ErasedType := [.array strings, .primitive .int]
    ArgumentPattern.parseList text = .ok p.arguments ∧
      (∃ blocks : List (List (List Char)), accepted.map (·.name.toList) = blocks.flatten ∧
        List.Forall₂ Takes (argumentItems text) blocks) ∧
      ¬ ∃ blocks : List (List (List Char)), refused.map (·.name.toList) = blocks.flatten ∧
        List.Forall₂ Takes (argumentItems text) blocks := by
  intro text string int p strings accepted refused
  have hp : ArgumentPattern.parseList text = .ok p.arguments := rfl
  refine ⟨hp, ?_, ?_⟩
  · rw [← acceptsArguments_iff_blocks p text hp accepted]
    decide +kernel
  · rw [← acceptsArguments_iff_blocks p text hp refused]
    decide +kernel

end MethodPattern

end GuardedCalls
