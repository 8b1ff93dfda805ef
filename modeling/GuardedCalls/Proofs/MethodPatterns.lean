import GuardedCalls.Pattern.MethodPattern
import GuardedCalls.Proofs.TypePatterns
import Mathlib.Data.List.Chain

/-! The texts that are method patterns, said without the cuts that reading them makes: an owner, a
method and, in the only parentheses, arguments with commas between them. -/

namespace GuardedCalls

open Text (pieces trim trimEnd cutFirst cutLast dropSuffix? isBlank isAlphabetic isNumeric)
open Pattern (Cause)
open TypePattern (Spells SpellsRest IsSegment)

namespace MethodPattern

inductive IsElement : List Char → Prop
  | plain {text : List Char} {items : TypePattern} : Spells items text → IsElement text
  | brackets {text blanks : List Char} :
      IsElement text → (∀ c ∈ blanks, isBlank c = true) → IsElement (text ++ blanks ++ ['[', ']'])

def IsArgument (text : List Char) : Prop :=
  text = ['.', '.'] ∨ text = ['*'] ∨ IsElement text

def NotBothRuns (argument next : List Char) : Prop :=
  ¬ (argument = ['.', '.'] ∧ next = ['.', '.'])

def IsArgumentList (text : List Char) : Prop :=
  text = [] ∨ ∃ items : List (List Char), items ≠ [] ∧ text = List.intercalate [','] items ∧
    (∀ item ∈ items, ',' ∉ item) ∧ (∀ item ∈ items, IsArgument (trim item)) ∧
    (items.map trim).IsChain NotBothRuns

def Cuts (head owner method : List Char) : Prop :=
  head = owner ++ '#' :: method ∧ '#' ∉ owner ∨
    '#' ∉ head ∧ ∃ blank, isBlank blank = true ∧ head = owner ++ blank :: method ∧
      ∀ c ∈ method, isBlank c = false

def IsMethodName (name : List Char) : Prop :=
  name = ['*'] ∨ isIdentifier name = true

def IsMethodPattern (text : List Char) : Prop :=
  text.count '(' = 1 ∧ text.count ')' = 1 ∧ ∃ head arguments owner method,
    text = head ++ '(' :: (arguments ++ [')']) ∧ Cuts (trim head) owner method ∧
    trim owner ≠ [] ∧ trim method ≠ [] ∧ IsMethodName (trim method) ∧
    (∃ items, Spells items (trim owner)) ∧ IsArgumentList (trim arguments)

end MethodPattern

namespace Text

lemma isBlank_eq_false_of_ranges {ranges : Ranges} {c : Char} (hc : ranges.contains c = true)
    (hd : (ranges.all fun r => blankRanges.all fun b => r.2 < b.1 || b.2 < r.1) = true) :
    isBlank c = false := by
  obtain ⟨r, hr, hl, hu⟩ := (Ranges.contains_iff ranges c).mp hc
  rw [isBlank, Bool.eq_false_iff]
  intro hb
  obtain ⟨b, hb, hbl, hbu⟩ := (Ranges.contains_iff blankRanges c).mp hb
  have h := List.all_eq_true.mp (List.all_eq_true.mp hd r hr) b hb
  simp only [Bool.or_eq_true, decide_eq_true_eq] at h
  omega

lemma contains_ascii_of_isAlphanum {c : Char} (hc : c.isAlphanum = true) :
    Ranges.contains [(48, 57), (65, 90), (97, 122)] c = true := by
  simp only [Ranges.contains, List.any_cons, List.any_nil, Bool.or_eq_true, Bool.and_eq_true,
    decide_eq_true_eq, Bool.or_false]
  rcases (Bool.or_eq_true ..).mp hc with halpha | hdigit
  · rcases (Bool.or_eq_true ..).mp halpha with hupper | hlower
    · exact .inr (.inl (of_decide_eq_true hupper))
    · have hbounds := (Bool.and_eq_true ..).mp hlower
      exact .inr (.inr (hbounds.imp of_decide_eq_true of_decide_eq_true))
  · exact .inl (Char.isDigit_iff_toNat.mp hdigit)

lemma isBlank_eq_false_of_isAlphanum {c : Char} (hc : c.isAlphanum = true) : isBlank c = false :=
  isBlank_eq_false_of_ranges (contains_ascii_of_isAlphanum hc) (by decide)

lemma isBlank_eq_false_of_isAlphabetic {c : Char} (hc : isAlphabetic c = true) :
    isBlank c = false := by
  rw [isAlphabetic] at hc
  split at hc
  · exact isBlank_eq_false_of_isAlphanum (by simp [Char.isAlphanum, hc])
  · exact isBlank_eq_false_of_ranges hc (by decide +kernel)

lemma isBlank_eq_false_of_isNumeric {c : Char} (hc : isNumeric c = true) : isBlank c = false := by
  rw [isNumeric] at hc
  split at hc
  · exact isBlank_eq_false_of_isAlphanum (by simp [Char.isAlphanum, hc])
  · exact isBlank_eq_false_of_ranges hc (by decide +kernel)

end Text

namespace TypePattern

variable {items : TypePattern} {text segment : List Char} {c : Char}

lemma IsSegment.char (hs : IsSegment segment) (hc : c ∈ segment) : isBlank c = false ∧ c ≠ ']' := by
  have hb : isBlank c = false := by
    rcases hs.2.2 c hc with h | h | rfl | rfl | rfl
    · exact Text.isBlank_eq_false_of_isAlphabetic h
    · exact Text.isBlank_eq_false_of_isNumeric h
    all_goals decide
  refine ⟨hb, ?_⟩
  rintro rfl
  exact absurd (hs.2.2 ']' hc) (by decide)

lemma SpellsRest.char (h : SpellsRest items text) (hc : c ∈ text) :
    isBlank c = false ∧ c ≠ ']' := by
  have hdot : isBlank '.' = false ∧ '.' ≠ ']' := by decide
  induction h with
  | nil => simp at hc
  | run =>
    obtain rfl : c = '.' := by simpa using hc
    exact hdot
  | dot hs _ ih =>
    rcases List.mem_cons.mp hc with rfl | hc
    · exact hdot
    · exact (List.mem_append.mp hc).elim hs.char ih
  | dots hs _ ih =>
    rcases List.mem_cons.mp hc with rfl | hc
    · exact hdot
    · rcases List.mem_cons.mp hc with rfl | hc
      · exact hdot
      · exact (List.mem_append.mp hc).elim hs.char ih

lemma Spells.char (h : Spells items text) (hc : c ∈ text) : isBlank c = false ∧ c ≠ ']' := by
  cases h with
  | run => exact SpellsRest.run.char hc
  | plain hs hr => exact (List.mem_append.mp hc).elim hs.char hr.char
  | leading hs hr => exact (SpellsRest.dots hs hr).char hc

lemma Spells.ne_nil (h : Spells items text) : text ≠ [] := by
  cases h with
  | run => simp
  | plain hs _ => simp [hs.1]
  | leading => simp

end TypePattern

namespace MethodPattern

variable {text : List Char}

lemma IsElement.getLast? (h : IsElement text) : ∀ c ∈ text.getLast?, isBlank c = false := by
  cases h with
  | plain hs => exact fun c hc => (hs.char (List.mem_of_getLast? hc)).1
  | brackets => simp; decide

lemma IsElement.ne_nil (h : IsElement text) : text ≠ [] := by
  cases h with
  | plain hs => exact hs.ne_nil
  | brackets => simp

inductive HasDimensions : (item base : List Char) → (dimensions : Nat) → Prop
  | plain {base : List Char} : HasDimensions base base 0
  | brackets {item base blanks : List Char} {dimensions : Nat} :
      HasDimensions item base dimensions → (∀ c ∈ blanks, isBlank c = true) →
      HasDimensions (item ++ blanks ++ ['[', ']']) base (dimensions + 1)

variable {item base : List Char} {pattern : TypePattern} {dimensions : Nat}

lemma HasDimensions.isElement (h : HasDimensions item base dimensions) (hs : Spells pattern base) :
    IsElement item := by
  induction h with
  | plain => exact .plain hs
  | brackets _ hall ih => exact .brackets (ih hs) hall

lemma IsElement.exists_hasDimensions (h : IsElement item) :
    ∃ base dimensions pattern, HasDimensions item base dimensions ∧ Spells pattern base := by
  induction h with
  | plain hs => exact ⟨_, 0, _, .plain, hs⟩
  | brackets _ hall ih =>
    obtain ⟨base, dimensions, pattern, hd, hs⟩ := ih
    exact ⟨base, dimensions + 1, pattern, .brackets hd hall, hs⟩

lemma hasDimensions_stripBrackets (bound : Nat) (item : List Char) :
    HasDimensions item (ElementPattern.stripBrackets bound item).1
      (ElementPattern.stripBrackets bound item).2 := by
  induction bound generalizing item with
  | zero => exact .plain
  | succ bound ih =>
    rw [ElementPattern.stripBrackets]
    split
    · exact .plain
    · rename_i rest hr
      obtain rfl := Text.dropSuffix?_eq_some_iff.mp hr
      obtain ⟨blanks, hb, hall⟩ := Text.eq_trimEnd_append rest
      have h := HasDimensions.brackets (ih (trimEnd rest)) hall
      rwa [← hb] at h

lemma stripBrackets_of_spells (hs : Spells pattern base) (bound : Nat) :
    ElementPattern.stripBrackets bound base = (base, 0) := by
  cases bound with
  | zero => rfl
  | succ bound =>
    have hn : dropSuffix? ['[', ']'] base = none := by
      rw [Option.eq_none_iff_forall_ne_some]
      intro rest hr
      obtain rfl := Text.dropSuffix?_eq_some_iff.mp hr
      exact (hs.char (c := ']') (by simp)).2 rfl
    rw [ElementPattern.stripBrackets, hn]

lemma HasDimensions.stripBrackets (h : HasDimensions item base dimensions)
    (hs : Spells pattern base) {bound : Nat} (hb : item.length ≤ bound) :
    ElementPattern.stripBrackets bound item = (base, dimensions) := by
  induction h generalizing bound with
  | plain => exact stripBrackets_of_spells hs bound
  | @brackets item base blanks dimensions hi hall ih =>
    simp only [List.length_append, List.length_cons, List.length_nil] at hb
    obtain ⟨bound, rfl⟩ : ∃ n, bound = n + 1 := ⟨bound - 1, by omega⟩
    have hd : dropSuffix? ['[', ']'] (item ++ blanks ++ ['[', ']']) = some (item ++ blanks) :=
      Text.dropSuffix?_eq_some_iff.mpr rfl
    have ht : trimEnd (item ++ blanks) = item :=
      Text.trimEnd_append (hi.isElement hs).getLast? hall
    have hlength : item.length ≤ bound := by omega
    rw [ElementPattern.stripBrackets, hd]
    dsimp only
    rw [ht, ih hs hlength]

lemma parse_element_eq_ok_iff {p : ElementPattern} :
    ElementPattern.parse item = .ok p ↔
      HasDimensions item p.base p.dimensions ∧ Spells p.pattern p.base := by
  constructor
  · intro hp
    obtain ⟨pattern, hs, hp⟩ := bind_eq_ok_iff.mp hp
    obtain rfl := Except.ok.inj hp
    exact ⟨hasDimensions_stripBrackets _ item, TypePattern.parse_eq_ok_iff.mp hs⟩
  · rintro ⟨hd, hs⟩
    have hb := hd.stripBrackets hs le_rfl
    rw [ElementPattern.parse, hb]
    exact bind_eq_ok_iff.mpr ⟨p.pattern, TypePattern.parse_eq_ok_iff.mpr hs, rfl⟩

lemma exists_parse_element_iff :
    (∃ p, ElementPattern.parse text = .ok p) ↔ IsElement text := by
  constructor
  · rintro ⟨p, hp⟩
    obtain ⟨hd, hs⟩ := parse_element_eq_ok_iff.mp hp
    exact hd.isElement hs
  · intro h
    obtain ⟨base, dimensions, pattern, hd, hs⟩ := h.exists_hasDimensions
    exact ⟨⟨base, pattern, dimensions⟩, parse_element_eq_ok_iff.mpr ⟨hd, hs⟩⟩

lemma exists_bind_ok_iff {ε α β : Type} {x : Except ε α} {next : α → Except ε β} :
    (∃ b, (x >>= next) = .ok b) ↔ ∃ a, x = .ok a ∧ ∃ b, next a = .ok b := by
  simp only [bind_eq_ok_iff]
  constructor
  · rintro ⟨b, a, ha, hb⟩
    exact ⟨a, ha, b, hb⟩
  · rintro ⟨a, ha, b, hb⟩
    exact ⟨b, a, ha, hb⟩

lemma exists_bind_pure_iff {ε α β : Type} {x : Except ε α} {f : α → β} :
    (∃ b, (do return f (← x)) = Except.ok b) ↔ ∃ a, x = .ok a := by
  rw [exists_bind_ok_iff]
  exact ⟨fun ⟨a, ha, _⟩ => ⟨a, ha⟩, fun ⟨a, ha⟩ => ⟨a, ha, f a, rfl⟩⟩

lemma exists_parseItems_cons_iff (afterRun : Bool) (item : List Char) (rest : List (List Char)) :
    (∃ ps, ArgumentPattern.parseItems afterRun (item :: rest) = .ok ps) ↔
      IsArgument (trim item) ∧ ¬ (afterRun = true ∧ trim item = ['.', '.']) ∧
        ∃ ps, ArgumentPattern.parseItems (decide (trim item = ['.', '.'])) rest = .ok ps := by
  rw [ArgumentPattern.parseItems]
  generalize trim item = text
  by_cases hempty : text = []
  · subst hempty
    have hn : ¬ IsArgument [] := by
      rintro (h | h | h)
      · simp at h
      · simp at h
      · exact h.ne_nil rfl
    simp [hn]
  have he : text.isEmpty = false := by simpa using hempty
  by_cases hrun : text = ['.', '.']
  · subst hrun
    cases afterRun with
    | true => simp
    | false =>
      simp only [List.isEmpty_cons, Bool.false_eq_true, ↓reduceIte, exists_bind_pure_iff,
        IsArgument, decide_true, true_or, true_and, false_and, not_false_eq_true]
  by_cases hany : text = ['*']
  · subst hany
    simp only [List.isEmpty_cons, Bool.false_eq_true, ↓reduceIte, exists_bind_pure_iff, IsArgument,
      hrun, decide_false, true_or, or_true, and_false, not_false_eq_true, true_and]
  · have ha : IsArgument text ↔ IsElement text := by simp [IsArgument, hrun, hany]
    simp only [he, hrun, hany, Bool.false_eq_true, ↓reduceIte, exists_bind_ok_iff, ha,
      ← exists_parse_element_iff, decide_false, and_false, not_false_eq_true, true_and]
    constructor
    · rintro ⟨p, hp, ps, hps, -⟩
      exact ⟨⟨p, hp⟩, ps, hps⟩
    · rintro ⟨⟨p, hp⟩, ps, hps⟩
      exact ⟨p, hp, ps, hps, _, rfl⟩

lemma exists_parseItems_iff (afterRun : Bool) (items : List (List Char)) :
    (∃ ps, ArgumentPattern.parseItems afterRun items = .ok ps) ↔
      (∀ item ∈ items, IsArgument (trim item)) ∧ (items.map trim).IsChain NotBothRuns ∧
        (afterRun = true → ∀ first ∈ (items.map trim).head?, first ≠ ['.', '.']) := by
  induction items generalizing afterRun with
  | nil => simp [ArgumentPattern.parseItems]
  | cons item rest ih =>
    rw [exists_parseItems_cons_iff, ih, List.forall_mem_cons, List.map_cons, List.isChain_cons]
    simp only [NotBothRuns, decide_eq_true_eq, List.head?_cons, Option.mem_some_iff, forall_eq']
    grind

lemma exists_parseList_iff :
    (∃ ps, ArgumentPattern.parseList text = .ok ps) ↔ IsArgumentList (trim text) := by
  rw [ArgumentPattern.parseList, IsArgumentList]
  generalize trim text = text
  by_cases hempty : text = []
  · simp [hempty]
  · have he : text.isEmpty = false := by simpa using hempty
    simp only [he, Bool.false_eq_true, ↓reduceIte, exists_parseItems_iff, hempty, false_or,
      false_imp_iff, and_true]
    constructor
    · intro h
      obtain ⟨p, ps, hp⟩ := List.exists_cons_of_ne_nil (Text.pieces_ne_nil ',' text)
      obtain ⟨ht, hc⟩ := Text.eq_of_pieces hp
      rw [hp] at h
      exact ⟨p :: ps, List.cons_ne_nil p ps, by rw [intercalate_singleton_cons, ht], hc, h⟩
    · rintro ⟨items, hne, rfl, hc, h⟩
      obtain ⟨p, ps, rfl⟩ := List.exists_cons_of_ne_nil hne
      rwa [intercalate_singleton_cons, Text.pieces_eq_cons_iff.mpr ⟨rfl, hc⟩]

lemma splitArguments_eq_ok_iff {head arguments : List Char} :
    splitArguments text = .ok (head, arguments) ↔
      text.count '(' = 1 ∧ text.count ')' = 1 ∧ text = head ++ '(' :: (arguments ++ [')']) := by
  have hlast : ∀ (before after : List Char) (c : Char),
      (before ++ '(' :: (after ++ [c])).getLast? = some c := by
    intro before after c
    rw [← List.cons_append, ← List.append_assoc, List.getLast?_concat]
  rw [splitArguments]
  constructor
  · intro h
    split at h
    · exact nomatch h
    split at h
    · exact nomatch h
    rename_i hc
    push Not at hc
    obtain ⟨ho, hc, hl⟩ := hc
    split at h
    · rename_i before after hcut
      obtain ⟨rfl, rfl⟩ := Prod.mk.inj (Except.ok.inj h)
      obtain ⟨c, hp, rfl, -⟩ := Text.cutFirst_eq_some_iff.mp hcut
      obtain rfl := of_decide_eq_true hp
      refine ⟨ho, hc, ?_⟩
      cases List.eq_nil_or_concat after with
      | inl hn => simp [hn] at hl
      | inr hn =>
        obtain ⟨arguments, last, rfl⟩ := hn
        rw [List.concat_eq_append, hlast] at hl
        rw [Option.some.inj hl, List.concat_eq_append, List.dropLast_concat]
    · exact nomatch h
  · rintro ⟨ho, hc, rfl⟩
    have hcut : cutFirst (· = '(') (head ++ '(' :: (arguments ++ [')'])) =
        some (head, arguments ++ [')']) := by
      refine Text.cutFirst_eq_some_iff.mpr ⟨'(', by simp, rfl, ?_⟩
      intro d hd
      have hn : head.count '(' = 0 := by
        simp only [List.count_append, List.count_cons, beq_self_eq_true, ↓reduceIte] at ho
        omega
      rw [decide_eq_false_iff_not]
      rintro rfl
      exact List.count_eq_zero.mp hn hd
    simp [ho, hc, hcut, hlast]

lemma cuts_iff {head owner method : List Char} :
    Cuts head owner method ↔ cutFirst (· = '#') head = some (owner, method) ∨
      cutFirst (· = '#') head = none ∧ cutLast isBlank head = some (owner, method) := by
  have hsome : cutFirst (· = '#') head = some (owner, method) ↔
      head = owner ++ '#' :: method ∧ '#' ∉ owner := by
    rw [Text.cutFirst_eq_some_iff]
    simp only [decide_eq_true_eq, exists_eq_left, decide_eq_false_iff_not]
    exact and_congr_right fun _ => ⟨fun h hm => h '#' hm rfl, fun h c hc hn => h (hn ▸ hc)⟩
  have hnone : cutFirst (· = '#') head = none ↔ '#' ∉ head := by
    rw [Text.cutFirst_eq_none_iff]
    simp only [decide_eq_false_iff_not]
    exact ⟨fun h hm => h '#' hm rfl, fun h c hc hn => h (hn ▸ hc)⟩
  rw [Cuts, hsome, hnone, Text.cutLast_eq_some_iff]

lemma splitHead_eq_iff {head owner method : List Char} (ho : owner ≠ []) :
    splitHead head = (owner, method) ↔
      ∃ before after, Cuts head before after ∧ trim before = owner ∧ trim after = method := by
  simp only [cuts_iff]
  rw [splitHead]
  cases cutFirst (· = '#') head with
  | some cut =>
    obtain ⟨before, after⟩ := cut
    simp
  | none =>
    cases cutLast isBlank head with
    | some cut =>
      obtain ⟨before, after⟩ := cut
      simp
    | none => simp [Ne.symm ho]

lemma exists_parseMethodName_iff {name : List Char} :
    (∃ m, parseMethodName name = .ok m) ↔ IsMethodName name := by
  rw [parseMethodName, IsMethodName]
  by_cases hs : name = ['*']
  · simp [hs]
  · by_cases hi : isIdentifier name = true <;> simp [hs, hi]

lemma exists_fields_iff {owner method arguments : List Char} :
    (∃ p : MethodPattern, (do
      let method ← parseMethodName method
      let owner ← TypePattern.parse owner
      let arguments ← ArgumentPattern.parseList arguments
      pure ⟨String.ofList text, owner, method, arguments⟩) = Except.ok p) ↔
      IsMethodName method ∧ (∃ items, Spells items owner) ∧ IsArgumentList (trim arguments) := by
  rw [← exists_parseMethodName_iff, ← exists_parseList_iff]
  simp only [← TypePattern.parse_eq_ok_iff, exists_bind_ok_iff]
  constructor
  · rintro ⟨m, hm, o, ho, a, ha, -⟩
    exact ⟨⟨m, hm⟩, ⟨o, ho⟩, a, ha⟩
  · rintro ⟨⟨m, hm⟩, ⟨o, ho⟩, a, ha⟩
    exact ⟨m, hm, o, ho, a, ha, _, rfl⟩

lemma exists_parseTrimmed_iff :
    (∃ p, parseTrimmed text = .ok p) ↔ ∃ head arguments owner method,
      splitArguments text = .ok (head, arguments) ∧ splitHead (trim head) = (owner, method) ∧
      owner ≠ [] ∧ method ≠ [] ∧ IsMethodName method ∧ (∃ items, Spells items owner) ∧
      IsArgumentList (trim arguments) := by
  rw [parseTrimmed]
  split
  · rename_i he
    rw [List.isEmpty_iff.mp he]
    constructor
    · rintro ⟨p, hp⟩
      exact nomatch hp
    · rintro ⟨head, arguments, owner, method, hs, -⟩
      exact nomatch hs
  · simp only [exists_bind_ok_iff]
    constructor
    · rintro ⟨⟨head, arguments⟩, hs, p, hp⟩
      split at hp
      · exact nomatch hp
      · rename_i hn
        simp only [Bool.or_eq_true, List.isEmpty_iff, not_or] at hn
        exact ⟨head, arguments, _, _, hs, rfl, hn.1, hn.2, exists_fields_iff.mp ⟨p, hp⟩⟩
    · rintro ⟨head, arguments, owner, method, hs, hh, ho, hm, hf⟩
      refine ⟨(head, arguments), hs, ?_⟩
      rw [hh, if_neg (by simp [ho, hm])]
      exact exists_fields_iff.mpr hf

theorem exists_parse_iff_isMethodPattern (s : String) :
    (∃ p, MethodPattern.parse s = .ok p) ↔ IsMethodPattern (trim s.toList) := by
  have hp : (∃ p, MethodPattern.parse s = .ok p) ↔ ∃ p, parseTrimmed (trim s.toList) = .ok p := by
    rw [MethodPattern.parse]
    cases parseTrimmed (trim s.toList) <;> simp [Except.mapError]
  rw [hp, exists_parseTrimmed_iff]
  simp only [splitArguments_eq_ok_iff, IsMethodPattern]
  constructor
  · rintro ⟨head, arguments, owner, method, ⟨ho, hc, ht⟩, hh, hne, hm, hf⟩
    obtain ⟨before, after, hcut, rfl, rfl⟩ := (splitHead_eq_iff hne).mp hh
    exact ⟨ho, hc, head, arguments, before, after, ht, hcut, hne, hm, hf⟩
  · rintro ⟨ho, hc, head, arguments, before, after, ht, hcut, hne, hm, hf⟩
    exact ⟨head, arguments, trim before, trim after, ⟨ho, hc, ht⟩,
      (splitHead_eq_iff hne).mpr ⟨before, after, hcut, rfl, rfl⟩, hne, hm, hf⟩

end MethodPattern

end GuardedCalls
