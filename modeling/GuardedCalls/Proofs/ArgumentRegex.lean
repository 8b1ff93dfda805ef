import GuardedCalls.Proofs.ArgumentBlocks
import GuardedCalls.Proofs.Regex

/-! Types of arguments as regular expressions: that of the element type, with its brackets behind it
and, if the type may be one of `java.lang`, with this package before it. The words of the language
are the names that the argument takes. -/

namespace GuardedCalls

open Text (pieces isUppercase)
open Pattern (Cause Regex Covers)
open TypePattern (Agree Spells)

lemma TypePattern.Spells.eq_glob {items : TypePattern} {text : List Char} (h : Spells items text)
    (hdot : '.' ∉ text) (hstar : '*' ∉ text) : items = [.glob text] := by
  cases h with
  | run => simp at hdot
  | leading => simp at hdot
  | @plain segment items text hs hr =>
    rw [List.mem_append, not_or] at hdot hstar
    cases hr with
    | nil =>
      have hne : segment ≠ ['*'] := by
        rintro rfl
        exact hstar.1 List.mem_cons_self
      rw [TypePattern.itemOf, if_neg hne, List.append_nil]
    | run => simp at hdot
    | dot => simp at hdot
    | dots => simp at hdot

lemma TypePattern.Spells.covers_iff_eq {items : TypePattern} {text : List Char}
    (h : Spells items text) (hdot : '.' ∉ text) (hstar : '*' ∉ text) (name : List Char) :
    Covers items (pieces '.' name) ↔ name = text := by
  have hp := Text.pieces_of_notMem hdot
  have hs : ∀ s ∈ pieces '.' text, '*' ∉ s := by
    rw [hp]
    simpa using hstar
  rw [← Pattern.covers_pieces_iff hs name, hp, h.eq_glob hdot hstar, List.map_singleton]

namespace ElementPattern

open MethodPattern (brackets NamesElement Takes isImplicit_iff matchesText_element_iff
  takes_element_iff)

def elementRegex (base : List Char) (element : Regex) : Regex :=
  if !base.contains '.' && !base.contains '*' && base.head?.any isUppercase then
    .seq (.opt (.literal "java.lang.".toList)) element
  else element

def regex (item : List Char) : Except Cause Regex := do
  let (base, dimensions) := stripBrackets item.length item
  let element ← TypePattern.regex base
  return .seq (elementRegex base element) (.literal (brackets dimensions))

variable {base item : List Char} {items : TypePattern} {r : Regex}

lemma mem_elementRegex_iff (hs : Spells items base)
    (hr : ∀ d, d ∈ r.language ↔ Covers items (pieces '.' d)) (name : List Char) :
    name ∈ (elementRegex base r).language ↔ NamesElement base items name := by
  have hiff := isImplicit_iff ⟨base, items, 0⟩
  rw [elementRegex, NamesElement]
  split
  · rename_i himplicit
    obtain ⟨hdot, hstar, hupper⟩ := hiff.mp himplicit
    -- The base has no wildcard, so the package can stand before the base itself and no other word.
    have hword := hs.covers_iff_eq hdot hstar
    change name ∈ (1 + (Regex.literal "java.lang.".toList).language) * r.language ↔ _
    rw [add_mul, one_mul, Language.mem_add, Language.mem_mul]
    simp only [hr, hword, Regex.mem_literal]
    constructor
    · rintro (rfl | ⟨_, rfl, _, rfl, rfl⟩)
      · exact .inl rfl
      · exact .inr ⟨hdot, hstar, hupper, rfl⟩
    · rintro (rfl | ⟨-, -, -, rfl⟩)
      · exact .inl rfl
      · exact .inr ⟨_, rfl, _, rfl, rfl⟩
  · rename_i hnot
    rw [hr]
    constructor
    · exact .inl
    · rintro (hc | ⟨hdot, hstar, hupper, -⟩)
      · exact hc
      · exact absurd (hiff.mpr ⟨hdot, hstar, hupper⟩) hnot

lemma agree_regex (item : List Char) :
    Agree (fun p r => ∀ name, name ∈ r.language ↔ p.matchesText name = true)
      (ElementPattern.parse item) (regex item) := by
  rw [ElementPattern.parse, regex]
  obtain ⟨base, dimensions⟩ := stripBrackets item.length item
  have hagree := TypePattern.agree_regex base
  dsimp only
  cases hp : TypePattern.parse base with
  | error cause =>
    rw [(hagree.error_iff cause).mp hp]
    rfl
  | ok items =>
    obtain ⟨r, hr, hm⟩ := hagree.exists_ok hp
    rw [hr]
    intro name
    rw [Regex.mem_seq_literal, matchesText_element_iff]
    simp only [mem_elementRegex_iff (TypePattern.spells_of_parse hp) hm]

theorem parse_matches_regex (item : List Char) :
    (∀ cause, ElementPattern.parse item = .error cause ↔ regex item = .error cause) ∧
    ∀ p, ElementPattern.parse item = .ok p → ∃ r, regex item = .ok r ∧
      ∀ name, name ∈ r.language ↔ p.matchesText name = true :=
  ⟨(agree_regex item).error_iff, fun _ hp => (agree_regex item).exists_ok hp⟩

theorem takes_iff_mem_regex (hrun : item ≠ ['.', '.']) (hany : item ≠ ['*'])
    (block : List (List Char)) :
    Takes item block ↔ ∃ r, regex item = .ok r ∧ ∃ name ∈ r.language, block = [name] := by
  rw [takes_element_iff hrun hany]
  constructor
  · rintro ⟨p, hp, name, hn, rfl⟩
    obtain ⟨r, hr, hm⟩ := (agree_regex item).exists_ok hp
    exact ⟨r, hr, name, (hm name).mpr hn, rfl⟩
  · rintro ⟨r, hr, name, hn, rfl⟩
    obtain ⟨p, hp, hm⟩ := (agree_regex item).symm.exists_ok hr
    exact ⟨p, hp, name, (hm name).mp hn, rfl⟩

end ElementPattern

end GuardedCalls
