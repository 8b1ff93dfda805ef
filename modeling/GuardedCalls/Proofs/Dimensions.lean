import GuardedCalls.Proofs.UnknownTypes

/-! How many dimensions the arrays have that a pattern accepts. The brackets of an array are part of
its name, so a wildcard right before the brackets of a pattern takes further ones, and every other
pattern counts them. -/

namespace GuardedCalls

open Text (pieces)
open Pattern (TypeItem Fills Covers)
open TypePattern (Spells SpellsRest IsSegment itemOf)

namespace ErasedType

def innermost : ErasedType → ErasedType
  | .array element => element.innermost
  | t => t

def dimensions : ErasedType → Nat
  | .array element => element.dimensions + 1
  | _ => 0

def HasPlainElement : ErasedType → Prop
  | .classType name => '[' ∉ name.toList ∧ ']' ∉ name.toList
  | .primitive _ => True
  | .array element => element.HasPlainElement
  | .unknown => False

end ErasedType

namespace MethodPattern

lemma brackets_add (m n : Nat) : brackets (m + n) = brackets m ++ brackets n := by
  rw [brackets, ← List.replicate_append_replicate, List.flatten_append, brackets, brackets]

lemma brackets_concat (n : Nat) : brackets (n + 1) = (brackets n ++ ['[']) ++ [']'] := by
  rw [brackets_add, List.append_assoc]
  rfl

end MethodPattern

namespace ErasedType

open MethodPattern (brackets brackets_add brackets_concat)

variable {t : ErasedType}

lemma toList_name (t : ErasedType) :
    t.name.toList = t.innermost.name.toList ++ brackets t.dimensions := by
  induction t with
  | array element ih =>
    have hb : "[]".toList = brackets 1 := rfl
    rw [name, String.toList_append, ih, hb, List.append_assoc, ← brackets_add]
    rfl
  | _ => exact (List.append_nil _).symm

lemma HasPlainElement.close_notMem (ht : t.HasPlainElement) :
    ']' ∉ t.innermost.name.toList := by
  induction t with
  | classType name => exact ht.2
  | primitive p => cases p <;> simp [innermost, name, Primitive.keyword]
  | array element ih => exact ih ht
  | unknown => exact ht.elim

lemma innermost_iterate_array (n : Nat) (t : ErasedType) :
    (array^[n] t).innermost = t.innermost := by
  induction n with
  | zero => rfl
  | succ n ih => rw [Function.iterate_succ_apply', innermost, ih]

lemma dimensions_iterate_array (n : Nat) (t : ErasedType) :
    (array^[n] t).dimensions = t.dimensions + n := by
  induction n with
  | zero => rfl
  | succ n ih => rw [Function.iterate_succ_apply', dimensions, ih, Nat.add_assoc]

lemma hasPlainElement_iterate_array (n : Nat) (t : ErasedType) :
    (array^[n] t).HasPlainElement ↔ t.HasPlainElement := by
  induction n with
  | zero => rfl
  | succ n ih => rw [Function.iterate_succ_apply', HasPlainElement, ih]

end ErasedType

namespace MethodPattern

variable {s : String} {p : MethodPattern} {e : ElementPattern} {t : ErasedType}

lemma matchesText_name_iff (ht : t.HasPlainElement) :
    e.matchesText t.name.toList = true ↔ ∃ extra, t.dimensions = e.dimensions + extra ∧
      NamesElement e.base e.pattern (t.innermost.name.toList ++ brackets extra) := by
  rw [matchesText_element_iff, t.toList_name]
  constructor
  · rintro ⟨element, hn, h⟩
    rcases Nat.lt_or_ge t.dimensions e.dimensions with hlt | hle
    · -- With fewer dimensions than pairs of brackets, the plain name would end with one of them.
      obtain ⟨more, hd⟩ := Nat.exists_eq_add_of_lt hlt
      rw [hd, Nat.add_assoc, Nat.add_comm, brackets_add, ← List.append_assoc] at h
      have hc : ']' ∈ t.innermost.name.toList := by
        rw [List.append_cancel_right h, brackets_concat]
        simp
      exact absurd hc ht.close_notMem
    · obtain ⟨extra, hd⟩ := Nat.exists_eq_add_of_le hle
      refine ⟨extra, hd, ?_⟩
      rw [hd, Nat.add_comm, brackets_add, ← List.append_assoc] at h
      rwa [List.append_cancel_right h]
  · rintro ⟨extra, hd, hn⟩
    refine ⟨_, hn, ?_⟩
    rw [hd, Nat.add_comm, brackets_add, List.append_assoc]

end MethodPattern

namespace Pattern

variable {glob segment : List Char} {c : Char}

lemma Fills.exists_concat (h : Fills (glob ++ [c]) segment) (hc : c ≠ '*') :
    ∃ front, segment = front ++ [c] := by
  induction glob generalizing segment with
  | nil =>
    cases h with
    | char _ h =>
      cases h
      exact ⟨[], rfl⟩
    | star => exact absurd rfl hc
  | cons d glob ih =>
    cases h with
    | char _ h =>
      obtain ⟨front, rfl⟩ := ih h
      exact ⟨d :: front, rfl⟩
    | star filling h =>
      obtain ⟨front, rfl⟩ := ih h
      exact ⟨filling ++ front, by rw [List.append_assoc]⟩

lemma Fills.concat_star (h : Fills glob segment) (filling : List Char) :
    Fills (glob ++ ['*']) (segment ++ filling) := by
  induction h with
  | nil =>
    have hs := Fills.star filling .nil
    rwa [List.append_nil] at hs
  | char hc _ ih => exact .char hc ih
  | star before _ ih =>
    rw [List.append_assoc]
    exact .star before ih

end Pattern

namespace Text

variable {name last : List Char} {segments : List (List Char)}

lemma pieces_flatMap_append {sep : Char} (hs : ∀ s ∈ segments, sep ∉ s) (hl : sep ∉ last) :
    pieces sep (segments.flatMap (· ++ [sep]) ++ last) = segments ++ [last] := by
  induction segments with
  | nil => exact pieces_of_notMem hl
  | cons s segments ih =>
    rw [List.forall_mem_cons] at hs
    have hsep := pieces_sep_cons sep (segments.flatMap (· ++ [sep]) ++ last)
    rw [ih hs.2] at hsep
    have h := pieces_append hs.1 hsep
    simpa using h

lemma eq_of_pieces_concat {sep : Char} (h : pieces sep name = segments ++ [last]) :
    name = segments.flatMap (· ++ [sep]) ++ last := by
  have hn : ∀ s ∈ segments ++ [last], sep ∉ s := fun s hs => notMem_of_mem_pieces (h ▸ hs)
  have hp := pieces_flatMap_append (fun s hs => hn s (List.mem_append_left _ hs))
    (hn last (by simp))
  obtain ⟨q, qs, hq⟩ := List.exists_cons_of_ne_nil (pieces_ne_nil sep name)
  rw [← h, hq] at hp
  exact (eq_of_pieces hq).1.trans (eq_of_pieces hp).1.symm

end Text

namespace TypePattern

open Pattern

def IsItem (item : TypeItem) : Prop :=
  item = .run ∨ ∃ segment, IsSegment segment ∧ item = itemOf segment

def EndsWith (items : TypePattern) (text : List Char) (c : Char) : Prop :=
  ∃ front last, items = front ++ [last] ∧ (∀ item ∈ front, IsItem item) ∧ text.getLast? = some c ∧
    (last = .run ∧ c = '.' ∨ ∃ segment, IsSegment (segment ++ [c]) ∧ last = itemOf (segment ++ [c]))

def IsPlain (text : List Char) : Prop :=
  '.' ∉ text ∧ '[' ∉ text ∧ ']' ∉ text

variable {segment name text : List Char} {items : TypePattern} {item : TypeItem} {c : Char}

lemma EndsWith.cons (h : EndsWith items text c) (hi : IsItem item) (before : List Char) :
    EndsWith (item :: items) (before ++ text) c := by
  obtain ⟨front, last, rfl, hf, ht, hl⟩ := h
  refine ⟨item :: front, last, rfl, List.forall_mem_cons.mpr ⟨hi, hf⟩, ?_, hl⟩
  rw [List.getLast?_append, ht]
  rfl

lemma endsWith_itemOf (hs : IsSegment segment) :
    ∃ c, EndsWith [itemOf segment] (segment ++ []) c := by
  obtain ⟨front, c, rfl⟩ := (List.eq_nil_or_concat' segment).resolve_left hs.1
  refine ⟨c, [], _, rfl, by simp, ?_, .inr ⟨front, hs, rfl⟩⟩
  rw [List.append_nil, List.getLast?_concat]

lemma endsWith_run : EndsWith [.run] ['.', '.'] '.' :=
  ⟨[], .run, rfl, by simp, rfl, .inl ⟨rfl, rfl⟩⟩

lemma SpellsRest.exists_endsWith (h : SpellsRest items text) (hs : IsSegment segment) :
    ∃ c, EndsWith (itemOf segment :: items) (segment ++ text) c := by
  induction h generalizing segment with
  | nil => exact endsWith_itemOf hs
  | run => exact ⟨'.', endsWith_run.cons (.inr ⟨segment, hs, rfl⟩) segment⟩
  | @dot next items text hn _ ih =>
    obtain ⟨c, hc⟩ := ih hn
    have h := hc.cons (.inr ⟨segment, hs, rfl⟩) (segment ++ ['.'])
    rw [List.append_assoc] at h
    exact ⟨c, h⟩
  | @dots next items text hn _ ih =>
    obtain ⟨c, hc⟩ := ih hn
    have h := (hc.cons (.inl rfl) ['.', '.']).cons (.inr ⟨segment, hs, rfl⟩) segment
    exact ⟨c, h⟩

lemma Spells.exists_endsWith (h : Spells items text) : ∃ c, EndsWith items text c := by
  cases h with
  | run => exact ⟨'.', endsWith_run⟩
  | plain hs hr => exact hr.exists_endsWith hs
  | leading hs hr =>
    obtain ⟨c, hc⟩ := hr.exists_endsWith hs
    exact ⟨c, hc.cons (.inl rfl) ['.', '.']⟩

lemma EndsWith.exists_concat (h : EndsWith items text c) (hdot : c ≠ '.') (hstar : c ≠ '*')
    (hc : Covers items (pieces '.' name)) : ∃ before, name = before ++ [c] := by
  obtain ⟨front, last, rfl, -, -, ⟨-, hd⟩ | ⟨segment, -, rfl⟩⟩ := h
  · exact absurd hd hdot
  obtain ⟨taken, rest, hp, -, hl⟩ := covers_append_iff.mp hc
  obtain ⟨first, none, rfl, hf, hnone⟩ := exists_of_covers_itemOf hl
  cases hnone
  obtain ⟨before, rfl⟩ := hf.exists_concat hstar
  rw [Text.eq_of_pieces_concat hp, ← List.append_assoc]
  exact ⟨_, rfl⟩

lemma IsSegment.isPlain (hs : IsSegment segment) : IsPlain segment := by
  refine ⟨hs.notMem_dot, ?_, ?_⟩ <;> intro h <;> exact absurd (hs.2.2 _ h) (by decide)

lemma IsPlain.filter (h : IsPlain text) (kind : Char → Bool) : IsPlain (text.filter kind) :=
  ⟨fun hc => h.1 (List.mem_of_mem_filter hc), fun hc => h.2.1 (List.mem_of_mem_filter hc),
    fun hc => h.2.2 (List.mem_of_mem_filter hc)⟩

lemma exists_covers (h : ∀ item ∈ items, IsItem item) :
    ∃ segments, Covers items segments ∧ ∀ s ∈ segments, IsPlain s := by
  induction items with
  | nil => exact ⟨[], .nil, by simp⟩
  | cons item items ih =>
    rw [List.forall_mem_cons] at h
    obtain ⟨segments, hc, hp⟩ := ih h.2
    rcases h.1 with rfl | ⟨segment, hs, rfl⟩
    · exact ⟨segments, hc.skip, hp⟩
    · rw [itemOf]
      split
      · refine ⟨['a'] :: segments, .any (by simp) hc, List.forall_mem_cons.mpr ⟨?_, hp⟩⟩
        simp [IsPlain]
      · exact ⟨_ :: segments, .glob (fills_filter segment) hc,
          List.forall_mem_cons.mpr ⟨hs.isPlain.filter _, hp⟩⟩

lemma EndsWith.exists_covers_brackets (h : EndsWith items text c) (hc : c = '*' ∨ c = '.') :
    ∃ name, '[' ∉ name ∧ ']' ∉ name ∧ Covers items (pieces '.' (name ++ ['[', ']'])) := by
  obtain ⟨front, last, rfl, hf, -, hl⟩ := h
  obtain ⟨segments, hs, hp⟩ := exists_covers hf
  -- The last item takes the brackets: double dots as part of a whole segment, a star as its filling.
  obtain ⟨x, hx, hb⟩ : ∃ x, IsPlain x ∧ Covers [last] [x ++ ['[', ']']] := by
    rcases hl with ⟨rfl, -⟩ | ⟨segment, hseg, rfl⟩
    · exact ⟨[], by simp [IsPlain], .take (by simp) .nil⟩
    · have hstar : c = '*' := hc.resolve_right (by rintro rfl; exact hseg.notMem_dot (by simp))
      subst hstar
      have hplain : IsPlain segment :=
        ⟨fun h => hseg.isPlain.1 (List.mem_append_left _ h),
          fun h => hseg.isPlain.2.1 (List.mem_append_left _ h),
          fun h => hseg.isPlain.2.2 (List.mem_append_left _ h)⟩
      refine ⟨_, hplain.filter (· ≠ '*'), covers_itemOf ?_ (by simp) .nil⟩
      exact (fills_filter segment).concat_star ['[', ']']
  have hnone : ∀ b, b ≠ '.' → (∀ s ∈ segments, b ∉ s) → b ∉ x →
      b ∉ segments.flatMap (· ++ ['.']) ++ x := by
    intro b hb hs hx h
    rcases List.mem_append.mp h with h | h
    · obtain ⟨s, hm, h⟩ := List.mem_flatMap.mp h
      rcases List.mem_append.mp h with h | h
      · exact hs s hm h
      · exact hb (List.mem_singleton.mp h)
    · exact hx h
  refine ⟨segments.flatMap (· ++ ['.']) ++ x, ?_, ?_, ?_⟩
  · exact hnone '[' (by decide) (fun s hs => (hp s hs).2.1) hx.2.1
  · exact hnone ']' (by decide) (fun s hs => (hp s hs).2.2) hx.2.2
  · rw [List.append_assoc, Text.pieces_flatMap_append (fun s hs => (hp s hs).1)]
    · exact covers_append_iff.mpr ⟨segments, _, rfl, hs, hb⟩
    · simp [hx.1]

end TypePattern

namespace MethodPattern

open TypePattern (EndsWith)

variable {s : String} {p : MethodPattern} {e : ElementPattern} {t : ErasedType}

lemma exists_concat_of_namesElement {c : Char} {name : List Char} (h : EndsWith e.pattern e.base c)
    (hdot : c ≠ '.') (hstar : c ≠ '*') (hn : NamesElement e.base e.pattern name) :
    ∃ before, name = before ++ [c] := by
  rcases hn with hn | ⟨-, -, -, rfl⟩
  · exact h.exists_concat hdot hstar hn
  · obtain ⟨-, -, -, -, hl, -⟩ := h
    obtain ⟨before, hb⟩ := List.getLast?_eq_some_iff.mp hl
    exact ⟨_, by rw [hb, ← List.append_assoc]⟩

lemma dimensions_eq_of_literal {c : Char} (hs : Spells e.pattern e.base)
    (h : EndsWith e.pattern e.base c) (hdot : c ≠ '.') (hstar : c ≠ '*') (ht : t.HasPlainElement)
    (hm : e.matchesText t.name.toList = true) : t.dimensions = e.dimensions := by
  obtain ⟨extra, hd, hn⟩ := (matchesText_name_iff ht).mp hm
  cases extra with
  | zero => exact hd
  | succ extra =>
    obtain ⟨before, hb⟩ := exists_concat_of_namesElement h hdot hstar hn
    rw [brackets_concat, ← List.append_assoc] at hb
    -- The name would end with a bracket, a character that no pattern spells.
    obtain ⟨-, hc⟩ := List.append_inj' hb rfl
    obtain ⟨-, -, -, -, hl, -⟩ := h
    exact absurd (List.singleton_injective hc).symm (hs.char (List.mem_of_getLast? hl)).2

lemma exists_more_dimensions {c : Char} (h : EndsWith e.pattern e.base c)
    (hc : c = '*' ∨ c = '.') :
    ∃ t : ErasedType, t.HasPlainElement ∧ e.matchesText t.name.toList = true ∧
      t.dimensions = e.dimensions + 1 := by
  obtain ⟨name, ho, hcl, hcov⟩ := h.exists_covers_brackets hc
  let t := ErasedType.array^[e.dimensions + 1] (.classType (String.ofList name))
  have ht : t.HasPlainElement := by
    rw [ErasedType.hasPlainElement_iterate_array]
    simp [ErasedType.HasPlainElement, ho, hcl]
  have hd : t.dimensions = e.dimensions + 1 := by
    rw [ErasedType.dimensions_iterate_array]
    exact Nat.zero_add _
  refine ⟨t, ht, (matchesText_name_iff ht).mpr ⟨1, hd, .inl ?_⟩, hd⟩
  rw [ErasedType.innermost_iterate_array]
  simpa [ErasedType.innermost, ErasedType.name, brackets] using hcov

/-- A type has at least as many dimensions as the pattern that accepts it has pairs of brackets. It
always has just as many if and only if no wildcard stands before the brackets. -/
theorem dimensions_of_matchesText (hp : MethodPattern.parse s = .ok p)
    (he : .element e ∈ p.arguments) :
    (∀ t : ErasedType, t.HasPlainElement → e.matchesText t.name.toList = true →
      e.dimensions ≤ t.dimensions) ∧
    ((∀ t : ErasedType, t.HasPlainElement → e.matchesText t.name.toList = true →
      t.dimensions = e.dimensions) ↔ ∀ c ∈ e.base.getLast?, c ≠ '*' ∧ c ≠ '.') := by
  obtain ⟨item, -, -, -, hs⟩ := exists_item_of_mem hp he
  obtain ⟨c, hc⟩ := hs.exists_endsWith
  have hl : e.base.getLast? = some c := by
    obtain ⟨-, -, -, -, hl, -⟩ := hc
    exact hl
  refine ⟨fun t ht hm => ?_, fun h d hd => ?_, fun h t ht hm => ?_⟩
  · obtain ⟨extra, hd, -⟩ := (matchesText_name_iff ht).mp hm
    omega
  · obtain rfl : c = d := Option.some_inj.mp (hl.symm.trans hd)
    by_contra hw
    obtain ⟨t, ht, hm, hd⟩ := exists_more_dimensions hc (by tauto)
    have := h t ht hm
    omega
  · obtain ⟨hstar, hdot⟩ := h c hl
    exact dimensions_eq_of_literal hs hc hdot hstar ht hm

theorem dimensions_of_matchesText_name_and_star :
    let string : ElementPattern := ⟨"String".toList, [.glob "String".toList], 1⟩
    let star : ElementPattern := ⟨"S*".toList, [.glob "S*".toList], 1⟩
    let p : MethodPattern := ⟨"a.B m(String [], S*[])", [.glob ['a'], .glob ['B']], some "m",
      [.element string, .element star]⟩
    MethodPattern.parse "a.B m(String [], S*[])" = .ok p ∧
      .element string ∈ p.arguments ∧ .element star ∈ p.arguments ∧
      string.matchesText (ErasedType.array .string).name.toList = true ∧
      (∀ t : ErasedType, t.HasPlainElement → string.matchesText t.name.toList = true →
        t.dimensions = 1) ∧
      ¬ ∀ t : ErasedType, t.HasPlainElement → star.matchesText t.name.toList = true →
        t.dimensions = 1 := by
  intro string star p
  have hp : MethodPattern.parse "a.B m(String [], S*[])" = .ok p := rfl
  have hn : .element string ∈ p.arguments := List.mem_cons_self
  have hs : .element star ∈ p.arguments := List.mem_cons_of_mem _ List.mem_cons_self
  refine ⟨hp, hn, hs, by decide +kernel, ?_, fun h => ?_⟩
  · exact (dimensions_of_matchesText hp hn).2.mpr (by simp [string])
  · exact ((dimensions_of_matchesText hp hs).2.mp h '*' rfl).1 rfl

theorem array_accepted_without_brackets :
    let star : ElementPattern :=
      ⟨"java.lang.S*".toList, [.glob "java".toList, .glob "lang".toList, .glob "S*".toList], 0⟩
    let p : MethodPattern :=
      ⟨"a.B m(java.lang.S*)", [.glob ['a'], .glob ['B']], some "m", [.element star]⟩
    let strings : ErasedType := .array .string
    let method : Signature := ⟨"a.B", "m", [strings], .string⟩
    MethodPattern.parse "a.B m(java.lang.S*)" = .ok p ∧ .element star ∈ p.arguments ∧
      strings.HasPlainElement ∧ star.matchesText strings.name.toList = true ∧
      strings.dimensions ≠ star.dimensions ∧ p.accepts method = true := by
  intro star p strings method
  refine ⟨rfl, List.mem_cons_self, ?_, by decide +kernel, by decide, by decide +kernel⟩
  simp [strings, ErasedType.HasPlainElement, ErasedType.string]

end MethodPattern

end GuardedCalls
