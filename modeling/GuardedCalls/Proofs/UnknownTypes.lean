import GuardedCalls.Proofs.ArgumentBlocks

/-! Which patterns accept a parameter of unknown type. Its name is a mark that no pattern can spell,
but names are matched as plain text, and a wildcard takes the mark like any other character. -/

namespace GuardedCalls

open Text (pieces)
open Pattern (TypeItem Fills Covers)
open TypePattern (Spells SpellsRest IsSegment itemOf)

namespace Pattern

variable {glob segment : List Char} {c : Char}

lemma Fills.eq_star_or_mem (h : Fills glob segment) (hc : c ∈ glob) : c = '*' ∨ c ∈ segment := by
  induction h with
  | nil => exact absurd hc List.not_mem_nil
  | char _ _ ih =>
    rcases List.mem_cons.mp hc with rfl | hc
    · exact .inr List.mem_cons_self
    · exact (ih hc).imp_right (List.mem_cons_of_mem _)
  | star filling _ ih =>
    rcases List.mem_cons.mp hc with rfl | hc
    · exact .inl rfl
    · exact (ih hc).imp_right (List.mem_append_right filling)

lemma fills_filter (glob : List Char) : Fills glob (glob.filter (· ≠ '*')) := by
  induction glob with
  | nil => exact .nil
  | cons c glob ih =>
    by_cases hc : c = '*'
    · subst hc
      exact .star [] ih
    · rw [List.filter_cons_of_pos (by simpa using hc)]
      exact .char hc ih

lemma fills_of_stars (hn : glob ≠ []) (hs : ∀ c ∈ glob, c = '*') (segment : List Char) :
    Fills glob segment := by
  obtain ⟨c, rest, rfl⟩ := List.exists_cons_of_ne_nil hn
  rw [List.forall_mem_cons] at hs
  obtain ⟨rfl, hr⟩ := hs
  have hempty : rest.filter (· ≠ '*') = [] := by
    rw [List.filter_eq_nil_iff]
    intro c hc
    simp [hr c hc]
  have hrest := fills_filter rest
  rw [hempty] at hrest
  have h := Fills.star segment hrest
  rwa [List.append_nil] at h

lemma Covers.skip {items : TypePattern} {segments : List (List Char)} (h : Covers items segments) :
    Covers (.run :: items) segments := by
  have hr : Covers (.run :: items) ([] ++ segments) := .run nofun h
  exact hr

lemma Covers.take {items : TypePattern} (hn : segment ≠ []) (h : Covers items []) :
    Covers (.run :: items) [segment] := by
  have hr : Covers (.run :: items) ([segment] ++ []) := .run (by simpa using hn) h
  exact hr

end Pattern

namespace TypePattern

open Pattern

variable {segment name text : List Char} {items : TypePattern} {segments : List (List Char)}

lemma exists_of_covers_itemOf (h : Covers (itemOf segment :: items) segments) :
    ∃ first rest, segments = first :: rest ∧ Fills segment first ∧ Covers items rest := by
  rw [itemOf] at h
  split at h
  · rename_i hs
    cases h with
    | @any first rest _ _ hr =>
      refine ⟨first, rest, rfl, ?_, hr⟩
      rw [hs]
      exact fills_of_stars (by simp) (by simp) first
  · cases h with
    | glob hf hr => exact ⟨_, _, rfl, hf, hr⟩

lemma covers_itemOf (hf : Fills segment name) (hn : name ≠ []) (hr : Covers items segments) :
    Covers (itemOf segment :: items) (name :: segments) := by
  rw [itemOf]
  split
  · exact .any hn hr
  · exact .glob hf hr

lemma SpellsRest.covers_nil_iff (hs : SpellsRest items text) :
    Covers items [] ↔ text = [] ∨ text = ['.', '.'] := by
  have hnone : ∀ {segment : List Char} {items : TypePattern},
      ¬ Covers (itemOf segment :: items) [] := by
    intro segment items h
    obtain ⟨first, rest, h, -⟩ := exists_of_covers_itemOf h
    exact nomatch h
  cases hs with
  | nil => exact iff_of_true .nil (.inl rfl)
  | run => exact iff_of_true (.skip .nil) (.inr rfl)
  | dot hs _ =>
    obtain ⟨c, s, rfl, hc⟩ := hs.exists_cons
    refine iff_of_false hnone ?_
    simp [hc]
  | dots hs _ =>
    refine iff_of_false ?_ (by simp [hs.1])
    intro h
    generalize hn : ([] : List (List Char)) = segments at h
    cases h with
    | run _ h =>
      obtain ⟨-, rfl⟩ := List.append_eq_nil_iff.mp hn.symm
      exact hnone h

lemma Spells.unique {items' : TypePattern} (hs : Spells items text) (hs' : Spells items' text) :
    items = items' :=
  Except.ok.inj (hs.parse.symm.trans hs'.parse)

lemma Spells.covers_singleton_iff (hs : Spells items text) (hn : name ≠ []) :
    Covers items [name] ↔ text = ['.', '.'] ∨ ∃ front segment back,
      front ∈ [[], ['.', '.']] ∧ back ∈ [[], ['.', '.']] ∧ IsSegment segment ∧
        Fills segment name ∧ text = front ++ (segment ++ back) := by
  constructor
  · intro h
    cases hs with
    | run => exact .inl rfl
    | @plain segment items text hseg hr =>
      obtain ⟨first, rest, he, hf, hc⟩ := exists_of_covers_itemOf h
      obtain ⟨rfl, rfl⟩ := List.cons.inj he
      have hback := hr.covers_nil_iff.mp hc
      exact .inr ⟨[], segment, text, by simp, by simpa using hback, hseg, hf, rfl⟩
    | @leading segment items text hseg hr =>
      generalize he : [name] = segments at h
      cases h with
      | run _ h =>
        obtain ⟨first, rest, rfl, hf, hc⟩ := exists_of_covers_itemOf h
        -- The segment needs the name for itself, so that nothing is left for the double dots.
        obtain ⟨-, he⟩ := (List.append_eq_singleton_iff.mp he.symm).resolve_right (by simp)
        obtain ⟨rfl, rfl⟩ := List.cons.inj he
        have hback := hr.covers_nil_iff.mp hc
        exact .inr ⟨['.', '.'], segment, text, by simp, by simpa using hback, hseg, hf, rfl⟩
  · rintro (rfl | ⟨front, segment, back, hfront, hback, hseg, hf, rfl⟩)
    -- A text is spelled by one list of items only, so the one built here is the pattern's own.
    · rw [hs.unique .run]
      exact .take hn .nil
    · obtain ⟨after, hr⟩ : ∃ after, SpellsRest after back := by
        rcases List.mem_pair.mp hback with rfl | rfl
        · exact ⟨[], .nil⟩
        · exact ⟨[.run], .run⟩
      have hc : Covers (itemOf segment :: after) [name] :=
        covers_itemOf hf hn (hr.covers_nil_iff.mpr (List.mem_pair.mp hback))
      rcases List.mem_pair.mp hfront with rfl | rfl
      · have hp : Spells (itemOf segment :: after) (segment ++ back) := .plain hseg hr
        rwa [hs.unique hp]
      · have hl : Spells (.run :: itemOf segment :: after) ('.' :: '.' :: (segment ++ back)) :=
          .leading hseg hr
        rw [hs.unique hl]
        exact hc.skip

end TypePattern

namespace MethodPattern

variable {s : String} {p : MethodPattern} {e : ElementPattern}

lemma exists_parseList_of_parseTrimmed {text : List Char} (hp : parseTrimmed text = .ok p) :
    ∃ arguments, ArgumentPattern.parseList arguments = .ok p.arguments := by
  rw [parseTrimmed] at hp
  split at hp
  · cases hp
  obtain ⟨⟨head, text⟩, -, hp⟩ := bind_eq_ok_iff.mp hp
  dsimp only at hp
  split at hp
  · cases hp
  obtain ⟨method, -, hp⟩ := bind_eq_ok_iff.mp hp
  obtain ⟨owner, -, hp⟩ := bind_eq_ok_iff.mp hp
  obtain ⟨arguments, ha, hp⟩ := bind_eq_ok_iff.mp hp
  obtain rfl := Except.ok.inj hp
  exact ⟨text, ha⟩

lemma exists_parseList_of_parse (hp : MethodPattern.parse s = .ok p) :
    ∃ arguments, ArgumentPattern.parseList arguments = .ok p.arguments := by
  rw [MethodPattern.parse] at hp
  cases ht : parseTrimmed (Text.trim s.toList) with
  | error => simp [ht, Except.mapError] at hp
  | ok q =>
    obtain rfl : q = p := by simpa [ht, Except.mapError] using hp
    exact exists_parseList_of_parseTrimmed ht

lemma exists_readsAs_of_mem {items : List (List Char)} {arguments : List ArgumentPattern}
    (h : List.Forall₂ ReadsAs items arguments) {a : ArgumentPattern} (ha : a ∈ arguments) :
    ∃ item, ReadsAs item a := by
  induction h with
  | nil => exact absurd ha List.not_mem_nil
  | cons hr _ ih =>
    rcases List.mem_cons.mp ha with rfl | ha
    · exact ⟨_, hr⟩
    · exact ih ha

lemma exists_item_of_mem (hp : MethodPattern.parse s = .ok p) (he : .element e ∈ p.arguments) :
    ∃ item, item ≠ ['.', '.'] ∧ item ≠ ['*'] ∧ HasDimensions item e.base e.dimensions ∧
      Spells e.pattern e.base := by
  obtain ⟨text, ht⟩ := exists_parseList_of_parse hp
  obtain ⟨item, hr⟩ := exists_readsAs_of_mem (readsAs_of_parseList ht) he
  cases hr with
  | element hrun hany hp => exact ⟨item, hrun, hany, parse_element_eq_ok_iff.mp hp⟩

def IsStars (text : List Char) : Prop :=
  ∃ front stars back, front ∈ [[], ['.', '.']] ∧ back ∈ [[], ['.', '.']] ∧
    stars ≠ [] ∧ (∀ c ∈ stars, c = '*') ∧ text = front ++ (stars ++ back)

lemma fills_unknown_iff {segment : List Char} :
    IsSegment segment ∧ Fills segment ['?'] ↔ segment ≠ [] ∧ ∀ c ∈ segment, c = '*' := by
  constructor
  · rintro ⟨hs, hf⟩
    refine ⟨hs.1, fun c hc => (hf.eq_star_or_mem hc).resolve_right ?_⟩
    intro hm
    obtain rfl := List.mem_singleton.mp hm
    exact absurd (hs.2.2 '?' hc) (by decide)
  · rintro ⟨hn, hs⟩
    refine ⟨⟨hn, fun c hc => ?_, fun c hc => ?_⟩, Pattern.fills_of_stars hn hs _⟩
    · obtain rfl := hs c (List.mem_of_mem_head? hc)
      rfl
    · simp [hs c hc]

lemma covers_unknown_iff {pattern : TypePattern} {base : List Char} (hs : Spells pattern base) :
    Covers pattern [['?']] ↔ base = ['.', '.'] ∨ IsStars base := by
  rw [hs.covers_singleton_iff (by simp), IsStars]
  simp only [← and_assoc, ← fills_unknown_iff]

lemma brackets_zero : brackets 0 = [] := rfl

lemma length_brackets (dimensions : Nat) : (brackets dimensions).length = 2 * dimensions := by
  induction dimensions with
  | zero => rfl
  | succ dimensions ih =>
    rw [brackets_succ, List.length_append, ih, List.length_cons, List.length_singleton]
    omega

/-- The unknown type is accepted by the texts of stars and double dots, and by no text with any
other character in it. -/
theorem matchesText_unknown_iff (hp : MethodPattern.parse s = .ok p)
    (he : .element e ∈ p.arguments) :
    e.matchesText ErasedType.unknown.name.toList = true ↔ e.dimensions = 0 ∧ IsStars e.base := by
  obtain ⟨item, hrun, -, hd, hs⟩ := exists_item_of_mem hp he
  have hname : ErasedType.unknown.name.toList = ['?'] := by decide
  rw [hname, matchesText_element_iff]
  constructor
  · rintro ⟨element, hn, h⟩
    -- The mark is a single character, so that no brackets stand behind the element.
    have hlength := congrArg List.length h
    rw [List.length_append, length_brackets, List.length_singleton] at hlength
    have hzero : e.dimensions = 0 := by omega
    rw [hzero, brackets_zero, List.append_nil] at h
    subst h
    refine ⟨hzero, ?_⟩
    rcases hn with hc | ⟨-, -, -, hl⟩
    · refine ((covers_unknown_iff hs).mp hc).resolve_left ?_
      intro hb
      rw [hzero, hb] at hd
      cases hd
      exact hrun rfl
    · simp at hl
  · rintro ⟨hzero, hstars⟩
    refine ⟨['?'], .inl ?_, ?_⟩
    · exact (covers_unknown_iff hs).mpr (.inr hstars)
    · rw [hzero, brackets_zero, List.append_nil]

theorem matchesText_unknown_iff_wild_and_int :
    let wild : ElementPattern := ⟨"..*".toList, [.run, .any], 0⟩
    let int : ElementPattern := ⟨"int".toList, [.glob "int".toList], 0⟩
    let p : MethodPattern := ⟨"a.B m(..*, int)", [.glob ['a'], .glob ['B']], some "m",
      [.element wild, .element int]⟩
    MethodPattern.parse "a.B m(..*, int)" = .ok p ∧
      .element wild ∈ p.arguments ∧ .element int ∈ p.arguments ∧
      wild.matchesText ErasedType.unknown.name.toList = true ∧ ¬ IsStars int.base := by
  intro wild int p
  have hp : MethodPattern.parse "a.B m(..*, int)" = .ok p := rfl
  have hw : .element wild ∈ p.arguments := List.mem_cons_self
  have hi : .element int ∈ p.arguments := List.mem_cons_of_mem _ List.mem_cons_self
  refine ⟨hp, hw, hi, (matchesText_unknown_iff hp hw).mpr ⟨rfl, ?_⟩, fun h => ?_⟩
  · exact ⟨['.', '.'], ['*'], [], by simp, by simp, by simp, by simp, rfl⟩
  · have hm := (matchesText_unknown_iff hp hi).mpr ⟨rfl, h⟩
    exact absurd hm (by decide +kernel)

theorem unknown_type_accepted :
    let wild : ElementPattern := ⟨"..*".toList, [.run, .any], 0⟩
    let p : MethodPattern := ⟨"a.B m(..*)", [.glob ['a'], .glob ['B']], some "m", [.element wild]⟩
    let method : Signature := ⟨"a.B", "m", [.unknown], .string⟩
    MethodPattern.parse "a.B m(..*)" = .ok p ∧ .element wild ∈ p.arguments ∧
      ¬ wild.matchesText ErasedType.unknown.name.toList = false ∧ p.accepts method = true := by
  intro wild p method
  exact ⟨rfl, List.mem_cons_self, by decide +kernel, by decide +kernel⟩

end MethodPattern

end GuardedCalls
