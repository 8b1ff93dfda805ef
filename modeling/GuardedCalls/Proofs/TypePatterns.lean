import GuardedCalls.Pattern.TypePattern
import GuardedCalls.Proofs.Cuts

/-! How type patterns are spelled, and which names they match. A text is accepted if and only if it
spells a list of items, and a name matches if and only if the items cover its segments. -/

namespace GuardedCalls

open Text (pieces dotPairPieces isAlphabetic isNumeric)

lemma bind_eq_ok_iff {ε α β : Type} {x : Except ε α} {next : α → Except ε β} {b : β} :
    (x >>= next) = .ok b ↔ ∃ a, x = .ok a ∧ next a = .ok b := by
  cases x with
  | error e =>
    constructor
    · intro h
      exact nomatch h
    · rintro ⟨a, h, -⟩
      exact nomatch h
  | ok a =>
    constructor
    · exact fun h => ⟨a, rfl, h⟩
    · rintro ⟨a', h, hb⟩
      exact Except.ok.inj h ▸ hb

lemma intercalate_singleton_cons {α : Type} (sep : α) (xs : List α) (xss : List (List α)) :
    List.intercalate [sep] (xs :: xss) = xs ++ xss.flatMap (sep :: ·) := by
  induction xss generalizing xs with
  | nil => simp
  | cons ys xss ih =>
    rw [List.intercalate_cons_cons, ih, List.flatMap_cons]
    simp

namespace Pattern

inductive Fills : List Char → List Char → Prop
  | nil : Fills [] []
  | char {c : Char} {glob segment : List Char} :
      c ≠ '*' → Fills glob segment → Fills (c :: glob) (c :: segment)
  | star {glob segment : List Char} (filling : List Char) :
      Fills glob segment → Fills ('*' :: glob) (filling ++ segment)

inductive Covers : TypePattern → List (List Char) → Prop
  | nil : Covers [] []
  | run {taken segments : List (List Char)} {items : TypePattern} :
      (∀ segment ∈ taken, segment ≠ []) → Covers items segments →
      Covers (.run :: items) (taken ++ segments)
  | any {segment : List Char} {segments : List (List Char)} {items : TypePattern} :
      segment ≠ [] → Covers items segments → Covers (.any :: items) (segment :: segments)
  | glob {text segment : List Char} {segments : List (List Char)} {items : TypePattern} :
      Fills text segment → Covers items segments →
      Covers (.glob text :: items) (segment :: segments)

section

variable {α : Type} {test : α → Bool} {slots : List (Slot α)} {xs : List α}

lemma Aligned.run_append {taken : List α} (ht : ∀ x ∈ taken, test x = true)
    (hs : Aligned slots xs) : Aligned (.run test :: slots) (taken ++ xs) := by
  induction taken with
  | nil => exact .skip hs
  | cons x taken ih =>
    exact .take (ht x List.mem_cons_self) (ih fun y hy => ht y (List.mem_cons_of_mem x hy))

lemma Aligned.exists_run (h : Aligned (.run test :: slots) xs) :
    ∃ taken rest, xs = taken ++ rest ∧ (∀ x ∈ taken, test x = true) ∧ Aligned slots rest := by
  induction xs with
  | nil =>
    cases h with
    | skip hs => exact ⟨[], [], rfl, by simp, hs⟩
  | cons x xs ih =>
    cases h with
    | skip hs => exact ⟨[], x :: xs, rfl, by simp, hs⟩
    | take hx hs =>
      obtain ⟨taken, rest, rfl, ht, hr⟩ := ih hs
      exact ⟨x :: taken, rest, rfl, by simpa [hx] using ht, hr⟩

end

lemma aligned_globSlot_iff {glob segment : List Char} :
    Aligned (glob.map globSlot) segment ↔ Fills glob segment := by
  constructor
  · intro h
    induction glob generalizing segment with
    | nil =>
      cases h
      exact .nil
    | cons c glob ih =>
      rw [List.map_cons, globSlot] at h
      by_cases hc : c = '*'
      · subst hc
        rw [if_pos rfl] at h
        obtain ⟨taken, rest, rfl, -, hr⟩ := h.exists_run
        exact .star taken (ih hr)
      · rw [if_neg hc] at h
        cases h with
        | one hx hs =>
          obtain rfl := of_decide_eq_true hx
          exact .char hc (ih hs)
  · intro h
    induction h with
    | nil => exact .nil
    | @char c glob segment hc _ ih =>
      rw [List.map_cons, globSlot, if_neg hc]
      exact .one (decide_eq_true rfl) ih
    | star filling _ ih => exact ih.run_append fun _ _ => rfl

lemma aligned_slot_iff {items : TypePattern} {segments : List (List Char)} :
    Aligned (items.map TypeItem.slot) segments ↔ Covers items segments := by
  constructor
  · intro h
    induction items generalizing segments with
    | nil =>
      cases h
      exact .nil
    | cons item items ih =>
      cases item with
      | run =>
        obtain ⟨taken, rest, rfl, ht, hr⟩ := h.exists_run
        exact .run (fun s hs => by simpa using ht s hs) (ih hr)
      | any =>
        cases h with
        | one hx hs => exact .any (by simpa using hx) (ih hs)
      | glob text =>
        cases h with
        | one hx hs => exact .glob (aligned_globSlot_iff.mp ((aligns_iff _ _).mp hx)) (ih hs)
  · intro h
    induction h with
    | nil => exact .nil
    | run ht _ ih => exact ih.run_append fun s hs => by simpa using ht s hs
    | any hs _ ih => exact .one (by simpa using hs) ih
    | glob hs _ ih => exact .one ((aligns_iff _ _).mpr (aligned_globSlot_iff.mpr hs)) ih

lemma covers_append_iff {front back : TypePattern} {segments : List (List Char)} :
    Covers (front ++ back) segments ↔
      ∃ s t, segments = s ++ t ∧ Covers front s ∧ Covers back t := by
  constructor
  · intro h
    induction front generalizing segments with
    | nil => exact ⟨[], segments, rfl, .nil, h⟩
    | cons item front ih =>
      cases h with
      | run ht hs =>
        obtain ⟨s, t, rfl, hf, hb⟩ := ih hs
        exact ⟨_, t, (List.append_assoc _ s t).symm, .run ht hf, hb⟩
      | any hx hs =>
        obtain ⟨s, t, rfl, hf, hb⟩ := ih hs
        exact ⟨_ :: s, t, rfl, .any hx hf, hb⟩
      | glob hx hs =>
        obtain ⟨s, t, rfl, hf, hb⟩ := ih hs
        exact ⟨_ :: s, t, rfl, .glob hx hf, hb⟩
  · rintro ⟨s, t, rfl, hf, hb⟩
    induction hf with
    | nil => exact hb
    | run ht _ ih =>
      rw [List.append_assoc]
      exact .run ht ih
    | any hx _ ih => exact .any hx ih
    | glob hx _ ih => exact .glob hx ih

end Pattern

namespace TypePattern

open Pattern

lemma matchesText_iff (items : TypePattern) (name : List Char) :
    items.matchesText name = true ↔ Covers items (pieces '.' name) := by
  rw [matchesText, aligns_iff, aligned_slot_iff]

def IsSegment (segment : List Char) : Prop :=
  segment ≠ [] ∧ (∀ c ∈ segment.head?, c.isDigit = false) ∧
    ∀ c ∈ segment, isAlphabetic c = true ∨ isNumeric c = true ∨ c = '_' ∨ c = '$' ∨ c = '*'

def itemOf (segment : List Char) : TypeItem :=
  if segment = ['*'] then .any else .glob segment

inductive SpellsRest : TypePattern → List Char → Prop
  | nil : SpellsRest [] []
  | run : SpellsRest [.run] ['.', '.']
  | dot {segment : List Char} {items : TypePattern} {text : List Char} :
      IsSegment segment → SpellsRest items text →
      SpellsRest (itemOf segment :: items) ('.' :: (segment ++ text))
  | dots {segment : List Char} {items : TypePattern} {text : List Char} :
      IsSegment segment → SpellsRest items text →
      SpellsRest (.run :: itemOf segment :: items) ('.' :: '.' :: (segment ++ text))

/-- Two dots alone, or segments with a dot or two between them and maybe two dots at either end. -/
inductive Spells : TypePattern → List Char → Prop
  | run : Spells [.run] ['.', '.']
  | plain {segment : List Char} {items : TypePattern} {text : List Char} :
      IsSegment segment → SpellsRest items text → Spells (itemOf segment :: items) (segment ++ text)
  | leading {segment : List Char} {items : TypePattern} {text : List Char} :
      IsSegment segment → SpellsRest items text →
      Spells (.run :: itemOf segment :: items) ('.' :: '.' :: (segment ++ text))

variable {segment part text : List Char} {items : TypePattern}

lemma isSegment_iff : isSegment segment = true ↔ IsSegment segment := by
  cases segment with
  | nil => simp [isSegment, IsSegment]
  | cons c s => simp [isSegment, IsSegment, isSegmentChar, or_assoc]

lemma IsSegment.notMem_dot (hs : IsSegment segment) : '.' ∉ segment := by
  intro h
  have hd := hs.2.2 '.' h
  revert hd
  decide

lemma IsSegment.exists_cons (hs : IsSegment segment) :
    ∃ c s, segment = c :: s ∧ c ≠ '.' := by
  obtain ⟨c, s, rfl⟩ := List.exists_cons_of_ne_nil hs.1
  refine ⟨c, s, rfl, ?_⟩
  rintro rfl
  exact hs.notMem_dot List.mem_cons_self

lemma parseSegment_eq_ok_iff {item : TypeItem} :
    parseSegment segment = .ok item ↔ IsSegment segment ∧ item = itemOf segment := by
  rw [← isSegment_iff, parseSegment, itemOf]
  cases segment with
  | nil => simp [isSegment]
  | cons c s =>
    cases hs : isSegment (c :: s) with
    | false => simp
    | true => by_cases hc : c :: s = ['*'] <;> simp only [hc] <;> simp [eq_comm (a := item)]

lemma mapM_parseSegment_cons (hs : IsSegment segment) {segments : List (List Char)}
    (ht : segments.mapM parseSegment = .ok items) :
    (segment :: segments).mapM parseSegment = .ok (itemOf segment :: items) := by
  rw [List.mapM_cons, parseSegment_eq_ok_iff.mpr ⟨hs, rfl⟩, ht]
  rfl

lemma mapM_parseSegment_eq_ok {segments : List (List Char)}
    (h : segments.mapM parseSegment = .ok items) :
    (∀ s ∈ segments, IsSegment s) ∧ items = segments.map itemOf := by
  induction segments generalizing items with
  | nil => exact ⟨by simp, (Except.ok.inj h).symm⟩
  | cons s segments ih =>
    rw [List.mapM_cons, bind_eq_ok_iff] at h
    obtain ⟨item, hs, h⟩ := h
    rw [bind_eq_ok_iff] at h
    obtain ⟨rest, ht, h⟩ := h
    obtain ⟨hi, rfl⟩ := parseSegment_eq_ok_iff.mp hs
    obtain ⟨hr, rfl⟩ := ih ht
    exact ⟨List.forall_mem_cons.mpr ⟨hi, hr⟩, (Except.ok.inj h).symm⟩

lemma SpellsRest.parse (h : SpellsRest items text) :
    ∃ part parts, dotPairPieces text = part :: parts ∧
      ∃ front stretches, items = front ++ stretches.flatMap (.run :: ·) ∧
        parseStretches false parts = .ok stretches ∧
        ∀ segment, IsSegment segment →
          (pieces '.' (segment ++ part)).mapM parseSegment = .ok (itemOf segment :: front) := by
  -- The first piece goes on with the segment before the text, so its items wait for that segment.
  have hone : ∀ segment, IsSegment segment →
      (pieces '.' (segment ++ [])).mapM parseSegment = .ok [itemOf segment] := by
    intro segment hs
    rw [List.append_nil, Text.pieces_of_notMem hs.notMem_dot]
    exact mapM_parseSegment_cons hs rfl
  induction h with
  | nil => exact ⟨[], [], rfl, [], [], rfl, rfl, hone⟩
  | run => exact ⟨[], [[]], rfl, [], [[]], rfl, rfl, hone⟩
  | @dot segment items text hs _ ih =>
    obtain ⟨part, parts, hp, front, stretches, rfl, hps, hf⟩ := ih
    have hcut := Text.dotPairPieces_append hs.notMem_dot hp
    refine ⟨'.' :: (segment ++ part), parts, ?_, itemOf segment :: front, stretches, rfl, hps, ?_⟩
    · obtain ⟨c, s, rfl, hc⟩ := hs.exists_cons
      exact Text.dotPairPieces_dot_cons hc hcut
    · intro before hb
      have hd : pieces '.' ('.' :: (segment ++ part)) = [] :: pieces '.' (segment ++ part) :=
        Text.pieces_sep_cons '.' _
      rw [Text.pieces_append hb.notMem_dot hd, List.append_nil]
      exact mapM_parseSegment_cons hb (hf segment hs)
  | @dots segment items text hs _ ih =>
    obtain ⟨part, parts, hp, front, stretches, rfl, hps, hf⟩ := ih
    have hcut := Text.dotPairPieces_append hs.notMem_dot hp
    refine ⟨[], (segment ++ part) :: parts, ?_, [], (itemOf segment :: front) :: stretches, ?_, ?_,
      hone⟩
    · rw [dotPairPieces, hcut]
    · simp
    · have hne : (segment ++ part).isEmpty = false := by simp [hs.1]
      rw [parseStretches, hne, hf segment hs, hps]
      rfl

lemma Spells.parse (h : Spells items text) : TypePattern.parse text = .ok items := by
  cases h with
  | run => rfl
  | @plain segment items text hs hr =>
    obtain ⟨part, parts, hp, front, stretches, rfl, hps, hf⟩ := hr.parse
    have hne : (segment ++ text).isEmpty = false := by simp [hs.1]
    have hne' : (segment ++ part).isEmpty = false := by simp [hs.1]
    rw [TypePattern.parse, hne, Text.dotPairPieces_append hs.notMem_dot hp, parseStretches, hne',
      hf segment hs, hps]
    exact congrArg Except.ok (intercalate_singleton_cons _ _ _)
  | @leading segment items text hs hr =>
    obtain ⟨part, parts, hp, front, stretches, rfl, hps, hf⟩ := hr.parse
    have hne : (segment ++ part).isEmpty = false := by simp [hs.1]
    rw [TypePattern.parse, dotPairPieces, Text.dotPairPieces_append hs.notMem_dot hp,
      parseStretches, parseStretches, hne, hf segment hs, hps]
    exact congrArg Except.ok (intercalate_singleton_cons _ _ _)

lemma SpellsRest.segments {segments : List (List Char)} (hs : ∀ s ∈ segments, IsSegment s)
    (h : SpellsRest items text) :
    SpellsRest (segments.map itemOf ++ items) (segments.flatMap ('.' :: ·) ++ text) := by
  induction segments with
  | nil => exact h
  | cons s segments ih =>
    rw [List.forall_mem_cons] at hs
    have ht := SpellsRest.dot hs.1 (ih hs.2)
    simpa using ht

lemma exists_segments_of_mapM (h : (pieces '.' part).mapM parseSegment = .ok items) :
    ∃ (segment : List Char) (segments : List (List Char)),
      IsSegment segment ∧ (∀ s ∈ segments, IsSegment s) ∧
      part = segment ++ segments.flatMap ('.' :: ·) ∧
      items = itemOf segment :: segments.map itemOf := by
  obtain ⟨segment, segments, hp⟩ := List.exists_cons_of_ne_nil (Text.pieces_ne_nil '.' part)
  rw [hp] at h
  obtain ⟨hs, rfl⟩ := mapM_parseSegment_eq_ok h
  rw [List.forall_mem_cons] at hs
  exact ⟨segment, segments, hs.1, hs.2, (Text.eq_of_pieces hp).1, rfl⟩

def stretchItems (first : Bool) (part : List Char) (parts : List (List Char)) :
    Except Cause TypePattern :=
  if part.isEmpty then if first || parts.isEmpty then .ok [] else .error .consecutiveRuns
  else (pieces '.' part).mapM parseSegment

lemma parseStretches_cons (first : Bool) (part : List Char) (parts : List (List Char)) :
    parseStretches first (part :: parts) = (do
      let front ← stretchItems first part parts
      return front :: (← parseStretches false parts)) := by
  rw [parseStretches, stretchItems]
  split
  · split <;> rfl
  · rfl

lemma stretchItems_eq_ok {first : Bool} {parts : List (List Char)}
    (h : stretchItems first part parts = .ok items) :
    part = [] ∧ items = [] ∧ (first = true ∨ parts = []) ∨
      (pieces '.' part).mapM parseSegment = .ok items := by
  rw [stretchItems] at h
  split at h
  · rename_i hp
    split at h
    · rename_i hl
      exact .inl ⟨List.isEmpty_iff.mp hp, (Except.ok.inj h).symm, by simpa using hl⟩
    · exact nomatch h
  · exact .inr h

lemma parseStretches_eq_ok {first : Bool} {part : List Char} {parts : List (List Char)}
    {stretches : List TypePattern} (h : parseStretches first (part :: parts) = .ok stretches) :
    ∃ front rest, stretches = front :: rest ∧ stretchItems first part parts = .ok front ∧
      parseStretches false parts = .ok rest := by
  rw [parseStretches_cons, bind_eq_ok_iff] at h
  obtain ⟨front, hf, h⟩ := h
  obtain ⟨rest, hr, h⟩ := bind_eq_ok_iff.mp h
  exact ⟨front, rest, (Except.ok.inj h).symm, hf, hr⟩

lemma spellsRest_of_parseStretches {parts : List (List Char)} {stretches : List TypePattern}
    (h : parseStretches false parts = .ok stretches) :
    SpellsRest (stretches.flatMap (.run :: ·)) (parts.flatMap ('.' :: '.' :: ·)) := by
  induction parts generalizing stretches with
  | nil =>
    obtain rfl := Except.ok.inj h
    exact .nil
  | cons part parts ih =>
    obtain ⟨front, rest, rfl, hf, hr⟩ := parseStretches_eq_ok h
    rcases stretchItems_eq_ok hf with ⟨rfl, rfl, hl⟩ | hf
    · obtain rfl : parts = [] := by simpa using hl
      obtain rfl := Except.ok.inj hr
      exact .run
    · obtain ⟨segment, segments, hs, hss, rfl, rfl⟩ := exists_segments_of_mapM hf
      simpa using SpellsRest.dots hs (.segments hss (ih hr))

lemma SpellsRest.spells (h : SpellsRest items text) (hd : ['.', '.'] <+: text) :
    Spells items text := by
  cases h with
  | nil => simp at hd
  | run => exact .run
  | dot hs _ =>
    obtain ⟨c, s, rfl, hc⟩ := hs.exists_cons
    simp [Ne.symm hc] at hd
  | dots hs hr => exact .leading hs hr

lemma spells_of_parse (h : TypePattern.parse text = .ok items) : Spells items text := by
  rw [TypePattern.parse] at h
  split at h
  · exact nomatch h
  rename_i hne
  obtain ⟨stretches, hs, h⟩ := bind_eq_ok_iff.mp h
  obtain rfl := Except.ok.inj h
  obtain ⟨part, parts, hp⟩ := List.exists_cons_of_ne_nil (Text.dotPairPieces_ne_nil text)
  obtain rfl := Text.eq_of_dotPairPieces hp
  rw [hp] at hs
  obtain ⟨front, rest, rfl, hf, hr⟩ := parseStretches_eq_ok hs
  have hrest := spellsRest_of_parseStretches hr
  rw [intercalate_singleton_cons]
  rcases stretchItems_eq_ok hf with ⟨rfl, rfl, -⟩ | hf
  · apply hrest.spells
    cases parts with
    | nil => simp at hne
    | cons q parts => simp
  · obtain ⟨segment, segments, hfirst, hothers, rfl, rfl⟩ := exists_segments_of_mapM hf
    have hspell := Spells.plain hfirst (.segments hothers hrest)
    simpa using hspell

lemma parse_eq_ok_iff : TypePattern.parse text = .ok items ↔ Spells items text :=
  ⟨spells_of_parse, Spells.parse⟩

end TypePattern

end GuardedCalls
