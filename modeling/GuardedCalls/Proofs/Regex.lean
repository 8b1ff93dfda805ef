import GuardedCalls.Proofs.TypePatterns
import Mathlib.Computability.Language

/-! Type patterns as regular expressions. Around the stretches between its double dots a pattern
says in four ways where the dots of a name go, and yet a name belongs to the language if and only if
the items cover its segments. -/

namespace GuardedCalls

open Text (pieces dotPairPieces)
open scoped Computability

namespace Pattern

inductive Regex
  | empty
  | char (c : Char)
  | notDot
  | seq (first second : Regex)
  | opt (inner : Regex)
  | star (inner : Regex)

namespace Regex

def language : Regex → Language Char
  | .empty => 1
  | .char c => {[c]}
  | .notDot => {s | ∃ c, c ≠ '.' ∧ s = [c]}
  | .seq first second => first.language * second.language
  | .opt inner => 1 + inner.language
  | .star inner => inner.language∗

def plus (r : Regex) : Regex :=
  r.seq r.star

def dot : Regex :=
  .char '.'

def anySegment : Regex :=
  notDot.plus

def literal : List Char → Regex
  | [] => .empty
  | c :: s => .seq (.char c) (literal s)

def join (separator : Regex) : List Regex → Regex
  | [] => .empty
  | [r] => r
  | r :: s :: rs => .seq r (.seq separator (join separator (s :: rs)))

end Regex

end Pattern

namespace TypePattern

open Pattern

def segmentRegex (segment : List Char) : Regex :=
  if segment = ['*'] then .anySegment
  else .join Regex.notDot.star ((pieces '*' segment).map .literal)

def checkedSegment (segment : List Char) : Except Cause Regex := do
  let _ ← parseSegment segment
  return segmentRegex segment

def dottedRegex (stretch : List Char) : Except Cause Regex := do
  return .join .dot (← (pieces '.' stretch).mapM checkedSegment)

def stretchRegex (before : Option (List Char)) (stretch : List Char) (isLast : Bool) :
    Except Cause Regex :=
  -- At either end an empty stretch stands for any segments, which bring their dots with them.
  if stretch.isEmpty then
    if before.isNone then .ok (Regex.star (.seq .anySegment .dot))
    else if isLast then .ok (Regex.star (.seq .dot .anySegment))
    else .error .consecutiveRuns
  else if before.any (!·.isEmpty) then do
    let body ← dottedRegex stretch
    return .seq (.star (.seq .dot .anySegment)) (.seq .dot body)
  else dottedRegex stretch

def regexFrom : (before : Option (List Char)) → List (List Char) → Except Cause Regex
  | _, [] => .ok .empty
  | before, stretch :: rest => do
    let here ← stretchRegex before stretch rest.isEmpty
    return .seq here (← regexFrom (some stretch) rest)

def regex (text : List Char) : Except Cause Regex :=
  if text.isEmpty then .error .emptySegment
  else if text = ['.', '.'] then .ok (.seq .anySegment (.star (.seq .dot .anySegment)))
  else regexFrom none (dotPairPieces text)

end TypePattern

namespace Pattern

namespace Regex

variable {w s : List Char}

lemma mem_dot_mul {l : Language Char} : w ∈ dot.language * l ↔ ∃ s ∈ l, w = '.' :: s := by
  rw [Language.mem_mul]
  constructor
  · rintro ⟨a, rfl, b, hb, rfl⟩
    exact ⟨b, hb, rfl⟩
  · rintro ⟨s, hs, rfl⟩
    exact ⟨['.'], rfl, s, hs, rfl⟩

lemma mem_star_notDot : w ∈ notDot.star.language ↔ '.' ∉ w := by
  constructor
  · rintro ⟨cs, rfl, hcs⟩ hd
    obtain ⟨t, ht, hd⟩ := List.mem_flatten.mp hd
    obtain ⟨c, hc, rfl⟩ := hcs t ht
    exact hc (List.mem_singleton.mp hd).symm
  · intro hw
    refine ⟨w.map ([·]), by rw [← List.flatMap_def, List.flatMap_singleton'], ?_⟩
    intro t ht
    obtain ⟨c, hc, rfl⟩ := List.mem_map.mp ht
    exact ⟨c, fun h => hw (h ▸ hc), rfl⟩

lemma mem_anySegment : w ∈ anySegment.language ↔ w ≠ [] ∧ '.' ∉ w := by
  change w ∈ notDot.language * notDot.star.language ↔ _
  rw [Language.mem_mul]
  constructor
  · rintro ⟨a, ⟨c, hc, rfl⟩, b, hb, rfl⟩
    rw [mem_star_notDot] at hb
    exact ⟨by simp, by simp [Ne.symm hc, hb]⟩
  · rintro ⟨hn, hw⟩
    obtain ⟨c, s, rfl⟩ := List.exists_cons_of_ne_nil hn
    rw [List.mem_cons, not_or] at hw
    exact ⟨[c], ⟨c, Ne.symm hw.1, rfl⟩, s, mem_star_notDot.mpr hw.2, rfl⟩

lemma mem_literal : w ∈ (literal s).language ↔ w = s := by
  induction s generalizing w with
  | nil => exact Language.mem_one w
  | cons c s ih =>
    change w ∈ (char c).language * (literal s).language ↔ _
    rw [Language.mem_mul]
    constructor
    · rintro ⟨a, rfl, b, hb, rfl⟩
      rw [ih.mp hb]
      rfl
    · rintro rfl
      exact ⟨[c], rfl, s, ih.mpr rfl, rfl⟩

lemma mem_seq_literal {r : Regex} :
    w ∈ (seq r (literal s)).language ↔ ∃ v ∈ r.language, w = v ++ s := by
  change w ∈ r.language * (literal s).language ↔ _
  simp only [Language.mem_mul, mem_literal]
  constructor
  · rintro ⟨v, hv, _, rfl, rfl⟩
    exact ⟨v, hv, rfl⟩
  · rintro ⟨v, hv, rfl⟩
    exact ⟨v, hv, s, rfl, rfl⟩

lemma dot_mul_join {rs : List Regex} (hrs : rs ≠ []) :
    dot.language * (join dot rs).language = (rs.map fun r => dot.language * r.language).prod := by
  induction rs with
  | nil => exact absurd rfl hrs
  | cons r rs ih =>
    cases rs with
    | nil => rw [List.map_singleton, List.prod_singleton, join]
    | cons r' rs =>
      rw [List.map_cons, List.prod_cons, ← ih (List.cons_ne_nil r' rs), mul_assoc]
      rfl

lemma dot_mul_star :
    dot.language * (seq anySegment dot).star.language =
      (seq dot anySegment).star.language * dot.language := by
  change dot.language * (anySegment.language * dot.language)∗ =
    (dot.language * anySegment.language)∗ * dot.language
  generalize dot.language = d
  generalize anySegment.language = s
  apply le_antisymm
  · apply mul_kstar_le
    · calc d = 1 * d := (one_mul d).symm
        _ ≤ (d * s)∗ * d := mul_le_mul_left one_le_kstar d
    · calc (d * s)∗ * d * (s * d) = (d * s)∗ * (d * s) * d := by simp only [mul_assoc]
        _ ≤ (d * s)∗ * d := mul_le_mul_left kstar_mul_le_kstar d
  · apply kstar_mul_le
    · calc d = d * 1 := (mul_one d).symm
        _ ≤ d * (s * d)∗ := mul_le_mul_right one_le_kstar d
    · calc d * s * (d * (s * d)∗) = d * (s * d * (s * d)∗) := by simp only [mul_assoc]
        _ ≤ d * (s * d)∗ := mul_le_mul_right mul_kstar_le_kstar d

end Regex

lemma fills_append_iff {p glob w : List Char} (hp : '*' ∉ p) :
    Fills (p ++ glob) w ↔ ∃ v, w = p ++ v ∧ Fills glob v := by
  induction p generalizing w with
  | nil => simp
  | cons c p ih =>
    rw [List.mem_cons, not_or] at hp
    constructor
    · intro h
      cases h with
      | char _ h =>
        obtain ⟨v, rfl, hv⟩ := (ih hp.2).mp h
        exact ⟨v, rfl, hv⟩
      | star => exact absurd rfl hp.1
    · rintro ⟨v, rfl, hv⟩
      exact .char (Ne.symm hp.1) ((ih hp.2).mpr ⟨v, rfl, hv⟩)

lemma fills_nil_iff {w : List Char} : Fills [] w ↔ w = [] := by
  constructor
  · intro h
    cases h
    rfl
  · rintro rfl
    exact .nil

lemma fills_star_iff {glob w : List Char} :
    Fills ('*' :: glob) w ↔ ∃ a v, w = a ++ v ∧ Fills glob v := by
  constructor
  · intro h
    cases h with
    | char hc => exact absurd rfl hc
    | star a h => exact ⟨a, _, rfl, h⟩
  · rintro ⟨a, v, rfl, h⟩
    exact .star a h

lemma fills_iff_eq {glob segment : List Char} (hg : '*' ∉ glob) :
    Fills glob segment ↔ segment = glob := by
  rw [← List.append_nil glob, fills_append_iff hg]
  constructor
  · rintro ⟨v, rfl, hv⟩
    rw [fills_nil_iff.mp hv, List.append_nil]
  · rintro rfl
    exact ⟨[], rfl, .nil⟩

lemma covers_map_glob_iff {segments names : List (List Char)} (hs : ∀ s ∈ segments, '*' ∉ s) :
    Covers (segments.map .glob) names ↔ names = segments := by
  induction segments generalizing names with
  | nil =>
    constructor
    · intro h
      cases h
      rfl
    · rintro rfl
      exact .nil
  | cons s segments ih =>
    rw [List.forall_mem_cons] at hs
    constructor
    · intro h
      cases h with
      | glob hf hc => rw [(fills_iff_eq hs.1).mp hf, (ih hs.2).mp hc]
    · rintro rfl
      exact .glob ((fills_iff_eq hs.1).mpr rfl) ((ih hs.2).mpr rfl)

lemma covers_pieces_iff {text : List Char} (hs : ∀ s ∈ pieces '.' text, '*' ∉ s)
    (name : List Char) :
    Covers ((pieces '.' text).map .glob) (pieces '.' name) ↔ name = text := by
  rw [covers_map_glob_iff hs, (Text.pieces_injective '.').eq_iff]

lemma mem_join_literal_iff {p : List Char} {ps : List (List Char)} {w : List Char}
    (hs : ∀ q ∈ p :: ps, '*' ∉ q) (hd : ∀ q ∈ p :: ps, '.' ∉ q) :
    w ∈ (Regex.join Regex.notDot.star ((p :: ps).map .literal)).language ↔
      Fills (p ++ ps.flatMap ('*' :: ·)) w ∧ '.' ∉ w := by
  rw [List.forall_mem_cons] at hs hd
  rw [fills_append_iff hs.1]
  induction ps generalizing p w with
  | nil =>
    rw [List.map_singleton, Regex.join, Regex.mem_literal]
    constructor
    · rintro rfl
      exact ⟨⟨[], by simp, .nil⟩, hd.1⟩
    · rintro ⟨⟨v, rfl, hv⟩, -⟩
      rw [fills_nil_iff.mp hv, List.append_nil]
  | cons q ps ih =>
    rw [List.forall_mem_cons] at hs hd
    have hj := fun {w} => ih (p := q) (w := w) hs.2 hd.2
    change w ∈ (Regex.literal p).language * (Regex.notDot.star.language *
      (Regex.join Regex.notDot.star ((q :: ps).map .literal)).language) ↔ _
    simp only [Language.mem_mul, Regex.mem_literal, Regex.mem_star_notDot, hj,
      ← fills_append_iff hs.2.1, List.flatMap_cons, List.cons_append, fills_star_iff]
    constructor
    · rintro ⟨_, rfl, _, ⟨a, ha, b, ⟨hb, hbd⟩, rfl⟩, rfl⟩
      exact ⟨⟨a ++ b, rfl, a, b, rfl, hb⟩, by simp [hd.1, ha, hbd]⟩
    · rintro ⟨⟨_, rfl, a, b, rfl, hb⟩, hw⟩
      simp only [List.mem_append, not_or] at hw
      exact ⟨p, rfl, a ++ b, ⟨a, hw.2.1, b, ⟨hb, hw.2.2⟩, rfl⟩, rfl⟩

end Pattern

namespace TypePattern

open Pattern

def dotted (items : TypePattern) : Language Char :=
  {w | ∃ segments : List (List Char), w = segments.flatMap ('.' :: ·) ∧
    (∀ s ∈ segments, '.' ∉ s) ∧ Covers items segments}

lemma mem_dotted_iff {items : TypePattern} {d : List Char} :
    '.' :: d ∈ dotted items ↔ Covers items (pieces '.' d) := by
  constructor
  · rintro ⟨segments, hd, hs, hc⟩
    rwa [(Text.flatMap_eq_sep_cons_iff hs).mp hd.symm] at hc
  · intro hc
    have hs : ∀ s ∈ pieces '.' d, '.' ∉ s := fun s hs => Text.notMem_of_mem_pieces hs
    exact ⟨pieces '.' d, ((Text.flatMap_eq_sep_cons_iff hs).mpr rfl).symm, hs, hc⟩

lemma dotted_append (front back : TypePattern) :
    dotted (front ++ back) = dotted front * dotted back := by
  ext w
  rw [Language.mem_mul]
  constructor
  · rintro ⟨segments, rfl, hs, hc⟩
    obtain ⟨s, t, rfl, hf, hb⟩ := covers_append_iff.mp hc
    rw [List.forall_mem_append] at hs
    exact ⟨_, ⟨s, rfl, hs.1, hf⟩, _, ⟨t, rfl, hs.2, hb⟩, List.flatMap_append.symm⟩
  · rintro ⟨_, ⟨s, rfl, hs, hf⟩, _, ⟨t, rfl, ht, hb⟩, rfl⟩
    exact ⟨s ++ t, List.flatMap_append.symm, List.forall_mem_append.mpr ⟨hs, ht⟩,
      covers_append_iff.mpr ⟨s, t, rfl, hf, hb⟩⟩

lemma dotted_nil : dotted [] = 1 := by
  ext w
  rw [Language.mem_one]
  constructor
  · rintro ⟨segments, rfl, -, hc⟩
    cases hc
    rfl
  · rintro rfl
    exact ⟨[], rfl, by simp, .nil⟩

lemma dotted_run : dotted [.run] = (Regex.seq .dot .anySegment).star.language := by
  apply le_antisymm
  · rintro _ ⟨segments, rfl, hs, hc⟩
    cases hc with
    | run ht hn =>
      cases hn
      rw [List.append_nil] at hs ⊢
      refine ⟨_, rfl, ?_⟩
      intro x hx
      obtain ⟨s, hm, rfl⟩ := List.mem_map.mp hx
      exact Regex.mem_dot_mul.mpr ⟨s, Regex.mem_anySegment.mpr ⟨ht s hm, hs s hm⟩, rfl⟩
  · apply kstar_le_of_mul_le_right
    · rintro _ rfl
      have hn : ∀ s ∈ ([] : List (List Char)), s ≠ [] := nofun
      exact ⟨[], rfl, nofun, .run hn .nil⟩
    · rintro w hw
      obtain ⟨a, ha, b, ⟨segments, rfl, hs, hc⟩, rfl⟩ := Language.mem_mul.mp hw
      obtain ⟨s, hm, rfl⟩ := Regex.mem_dot_mul.mp ha
      rw [Regex.mem_anySegment] at hm
      refine ⟨s :: segments, rfl, List.forall_mem_cons.mpr ⟨hm.2, hs⟩, ?_⟩
      cases hc with
      | @run taken segments _ ht hn =>
        have hall : ∀ x ∈ s :: taken, x ≠ [] := List.forall_mem_cons.mpr ⟨hm.1, ht⟩
        exact .run hall hn

lemma mem_segmentRegex_iff {segment w : List Char} (hs : IsSegment segment) :
    w ∈ (segmentRegex segment).language ↔ '.' ∉ w ∧ Covers [itemOf segment] [w] := by
  rw [segmentRegex, itemOf]
  split
  · rw [Regex.mem_anySegment]
    constructor
    · exact fun h => ⟨h.2, .any h.1 .nil⟩
    · rintro ⟨hw, hc⟩
      cases hc with
      | any hn _ => exact ⟨hn, hw⟩
  · obtain ⟨p, ps, hp⟩ := List.exists_cons_of_ne_nil (Text.pieces_ne_nil '*' segment)
    obtain ⟨hseg, hstar⟩ := Text.eq_of_pieces hp
    have hdot : ∀ q ∈ p :: ps, '.' ∉ q := by
      intro q hq hd
      apply hs.notMem_dot
      rw [hseg]
      rcases List.mem_cons.mp hq with rfl | hq
      · exact List.mem_append_left _ hd
      · exact List.mem_append_right _ (List.mem_flatMap.mpr ⟨q, hq, List.mem_cons_of_mem _ hd⟩)
    rw [hp, mem_join_literal_iff hstar hdot, ← hseg]
    constructor
    · exact fun h => ⟨h.2, .glob h.1 .nil⟩
    · rintro ⟨hw, hc⟩
      cases hc with
      | glob hf _ => exact ⟨hf, hw⟩

lemma dotted_itemOf {segment : List Char} (hs : IsSegment segment) :
    dotted [itemOf segment] = Regex.dot.language * (segmentRegex segment).language := by
  ext w
  simp only [Regex.mem_dot_mul, mem_segmentRegex_iff hs]
  constructor
  · rintro ⟨segments, rfl, hd, hc⟩
    obtain ⟨s, rfl⟩ : ∃ s, segments = [s] := by
      rw [itemOf] at hc
      split at hc
      · cases hc with
        | any _ hn => cases hn; exact ⟨_, rfl⟩
      · cases hc with
        | glob _ hn => cases hn; exact ⟨_, rfl⟩
    exact ⟨s, ⟨hd s List.mem_cons_self, hc⟩, by simp⟩
  · rintro ⟨s, ⟨hd, hc⟩, rfl⟩
    exact ⟨[s], by simp, by simpa using hd, hc⟩

/-- Two computations fail for the same reason, or come to results that belong together. -/
def Agree {α β : Type} (related : α → β → Prop) : Except Cause α → Except Cause β → Prop
  | .ok a, .ok b => related a b
  | .error cause, .error cause' => cause = cause'
  | _, _ => False

section

variable {α β : Type} {related : α → β → Prop} {x : Except Cause α} {y : Except Cause β}

lemma Agree.bind {γ δ : Type} {related' : γ → δ → Prop} {f : α → Except Cause γ}
    {g : β → Except Cause δ} (hxy : Agree related x y)
    (hfg : ∀ a b, related a b → Agree related' (f a) (g b)) :
    Agree related' (x >>= f) (y >>= g) := by
  cases x <;> cases y
  · exact hxy
  · exact hxy.elim
  · exact hxy.elim
  · exact hfg _ _ hxy

lemma Agree.mono {related' : α → β → Prop} (hxy : Agree related x y)
    (h : ∀ a b, related a b → related' a b) : Agree related' x y := by
  cases x <;> cases y
  · exact hxy
  · exact hxy.elim
  · exact hxy.elim
  · exact h _ _ hxy

lemma Agree.symm (hxy : Agree related x y) : Agree (fun b a => related a b) y x := by
  cases x <;> cases y
  · exact Eq.symm hxy
  · exact hxy
  · exact hxy
  · exact hxy

lemma Agree.error_iff (hxy : Agree related x y) (cause : Cause) :
    x = .error cause ↔ y = .error cause := by
  cases x <;> cases y
  · rw [Except.error.injEq, Except.error.injEq, show _ = _ from hxy]
  · exact hxy.elim
  · exact hxy.elim
  · simp

lemma Agree.exists_ok {a : α} (hxy : Agree related x y) (hx : x = .ok a) :
    ∃ b, y = .ok b ∧ related a b := by
  subst hx
  cases y
  · exact hxy.elim
  · exact ⟨_, rfl, hxy⟩

end

lemma agree_checkedSegment (segment : List Char) :
    Agree (fun item r => dotted [item] = Regex.dot.language * r.language) (parseSegment segment)
      (checkedSegment segment) := by
  rw [checkedSegment]
  cases h : parseSegment segment with
  | error cause => rfl
  | ok item =>
    obtain ⟨hs, rfl⟩ := parseSegment_eq_ok_iff.mp h
    exact dotted_itemOf hs

lemma agree_mapM_checkedSegment (segments : List (List Char)) :
    Agree (fun items rs => rs.length = segments.length ∧
        dotted items = (rs.map fun r => Regex.dot.language * r.language).prod)
      (segments.mapM parseSegment) (segments.mapM checkedSegment) := by
  induction segments with
  | nil => exact ⟨rfl, dotted_nil⟩
  | cons segment segments ih =>
    rw [List.mapM_cons, List.mapM_cons]
    refine (agree_checkedSegment segment).bind fun item r hr => ih.bind fun items rs hrs => ?_
    refine ⟨congrArg (· + 1) hrs.1, ?_⟩
    rw [List.map_cons, List.prod_cons, ← hr, ← hrs.2, ← dotted_append, List.singleton_append]

lemma agree_dottedRegex (stretch : List Char) :
    Agree (fun items r => dotted items = Regex.dot.language * r.language)
      ((pieces '.' stretch).mapM parseSegment) (dottedRegex stretch) := by
  rw [dottedRegex, ← bind_pure ((pieces '.' stretch).mapM parseSegment)]
  refine (agree_mapM_checkedSegment _).bind fun items rs hrs => ?_
  have hne : rs ≠ [] := by
    intro h
    have hl := hrs.1
    rw [h, List.length_nil, eq_comm, List.length_eq_zero_iff] at hl
    exact Text.pieces_ne_nil '.' stretch hl
  exact hrs.2.trans (Regex.dot_mul_join hne).symm

lemma agree_stretchRegex {stretch before : List Char} (hs : stretch ≠ []) (hb : before ≠ [])
    (rest : List (List Char)) :
    Agree (fun front r => dotted (.run :: front) = r.language) (stretchItems false stretch rest)
      (stretchRegex (some before) stretch rest.isEmpty) := by
  have hne : stretch.isEmpty = false := by simpa using hs
  have hbe : (some before).any (!·.isEmpty) = true := by simpa using hb
  rw [stretchItems, stretchRegex, hne, hbe, ← bind_pure ((pieces '.' stretch).mapM parseSegment)]
  refine (agree_dottedRegex stretch).bind fun front r hr => ?_
  change dotted ([.run] ++ front) =
    (Regex.star (.seq .dot .anySegment)).language * (Regex.dot.language * r.language)
  rw [dotted_append, hr, dotted_run]

lemma agree_regexFrom {before : List Char} (hb : before ≠ []) (stretches : List (List Char)) :
    Agree (fun patterns r => dotted (patterns.flatMap (.run :: ·)) = r.language)
      (parseStretches false stretches) (regexFrom (some before) stretches) := by
  induction stretches generalizing before with
  | nil => exact dotted_nil
  | cons stretch rest ih =>
    by_cases hs : stretch = []
    · subst hs
      cases rest with
      | nil =>
        change dotted [.run] = (Regex.seq .dot .anySegment).star.language * 1
        rw [mul_one, dotted_run]
      | cons next rest => rfl
    · rw [parseStretches_cons, regexFrom]
      refine (agree_stretchRegex hs hb rest).bind fun front r hr =>
        (ih hs).bind fun fronts rs hrs => ?_
      change dotted ((.run :: front) ++ fronts.flatMap (.run :: ·)) = r.language * rs.language
      rw [dotted_append, hr, hrs]

lemma agree_regexFrom_start {before : Option (List Char)} (hb : before.any (!·.isEmpty) = false)
    {stretch : List Char} (hs : stretch ≠ []) (first : Bool) (rest : List (List Char)) :
    Agree (fun patterns r =>
        dotted (List.intercalate [.run] patterns) = Regex.dot.language * r.language ∧ patterns ≠ [])
      (parseStretches first (stretch :: rest)) (regexFrom before (stretch :: rest)) := by
  have hne : stretch.isEmpty = false := by simpa using hs
  rw [parseStretches_cons, regexFrom, stretchItems, stretchRegex, hne, hb]
  refine (agree_dottedRegex stretch).bind fun front r hr =>
    (agree_regexFrom hs rest).bind fun fronts rs hrs => ⟨?_, List.cons_ne_nil _ _⟩
  change _ = Regex.dot.language * (r.language * rs.language)
  rw [intercalate_singleton_cons, dotted_append, hr, hrs, mul_assoc]

lemma agree_regexFrom_none {stretch : List Char} {rest : List (List Char)}
    (hn : stretch ≠ [] ∨ rest ≠ [] ∧ rest ≠ [[]]) :
    Agree (fun patterns r =>
        dotted (List.intercalate [.run] patterns) = Regex.dot.language * r.language)
      (parseStretches true (stretch :: rest)) (regexFrom none (stretch :: rest)) := by
  by_cases hs : stretch = []
  · subst hs
    obtain ⟨next, rest, rfl⟩ := List.exists_cons_of_ne_nil (hn.resolve_left (by simp)).1
    by_cases hx : next = []
    · subst hx
      obtain ⟨last, rest, rfl⟩ : ∃ last others, rest = last :: others := by
        apply List.exists_cons_of_ne_nil
        rintro rfl
        exact (hn.resolve_left (by simp)).2 rfl
      rfl
    · rw [parseStretches_cons, regexFrom]
      refine (agree_regexFrom_start rfl hx false rest).bind fun fronts rs hrs => ?_
      obtain ⟨front, fronts, rfl⟩ := List.exists_cons_of_ne_nil hrs.2
      have hd := hrs.1
      rw [intercalate_singleton_cons] at hd
      change dotted (List.intercalate [.run] ([] :: front :: fronts)) = Regex.dot.language *
        ((Regex.star (.seq .anySegment .dot)).language * rs.language)
      -- The segments at the start have their dots behind them, and here a dot comes first.
      rw [intercalate_singleton_cons, List.nil_append, List.flatMap_cons, List.cons_append,
        ← List.singleton_append, dotted_append, hd, dotted_run, ← mul_assoc, ← Regex.dot_mul_star,
        mul_assoc]
  · exact (agree_regexFrom_start rfl hs true rest).mono fun _ _ h => h.1

lemma mem_language_iff {items : TypePattern} {r : Regex} (d : List Char)
    (hr : dotted items = Regex.dot.language * r.language) :
    d ∈ r.language ↔ Covers items (pieces '.' d) := by
  rw [← mem_dotted_iff, hr, Regex.mem_dot_mul]
  simp

lemma mem_anyRun_iff (d : List Char) :
    d ∈ (Regex.seq .anySegment (.star (.seq .dot .anySegment))).language ↔
      Covers [.run] (pieces '.' d) := by
  rw [← mem_dotted_iff, dotted_run]
  change d ∈ Regex.anySegment.language * (Regex.dot.language * Regex.anySegment.language)∗ ↔
    '.' :: d ∈ (Regex.dot.language * Regex.anySegment.language)∗
  have hd : '.' :: d ∉ (1 : Language Char) := by simp
  have hk : '.' :: d ∈ (Regex.dot.language * Regex.anySegment.language)∗ ↔ '.' :: d ∈
      Regex.dot.language * (Regex.anySegment.language *
        (Regex.dot.language * Regex.anySegment.language)∗) := by
    nth_rewrite 1 [← one_add_mul_kstar]
    rw [Language.mem_add, or_iff_right hd, mul_assoc]
  rw [hk, Regex.mem_dot_mul]
  simp

lemma agree_regex (text : List Char) :
    Agree (fun items r => ∀ d, d ∈ r.language ↔ Covers items (pieces '.' d))
      (TypePattern.parse text) (regex text) := by
  rw [TypePattern.parse, regex]
  split
  · rfl
  · rename_i hne
    split
    · rename_i hd
      subst hd
      exact mem_anyRun_iff
    · rename_i hd
      obtain ⟨stretch, rest, hp⟩ := List.exists_cons_of_ne_nil (Text.dotPairPieces_ne_nil text)
      obtain rfl := Text.eq_of_dotPairPieces hp
      have hn : stretch ≠ [] ∨ rest ≠ [] ∧ rest ≠ [[]] := by
        by_contra h
        push Not at h
        obtain ⟨rfl, h⟩ := h
        by_cases hr : rest = []
        · simp [hr] at hne
        · simp [h hr] at hd
      rw [hp, ← bind_pure (regexFrom none _)]
      exact (agree_regexFrom_none hn).bind fun patterns r hr d => mem_language_iff d hr

theorem parse_covers_segments (text : List Char) :
    (∀ cause, TypePattern.parse text = .error cause ↔ regex text = .error cause) ∧
    ∀ items, TypePattern.parse text = .ok items →
      Spells items text ∧ ∃ r, regex text = .ok r ∧ ∀ name : List Char,
        (name ∈ r.language ↔ Covers items (pieces '.' name)) ∧
        (items.matchesText name = true ↔ Covers items (pieces '.' name)) := by
  refine ⟨(agree_regex text).error_iff, ?_⟩
  intro items hp
  obtain ⟨r, hr, hm⟩ := (agree_regex text).exists_ok hp
  exact ⟨spells_of_parse hp, r, hr, fun name => ⟨hm name, items.matchesText_iff name⟩⟩

theorem parse_covers_segments_http :
    let text := "org..Http*Code".toList
    let items : TypePattern := [.glob "org".toList, .run, .glob "Http*Code".toList]
    TypePattern.parse text = .ok items ∧ Spells items text ∧
      items.matchesText "org.web.http.HttpStatusCode".toList = true ∧
      ∃ r, regex text = .ok r ∧ "org.web.http.HttpStatusCode".toList ∈ r.language := by
  intro text items
  have hp : TypePattern.parse text = .ok items := rfl
  obtain ⟨hs, r, hr, hm⟩ := (parse_covers_segments text).2 items hp
  have ht : items.matchesText "org.web.http.HttpStatusCode".toList = true := by decide +kernel
  have hn := hm "org.web.http.HttpStatusCode".toList
  exact ⟨hp, hs, ht, r, hr, hn.1.mpr (hn.2.mp ht)⟩

end TypePattern

end GuardedCalls
