import GuardedCalls.Java.Source
import Mathlib.Algebra.Group.Nat.Even
import Mathlib.Data.List.DropRight
import Mathlib.Tactic.Lemma

/-! Text in quotes. Reading it takes back exactly what escaping writes, and the closing quote is the
first one behind an even number of backslashes. -/

namespace GuardedCalls

def IsQuoteMark (mark : Char) : Prop :=
  mark = '"' ∨ mark = '\''

def controls : List Char :=
  ['\n', '\r', '\t']

def unescapeOf? (mark c : Char) : Option Char :=
  if c = '\\' ∨ c = mark then some c
  else if c = 'n' then some '\n'
  else if c = 'r' then some '\r'
  else if c = 't' then some '\t'
  else none

def readQuoted (mark : Char) : List Char → Option (List Char × List Char)
  | [] => none
  | '\\' :: c :: t =>
    (unescapeOf? mark c).bind fun d => (readQuoted mark t).map fun (s, r) => (d :: s, r)
  | c :: t =>
    if c = mark then some ([], t)
    else if c ∈ controls then none
    else (readQuoted mark t).map fun (s, r) => (c :: s, r)

variable {mark c d : Char} {s t r : List Char}

lemma escapeIn_of_unescapeOf? (hm : IsQuoteMark mark) (h : unescapeOf? mark d = some c) :
    escapeIn mark c = ['\\', d] := by
  rw [unescapeOf?] at h
  split_ifs at h with hd hn hr ht
  · obtain rfl := Option.some.inj h
    rcases hd with rfl | rfl
    · rfl
    · rcases hm with rfl | rfl <;> rfl
  all_goals
    subst d
    obtain rfl := Option.some.inj h
    rfl

lemma escapeIn_of_plain (hb : c ≠ '\\') (hq : c ≠ mark) (hc : c ∉ controls) :
    escapeIn mark c = [c] := by
  simp only [controls, List.mem_cons, List.not_mem_nil, or_false, not_or] at hc
  simp [escapeIn, hb, hq, hc]

lemma escapeIn_cases (hm : IsQuoteMark mark) (c : Char) :
    (∃ d, escapeIn mark c = ['\\', d] ∧ unescapeOf? mark d = some c) ∨
      escapeIn mark c = [c] ∧ c ≠ '\\' ∧ c ≠ mark ∧ c ∉ controls := by
  by_cases hb : c = '\\' ∨ c = mark
  · have hu : unescapeOf? mark c = some c := if_pos hb
    exact .inl ⟨c, escapeIn_of_unescapeOf? hm hu, hu⟩
  rw [not_or] at hb
  by_cases hc : c ∈ controls
  · have hu : ∃ d, unescapeOf? mark d = some c := by
      simp only [controls, List.mem_cons, List.not_mem_nil, or_false] at hc
      rcases hc with rfl | rfl | rfl
      · exact ⟨'n', by rcases hm with rfl | rfl <;> rfl⟩
      · exact ⟨'r', by rcases hm with rfl | rfl <;> rfl⟩
      · exact ⟨'t', by rcases hm with rfl | rfl <;> rfl⟩
    obtain ⟨d, hd⟩ := hu
    exact .inl ⟨d, escapeIn_of_unescapeOf? hm hd, hd⟩
  · exact .inr ⟨escapeIn_of_plain hb.1 hb.2 hc, hb.1, hb.2, hc⟩

lemma notMem_controls_of_unescapeOf? (hm : IsQuoteMark mark) (h : unescapeOf? mark d = some c) :
    d ∉ controls := by
  intro hd
  simp only [controls, List.mem_cons, List.not_mem_nil, or_false] at hd
  rcases hm with rfl | rfl <;> rcases hd with rfl | rfl | rfl <;> exact nomatch h

lemma notMem_controls_of_mem_escape (hm : IsQuoteMark mark) (hc : c ∈ escape mark s) :
    c ∉ controls := by
  obtain ⟨x, -, hx⟩ := List.mem_flatMap.mp hc
  rcases escapeIn_cases hm x with ⟨d, he, hd⟩ | ⟨he, -, -, hn⟩
  · rw [he, List.mem_cons, List.mem_singleton] at hx
    rcases hx with rfl | rfl
    · decide
    · exact notMem_controls_of_unescapeOf? hm hd
  · rw [he, List.mem_singleton] at hx
    exact hx ▸ hn

lemma escape_cons (mark c : Char) (s : List Char) :
    escape mark (c :: s) = escapeIn mark c ++ escape mark s :=
  List.flatMap_cons

lemma readQuoted_cons (hb : c ≠ '\\') : readQuoted mark (c :: t) =
    if c = mark then some ([], t)
    else if c ∈ controls then none
    else (readQuoted mark t).map fun (s, r) => (c :: s, r) := by
  rw [readQuoted]
  rintro d t' rfl
  exact absurd rfl hb

lemma readQuoted_escapeIn_append (hm : IsQuoteMark mark) (c : Char) (t : List Char) :
    readQuoted mark (escapeIn mark c ++ t) =
      (readQuoted mark t).map fun (s, r) => (c :: s, r) := by
  rcases escapeIn_cases hm c with ⟨d, he, hd⟩ | ⟨he, hb, hq, hn⟩
  · rw [he]
    change (unescapeOf? mark d).bind _ = _
    rw [hd]
    rfl
  · rw [he]
    change readQuoted mark (c :: t) = _
    rw [readQuoted_cons hb, if_neg hq, if_neg hn]

lemma readQuoted_escape (hm : IsQuoteMark mark) (s r : List Char) :
    readQuoted mark (escape mark s ++ mark :: r) = some (s, r) := by
  induction s with
  | nil =>
    have hb : mark ≠ '\\' := by rcases hm with rfl | rfl <;> decide
    change readQuoted mark (mark :: r) = _
    rw [readQuoted_cons hb, if_pos rfl]
  | cons c s ih =>
    rw [escape_cons, List.append_assoc, readQuoted_escapeIn_append hm, ih]
    rfl

lemma eq_of_readQuoted (hm : IsQuoteMark mark) (h : readQuoted mark t = some (s, r)) :
    t = escape mark s ++ mark :: r := by
  fun_induction readQuoted mark t generalizing s with
  | case1 => exact nomatch h
  | case2 d t ih =>
    obtain ⟨c, hc, h⟩ := Option.bind_eq_some_iff.mp h
    obtain ⟨⟨s, r⟩, hs, h⟩ := Option.map_eq_some_iff.mp h
    obtain ⟨rfl, rfl⟩ := Prod.mk.inj h
    rw [escape_cons, escapeIn_of_unescapeOf? hm hc, List.append_assoc, ← ih hs]
    rfl
  | case3 t _ =>
    obtain ⟨rfl, rfl⟩ := Prod.mk.inj (Option.some.inj h)
    rfl
  | case4 => exact nomatch h
  | case5 c t hb hq hn ih =>
    obtain ⟨⟨s, r⟩, hs, h⟩ := Option.map_eq_some_iff.mp h
    obtain ⟨rfl, rfl⟩ := Prod.mk.inj h
    -- A backslash comes here only as the last character, with no mark left to close the text.
    have hback : c ≠ '\\' := by
      rintro rfl
      cases t with
      | nil => exact nomatch hs
      | cons d t => exact hb d t rfl rfl
    rw [escape_cons, escapeIn_of_plain hback hq hn, List.append_assoc, ← ih hs]
    rfl

lemma readQuoted_eq_some_iff (hm : IsQuoteMark mark) :
    readQuoted mark t = some (s, r) ↔ t = escape mark s ++ mark :: r := by
  constructor
  · exact eq_of_readQuoted hm
  · rintro rfl
    exact readQuoted_escape hm s r

lemma escape_append_inj (hm : IsQuoteMark mark) {s t r r' : List Char}
    (h : escape mark s ++ mark :: r = escape mark t ++ mark :: r') : s = t ∧ r = r' := by
  have hread := readQuoted_escape hm s r
  rw [h, readQuoted_escape hm t r'] at hread
  obtain ⟨rfl, rfl⟩ := Prod.mk.inj (Option.some.inj hread)
  exact ⟨rfl, rfl⟩

/-- The backslashes at the end are even in number, so none of them escapes what comes next. -/
def Unescaped (before : List Char) : Prop :=
  Even (before.rtakeWhile (· = '\\')).length

lemma unescaped_concat_backslash : Unescaped (s ++ ['\\']) ↔ ¬ Unescaped s := by
  rw [Unescaped, List.rtakeWhile_concat_pos _ _ _ (by simp), List.length_append,
    List.length_singleton, Nat.even_add_one, Unescaped]

lemma unescaped_concat (hc : c ≠ '\\') : Unescaped (s ++ [c]) := by
  rw [Unescaped, List.rtakeWhile_concat_neg _ _ _ (by simpa using hc)]
  exact Even.zero

lemma unescaped_append_escapeIn (hm : IsQuoteMark mark) (hs : Unescaped s) (c : Char) :
    Unescaped (s ++ escapeIn mark c) := by
  rcases escapeIn_cases hm c with ⟨d, he, -⟩ | ⟨he, hb, -, -⟩
  · rw [he, List.append_cons]
    by_cases hd : d = '\\'
    · subst hd
      rw [unescaped_concat_backslash, unescaped_concat_backslash, not_not]
      exact hs
    · exact unescaped_concat hd
  · rw [he]
    exact unescaped_concat hb

lemma escape_concat (mark : Char) (s : List Char) (c : Char) :
    escape mark (s ++ [c]) = escape mark s ++ escapeIn mark c := by
  rw [escape, List.flatMap_append, List.flatMap_singleton, escape]

lemma unescaped_escape (hm : IsQuoteMark mark) (s : List Char) : Unescaped (escape mark s) := by
  induction s using List.reverseRecOn with
  | nil => exact Even.zero
  | append_singleton s c ih =>
    rw [escape_concat]
    exact unescaped_append_escapeIn hm ih c

variable {before after inside inside' rest rest' : List Char}

lemma eq_backslash_of_escapeIn (hm : IsQuoteMark mark)
    (h : escapeIn mark c = before ++ mark :: after) : before = ['\\'] := by
  have hb : mark ≠ '\\' := by rcases hm with rfl | rfl <;> decide
  rcases escapeIn_cases hm c with ⟨d, he, -⟩ | ⟨he, -, hq, -⟩
  · rw [he] at h
    cases before with
    | nil => exact absurd (List.cons.inj h).1.symm hb
    | cons b before =>
      obtain ⟨rfl, h⟩ := List.cons.inj h
      cases before with
      | nil => rfl
      | cons b before => simp at h
  · rw [he] at h
    cases before with
    | nil => exact absurd (List.cons.inj h).1 hq
    | cons b before => simp at h

lemma not_unescaped_of_escape (hm : IsQuoteMark mark)
    (h : escape mark s = before ++ mark :: after) : ¬ Unescaped before := by
  -- From the back, so that what stands before the last character is a whole escaped text.
  induction s using List.reverseRecOn generalizing before after with
  | nil => simp [escape] at h
  | append_singleton s c ih =>
    rw [escape_concat, List.append_eq_append_iff] at h
    rcases h with ⟨x, rfl, hx⟩ | ⟨x, hx, h⟩
    · rw [eq_backslash_of_escapeIn hm hx, unescaped_concat_backslash, not_not]
      exact unescaped_escape hm s
    · cases x with
      | nil =>
        have hn : [] = ['\\'] := eq_backslash_of_escapeIn hm h.symm
        exact nomatch hn
      | cons m x =>
        obtain ⟨rfl, -⟩ := List.cons.inj h
        exact ih hx

def ClosesBehind (mark : Char) (inside : List Char) : Prop :=
  Unescaped inside ∧ ∀ before after, inside = before ++ mark :: after → ¬ Unescaped before

lemma closesBehind_escape (hm : IsQuoteMark mark) (s : List Char) :
    ClosesBehind mark (escape mark s) :=
  ⟨unescaped_escape hm s, fun _ _ h => not_unescaped_of_escape hm h⟩

lemma eq_nil_of_closesBehind {x : List Char} (hs : Unescaped s)
    (hc : ClosesBehind mark (s ++ x)) (h : mark :: rest = x ++ mark :: rest') : x = [] := by
  cases x with
  | nil => rfl
  | cons m x =>
    obtain ⟨rfl, -⟩ := List.cons.inj h
    exact absurd hs (hc.2 s x rfl)

lemma ClosesBehind.unique (hi : ClosesBehind mark inside) (hi' : ClosesBehind mark inside')
    (h : inside ++ mark :: rest = inside' ++ mark :: rest') : inside = inside' ∧ rest = rest' := by
  rcases List.append_eq_append_iff.mp h with ⟨x, rfl, hr⟩ | ⟨x, rfl, hr⟩
  · obtain rfl := eq_nil_of_closesBehind hi.1 hi' hr
    exact ⟨(List.append_nil inside).symm, (List.cons.inj hr).2⟩
  · obtain rfl := eq_nil_of_closesBehind hi'.1 hi hr
    exact ⟨List.append_nil inside', (List.cons.inj hr).2.symm⟩

/-- A quoted text ends itself. No newline, carriage return or tab is left in it, the text and what
comes behind its closing mark can be told, and of all marks behind the opening one the closing mark
is the first that no backslash escapes. -/
theorem escape_self_delimiting (hm : IsQuoteMark mark) :
    (∀ s, '\n' ∉ escape mark s ∧ '\r' ∉ escape mark s ∧ '\t' ∉ escape mark s) ∧
    (∀ s s' r r', escape mark s ++ mark :: r = escape mark s' ++ mark :: r' → s = s' ∧ r = r') ∧
    Function.Injective (escape mark) ∧
    (∀ t s r, readQuoted mark t = some (s, r) ↔ t = escape mark s ++ mark :: r) ∧
    ∀ s r inside rest, (quote mark s).toList ++ r = mark :: (inside ++ mark :: rest) ∧
      ClosesBehind mark inside ↔ inside = escape mark s ∧ rest = r := by
  refine ⟨fun s => ?_, fun s s' r r' => escape_append_inj hm, fun s s' h => ?_,
    fun t s r => readQuoted_eq_some_iff hm, fun s r inside rest => ?_⟩
  · have hc : ∀ c ∈ controls, c ∉ escape mark s :=
      fun c hc he => notMem_controls_of_mem_escape hm he hc
    simpa [controls] using hc
  · exact (escape_append_inj hm (congrArg (· ++ [mark]) h)).1
  · have hq : (quote mark s).toList ++ r = mark :: (escape mark s ++ mark :: r) := by
      simp [quote]
    rw [hq, List.cons.injEq]
    constructor
    · rintro ⟨⟨-, h⟩, hi⟩
      obtain ⟨rfl, rfl⟩ := (closesBehind_escape hm s).unique hi h
      exact ⟨rfl, rfl⟩
    · rintro ⟨rfl, rfl⟩
      exact ⟨⟨rfl, rfl⟩, closesBehind_escape hm s⟩

theorem escape_self_delimiting_backslashes :
    let s := ['\\', '"', '\\']
    let inside := ['\\', '\\', '\\', '"', '\\', '\\']
    IsQuoteMark '"' ∧ (quote '"' s).toList = '"' :: (inside ++ ['"']) ∧
      ClosesBehind '"' inside ∧ ¬ ClosesBehind '"' ['\\', '\\', '\\'] ∧
      readQuoted '"' (inside ++ ['"', '\\', '"']) = some (s, ['\\', '"']) := by
  intro s inside
  have hm : IsQuoteMark '"' := .inl rfl
  have hq : (quote '"' s).toList = '"' :: (inside ++ ['"']) := by decide
  obtain ⟨-, -, -, hread, hclose⟩ := escape_self_delimiting hm
  refine ⟨hm, hq, ((hclose s [] inside []).mpr ⟨by decide, rfl⟩).2, fun hc => ?_,
    (hread _ s _).mpr (by decide)⟩
  have hsplit : (quote '"' s).toList ++ [] =
      '"' :: (['\\', '\\', '\\'] ++ '"' :: ['\\', '\\', '"']) := by decide
  exact absurd ((hclose s [] _ _).mp ⟨hsplit, hc⟩).1 (by decide)

end GuardedCalls
