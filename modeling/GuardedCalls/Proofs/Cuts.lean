import GuardedCalls.Text.Blank
import GuardedCalls.Text.Pieces
import Mathlib.Data.List.TakeWhile
import Mathlib.Tactic.Lemma

/-! Where texts are cut: the pieces between separators put the text together again, and a cut at the
first or the last character of a kind leaves none of that kind on its one side. -/

namespace GuardedCalls.Text

variable {sep : Char} {s t p : List Char} {ps : List (List Char)}

lemma pieces_ne_nil (sep : Char) (s : List Char) : pieces sep s ≠ [] := by
  cases s with
  | nil => simp [pieces]
  | cons c s =>
    rw [pieces]
    split
    · simp
    · split <;> simp

lemma pieces_sep_cons (sep : Char) (s : List Char) :
    pieces sep (sep :: s) = [] :: pieces sep s := by
  rw [pieces, if_pos rfl]

lemma pieces_append (hp : sep ∉ p) {x : List Char} {xs : List (List Char)}
    (ht : pieces sep t = x :: xs) : pieces sep (p ++ t) = (p ++ x) :: xs := by
  induction p with
  | nil => exact ht
  | cons c p ih =>
    rw [List.mem_cons, not_or] at hp
    rw [List.cons_append, pieces, if_neg (Ne.symm hp.1), ih hp.2, List.cons_append]

lemma pieces_of_notMem (hp : sep ∉ p) : pieces sep p = [p] := by
  have h := pieces_append (t := []) hp rfl
  rwa [List.append_nil] at h

lemma pieces_append_flatMap (hp : sep ∉ p) (hps : ∀ q ∈ ps, sep ∉ q) :
    pieces sep (p ++ ps.flatMap (sep :: ·)) = p :: ps := by
  induction ps generalizing p with
  | nil => rw [List.flatMap_nil, List.append_nil, pieces_of_notMem hp]
  | cons q ps ih =>
    have hq := ih (hps q List.mem_cons_self) fun x hx => hps x (List.mem_cons_of_mem q hx)
    have ht : pieces sep ((q :: ps).flatMap (sep :: ·)) = [] :: q :: ps := by
      rw [List.flatMap_cons, List.cons_append, pieces_sep_cons, hq]
    rw [pieces_append hp ht, List.append_nil]

lemma eq_of_pieces (hs : pieces sep s = p :: ps) :
    s = p ++ ps.flatMap (sep :: ·) ∧ ∀ q ∈ p :: ps, sep ∉ q := by
  induction s generalizing p ps with
  | nil =>
    obtain ⟨rfl, rfl⟩ := List.cons.inj hs
    simp
  | cons c s ih =>
    by_cases hc : c = sep
    · subst hc
      rw [pieces_sep_cons] at hs
      obtain ⟨rfl, rfl⟩ := List.cons.inj hs
      obtain ⟨q, qs, hq⟩ := List.exists_cons_of_ne_nil (pieces_ne_nil c s)
      obtain ⟨h, hn⟩ := ih hq
      rw [hq]
      exact ⟨by simp [h], by simpa using hn⟩
    · obtain ⟨q, qs, hq⟩ := List.exists_cons_of_ne_nil (pieces_ne_nil sep s)
      obtain ⟨h, hn⟩ := ih hq
      rw [pieces, if_neg hc, hq] at hs
      obtain ⟨rfl, rfl⟩ := List.cons.inj hs
      refine ⟨by rw [h, List.cons_append], ?_⟩
      rw [List.forall_mem_cons] at hn ⊢
      rw [List.mem_cons, not_or]
      exact ⟨⟨Ne.symm hc, hn.1⟩, hn.2⟩

lemma pieces_injective (sep : Char) : Function.Injective (pieces sep) := by
  intro s t h
  obtain ⟨p, ps, hp⟩ := List.exists_cons_of_ne_nil (pieces_ne_nil sep s)
  exact (eq_of_pieces hp).1.trans (eq_of_pieces (h.symm.trans hp)).1.symm

lemma pieces_eq_cons_iff :
    pieces sep s = p :: ps ↔ s = p ++ ps.flatMap (sep :: ·) ∧ ∀ q ∈ p :: ps, sep ∉ q := by
  refine ⟨eq_of_pieces, ?_⟩
  rintro ⟨rfl, h⟩
  rw [List.forall_mem_cons] at h
  exact pieces_append_flatMap h.1 h.2

lemma flatMap_eq_sep_cons_iff (hps : ∀ q ∈ ps, sep ∉ q) :
    ps.flatMap (sep :: ·) = sep :: s ↔ ps = pieces sep s := by
  cases ps with
  | nil => simp [Ne.symm (pieces_ne_nil sep s)]
  | cons p ps =>
    rw [List.flatMap_cons, List.cons_append, List.cons.injEq, eq_self, true_and,
      eq_comm (a := p :: ps), pieces_eq_cons_iff]
    exact ⟨fun h => ⟨h.symm, hps⟩, fun h => h.1.symm⟩

lemma notMem_of_mem_pieces (hp : p ∈ pieces sep s) : sep ∉ p := by
  obtain ⟨q, qs, hq⟩ := List.exists_cons_of_ne_nil (pieces_ne_nil sep s)
  exact (eq_of_pieces hq).2 p (hq ▸ hp)

lemma dotPairPieces_ne_nil (s : List Char) : dotPairPieces s ≠ [] := by
  fun_cases dotPairPieces s <;> simp_all

lemma dotPairPieces_append (hp : '.' ∉ p) {x : List Char} {xs : List (List Char)}
    (ht : dotPairPieces t = x :: xs) : dotPairPieces (p ++ t) = (p ++ x) :: xs := by
  induction p with
  | nil => exact ht
  | cons c p ih =>
    rw [List.mem_cons, not_or] at hp
    rw [List.cons_append, dotPairPieces, ih hp.2, List.cons_append]
    rintro _ rfl
    exact absurd rfl hp.1

lemma dotPairPieces_dot_cons {c : Char} (hc : c ≠ '.') {x : List Char} {xs : List (List Char)}
    (ht : dotPairPieces (c :: s) = x :: xs) : dotPairPieces ('.' :: c :: s) = ('.' :: x) :: xs := by
  rw [dotPairPieces, ht]
  rintro r - h
  exact hc (List.cons.inj h).1

lemma eq_of_dotPairPieces (hs : dotPairPieces s = p :: ps) :
    s = p ++ ps.flatMap ('.' :: '.' :: ·) := by
  fun_induction dotPairPieces s generalizing p ps with
  | case1 =>
    obtain ⟨rfl, rfl⟩ := List.cons.inj hs
    rfl
  | case2 s ih =>
    obtain ⟨rfl, rfl⟩ := List.cons.inj hs
    obtain ⟨q, qs, hq⟩ := List.exists_cons_of_ne_nil (dotPairPieces_ne_nil s)
    rw [hq, List.flatMap_cons]
    simp [ih hq]
  | case3 c s _ hn => exact absurd hn (dotPairPieces_ne_nil s)
  | case4 c s _ q qs hq ih =>
    obtain ⟨rfl, rfl⟩ := List.cons.inj hs
    rw [ih hq, List.cons_append]

variable {kind : Char → Bool} {before after : List Char}

lemma cutFirst_eq_none_iff : cutFirst kind s = none ↔ ∀ c ∈ s, kind c = false := by
  induction s with
  | nil => simp [cutFirst]
  | cons c s ih =>
    rw [cutFirst, List.forall_mem_cons, ← ih]
    cases hc : kind c <;> simp

lemma cutFirst_eq_some_iff : cutFirst kind s = some (before, after) ↔
    ∃ c, kind c = true ∧ s = before ++ c :: after ∧ ∀ d ∈ before, kind d = false := by
  induction s generalizing before with
  | nil => simp [cutFirst]
  | cons c s ih =>
    rw [cutFirst]
    by_cases hc : kind c = true
    · rw [if_pos hc, Option.some.injEq, Prod.mk.injEq]
      constructor
      · rintro ⟨rfl, rfl⟩
        exact ⟨c, hc, rfl, by simp⟩
      · rintro ⟨d, hd, hs, hb⟩
        cases before with
        | nil => exact ⟨rfl, (List.cons.inj hs).2⟩
        | cons b before =>
          obtain ⟨rfl, -⟩ := List.cons.inj hs
          simp [hc] at hb
    · rw [if_neg hc, Option.map_eq_some_iff]
      constructor
      · rintro ⟨⟨b, a⟩, hba, h⟩
        obtain ⟨rfl, rfl⟩ := Prod.mk.inj h
        obtain ⟨d, hd, rfl, hb⟩ := ih.mp hba
        exact ⟨d, hd, rfl, by simpa [hc] using hb⟩
      · rintro ⟨d, hd, hs, hb⟩
        cases before with
        | nil =>
          obtain ⟨rfl, -⟩ := List.cons.inj hs
          exact absurd hd hc
        | cons b before =>
          obtain ⟨rfl, rfl⟩ := List.cons.inj hs
          exact ⟨(before, after), ih.mpr ⟨d, hd, rfl, fun x hx => hb x (List.mem_cons_of_mem _ hx)⟩,
            rfl⟩

lemma cutLast_eq_none_iff : cutLast kind s = none ↔ ∀ c ∈ s, kind c = false := by
  induction s with
  | nil => simp [cutLast]
  | cons c s ih =>
    rw [cutLast, List.forall_mem_cons, ← ih]
    cases cutLast kind s <;> simp

lemma cutLast_eq_some_iff : cutLast kind s = some (before, after) ↔
    ∃ c, kind c = true ∧ s = before ++ c :: after ∧ ∀ d ∈ after, kind d = false := by
  induction s generalizing before after with
  | nil => simp [cutLast]
  | cons c s ih =>
    rw [cutLast]
    cases hs : cutLast kind s with
    | none =>
      have hn := cutLast_eq_none_iff.mp hs
      constructor
      · intro h
        by_cases hc : kind c = true
        · obtain ⟨rfl, rfl⟩ := Prod.mk.inj (Option.some.inj ((if_pos hc).symm.trans h))
          exact ⟨c, hc, rfl, hn⟩
        · exact absurd ((if_neg hc).symm.trans h) (by simp)
      · rintro ⟨d, hd, h, ha⟩
        cases before with
        | nil =>
          obtain ⟨rfl, rfl⟩ := List.cons.inj h
          exact if_pos hd
        | cons b before =>
          obtain ⟨-, rfl⟩ := List.cons.inj h
          simp [hn d (by simp)] at hd
    | some cut =>
      obtain ⟨b, a⟩ := cut
      obtain ⟨e, he, rfl, hea⟩ := ih.mp hs
      constructor
      · intro h
        obtain ⟨rfl, rfl⟩ := Prod.mk.inj (Option.some.inj h)
        exact ⟨e, he, rfl, hea⟩
      · rintro ⟨d, hd, h, ha⟩
        cases before with
        | nil =>
          obtain ⟨-, rfl⟩ := List.cons.inj h
          simp [ha e (by simp)] at he
        | cons b' before =>
          obtain ⟨rfl, hb⟩ := List.cons.inj h
          have hb := ih.mpr ⟨d, hd, hb, ha⟩
          obtain ⟨rfl, rfl⟩ := Prod.mk.inj (Option.some.inj (hs.symm.trans hb))
          rfl

lemma dropSuffix?_eq_some_iff {suffix : List Char} :
    dropSuffix? suffix s = some t ↔ s = t ++ suffix := by
  rw [dropSuffix?]
  constructor
  · intro h
    split at h
    · rename_i hs
      obtain ⟨u, rfl⟩ := List.isSuffixOf_iff_suffix.mp hs
      have ht : t = u := by simpa using (Option.some.inj h).symm
      rw [ht]
    · simp at h
  · rintro rfl
    have hs : suffix.isSuffixOf (t ++ suffix) = true :=
      List.isSuffixOf_iff_suffix.mpr (List.suffix_append t suffix)
    rw [if_pos hs]
    simp

lemma trimEnd_append (hs : ∀ c ∈ s.getLast?, isBlank c = false) (ht : ∀ c ∈ t, isBlank c = true) :
    trimEnd (s ++ t) = s := by
  have hr : s.reverse.dropWhile isBlank = s.reverse := by
    cases h : s.reverse with
    | nil => rfl
    | cons c r =>
      have hl : s.getLast? = some c := by rw [← List.head?_reverse, h, List.head?_cons]
      rw [List.dropWhile_cons_of_neg (by simp [hs c hl])]
  have hb : (t.reverse ++ s.reverse).dropWhile isBlank = s.reverse.dropWhile isBlank :=
    List.dropWhile_append_of_pos fun c hc => ht c (List.mem_reverse.mp hc)
  rw [trimEnd, List.reverse_append, hb, hr, List.reverse_reverse]

lemma eq_trimEnd_append (s : List Char) :
    ∃ blanks, s = trimEnd s ++ blanks ∧ ∀ c ∈ blanks, isBlank c = true := by
  refine ⟨(s.reverse.takeWhile isBlank).reverse, ?_, ?_⟩
  · rw [trimEnd, ← List.reverse_append, List.takeWhile_append_dropWhile, List.reverse_reverse]
  · intro c hc
    exact List.mem_takeWhile_imp (List.mem_reverse.mp hc)

end GuardedCalls.Text
