import GuardedCalls.Java.TypeName
import GuardedCalls.Proofs.Cuts
import GuardedCalls.Proofs.Escapes
import Mathlib.Tactic.IntervalCases

/-! The words, numbers, quoted texts and parentheses that an expression begins with. Behind none of
them the text leaves a choice: two of them with which the same text begins are the same. -/

namespace GuardedCalls

open Text (isNumeric pieces)

lemma append_inj_of_all {kind : Char → Bool} {a b r s : List Char} (ha : ∀ c ∈ a, kind c = true)
    (hb : ∀ c ∈ b, kind c = true) (hr : ∀ c ∈ r.head?, kind c = false)
    (hs : ∀ c ∈ s.head?, kind c = false) (h : a ++ r = b ++ s) : a = b ∧ r = s := by
  have htake : ∀ {t : List Char}, (∀ c ∈ t.head?, kind c = false) → t.takeWhile kind = [] := by
    intro t ht
    cases t with
    | nil => rfl
    | cons c t => rw [List.takeWhile_cons_of_neg (by simp [ht c rfl])]
  have hab : a = b := by
    have ht := congrArg (List.takeWhile kind) h
    rwa [List.takeWhile_append_of_pos ha, List.takeWhile_append_of_pos hb, htake hr, htake hs,
      List.append_nil, List.append_nil] at ht
  subst hab
  exact ⟨rfl, List.append_cancel_left h⟩

lemma isIdentifierPart_of_start {c : Char} (hc : isIdentifierStart c = true) :
    isIdentifierPart c = true := by
  simp only [isIdentifierStart, isIdentifierPart, Bool.or_eq_true] at hc ⊢
  tauto

lemma exists_cons_of_isIdentifier {name : List Char} (hn : isIdentifier name = true) :
    ∃ c s, name = c :: s ∧ isIdentifierStart c = true := by
  cases name with
  | nil => simp [isIdentifier] at hn
  | cons c s =>
    rw [isIdentifier, Bool.and_eq_true] at hn
    exact ⟨c, s, rfl, hn.1⟩

lemma isIdentifierPart_of_isIdentifier {name : List Char} (hn : isIdentifier name = true) :
    ∀ c ∈ name, isIdentifierPart c = true := by
  cases name with
  | nil => simp [isIdentifier] at hn
  | cons c s =>
    rw [isIdentifier, Bool.and_eq_true, List.all_eq_true] at hn
    exact List.forall_mem_cons.mpr ⟨isIdentifierPart_of_start hn.1, hn.2⟩

def isDottedPart (c : Char) : Bool :=
  isIdentifierPart c || c = '.'

lemma isDottedPart_of_pieces {name : List Char}
    (hn : ∀ p ∈ pieces '.' name, isIdentifier p = true) : ∀ c ∈ name, isDottedPart c = true := by
  obtain ⟨p, ps, hp⟩ := List.exists_cons_of_ne_nil (Text.pieces_ne_nil '.' name)
  have hword : ∀ q ∈ p :: ps, ∀ c ∈ q, isDottedPart c = true := by
    intro q hq c hc
    rw [isDottedPart, isIdentifierPart_of_isIdentifier (hn q (hp ▸ hq)) c hc, Bool.true_or]
  intro c hc
  rw [(Text.eq_of_pieces hp).1] at hc
  rcases List.mem_append.mp hc with h | h
  · exact hword p List.mem_cons_self c h
  · obtain ⟨q, hq, h⟩ := List.mem_flatMap.mp h
    rcases List.mem_cons.mp h with rfl | h
    · rfl
    · exact hword q (List.mem_cons_of_mem p hq) c h

def isNumberChar (c : Char) : Bool :=
  c.isDigit || c = '-'

lemma isIdentifierPart_of_isDigit {c : Char} (hc : c.isDigit = true) :
    isIdentifierPart c = true := by
  obtain ⟨-, h9⟩ := Char.isDigit_iff_toNat.mp hc
  change c.toNat ≤ 57 at h9
  have h : c.toNat < 0x80 := by omega
  simp [isIdentifierPart, isNumeric, h, hc]

lemma isIdentifierStart_of_isDigit {c : Char} (hc : c.isDigit = true) :
    isIdentifierStart c = false := by
  obtain ⟨h0, h9⟩ := Char.isDigit_iff_toNat.mp hc
  change 48 ≤ c.toNat at h0
  change c.toNat ≤ 57 at h9
  rw [← Char.ofNat_toNat c]
  generalize c.toNat = n at h0 h9
  interval_cases n <;> decide

lemma isIdentifierStart_of_isNumberChar {c : Char} (hc : isNumberChar c = true) :
    isIdentifierStart c = false := by
  rw [isNumberChar, Bool.or_eq_true, decide_eq_true_iff] at hc
  rcases hc with h | rfl
  · exact isIdentifierStart_of_isDigit h
  · decide

def number (i : Int) : List Char :=
  (toString i).toList

lemma repr_digits (n : Nat) : n.repr.toList ≠ [] ∧ ∀ c ∈ n.repr.toList, c.isDigit = true := by
  refine ⟨fun h => n.repr_ne_empty (String.toList_eq_nil_iff.mp h), fun c hc => ?_⟩
  rw [Nat.toList_repr] at hc
  exact Nat.isDigit_of_mem_toDigits (by decide) (by decide) hc

lemma toList_repr_inj {m n : Nat} (h : m.repr.toList = n.repr.toList) : m = n := by
  rw [Nat.toList_repr, Nat.toList_repr] at h
  calc m = Nat.ofDigitChars 10 (Nat.toDigits 10 m) 0 := Nat.ofDigitChars_ten_toDigits.symm
    _ = Nat.ofDigitChars 10 (Nat.toDigits 10 n) 0 := by rw [h]
    _ = n := Nat.ofDigitChars_ten_toDigits

lemma repr_ne_minus_cons (n : Nat) (r : List Char) : n.repr.toList ≠ '-' :: r := by
  intro h
  have hm := (repr_digits n).2 '-' (by rw [h]; exact List.mem_cons_self)
  exact absurd hm (by decide)

lemma number_eq (i : Int) :
    ∃ n : Nat, i = n ∧ number i = n.repr.toList ∨ i = -n ∧ number i = '-' :: n.repr.toList := by
  rw [number, Int.toString_eq_repr, Int.repr_eq_if]
  split
  · exact ⟨i.toNat, .inl ⟨by omega, rfl⟩⟩
  · exact ⟨(-i).toNat, .inr ⟨by omega, String.toList_append ..⟩⟩

lemma isNumberChar_of_mem_number {i : Int} : ∀ c ∈ number i, isNumberChar c = true := by
  obtain ⟨n, ⟨-, h⟩ | ⟨-, h⟩⟩ := number_eq i <;> rw [h]
  · intro c hc
    simp [isNumberChar, (repr_digits n).2 c hc]
  · intro c hc
    rcases List.mem_cons.mp hc with rfl | hc
    · decide
    · simp [isNumberChar, (repr_digits n).2 c hc]

lemma number_ne_nil (i : Int) : number i ≠ [] := by
  obtain ⟨n, ⟨-, h⟩ | ⟨-, h⟩⟩ := number_eq i <;> rw [h]
  · exact (repr_digits n).1
  · exact List.cons_ne_nil _ _

lemma number_ne_minus (i : Int) : number i ≠ ['-'] := by
  obtain ⟨n, ⟨-, h⟩ | ⟨-, h⟩⟩ := number_eq i <;> rw [h]
  · exact repr_ne_minus_cons n []
  · intro hn
    exact (repr_digits n).1 (List.cons.inj hn).2

lemma number_inj {i j : Int} (h : number i = number j) : i = j := by
  obtain ⟨m, ⟨rfl, hm⟩ | ⟨rfl, hm⟩⟩ := number_eq i
  · obtain ⟨n, ⟨rfl, hn⟩ | ⟨rfl, hn⟩⟩ := number_eq j
    · rw [toList_repr_inj (hm.symm.trans (h.trans hn))]
    · exact absurd (hm.symm.trans (h.trans hn)) (repr_ne_minus_cons m _)
  · obtain ⟨n, ⟨rfl, hn⟩ | ⟨rfl, hn⟩⟩ := number_eq j
    · exact absurd (hn.symm.trans (h.symm.trans hm)) (repr_ne_minus_cons n _)
    · rw [toList_repr_inj (List.cons.inj (hm.symm.trans (h.trans hn))).2]

inductive Lead
  | word (name : String)
  | number (value : Int64)
  | quoted (mark : Char) (inside : List Char)
  | paren

def EndsWord (r : List Char) : Prop :=
  ∀ c ∈ r.head?, isIdentifierPart c = false ∧ c ≠ '-'

lemma EndsWord.not_isNumberChar {r : List Char} (hr : EndsWord r) :
    ∀ c ∈ r.head?, isNumberChar c = false := by
  intro c hc
  obtain ⟨hp, hm⟩ := hr c hc
  have hd : c.isDigit = false := by
    by_contra h
    simp [isIdentifierPart_of_isDigit (by simpa using h)] at hp
  simp [isNumberChar, hd, hm]

namespace Lead

def text : Lead → List Char
  | .word name => name.toList
  | .number value => GuardedCalls.number value.toInt
  | .quoted mark inside => mark :: (escape mark inside ++ [mark])
  | .paren => ['(']

def Before : Lead → List Char → Prop
  | .word name, r => isIdentifier name.toList = true ∧ EndsWord r
  | .number _, r => EndsWord r
  | .quoted mark _, _ => IsQuoteMark mark
  | .paren, _ => True

inductive Kind
  | word
  | number
  | quoted
  | paren
  deriving DecidableEq

def kind : Lead → Kind
  | .word _ => .word
  | .number _ => .number
  | .quoted .. => .quoted
  | .paren => .paren

def Kind.of? (c : Char) : Option Kind :=
  if isIdentifierStart c then some .word
  else if isNumberChar c then some .number
  else if c = '"' ∨ c = '\'' then some .quoted
  else if c = '(' then some .paren
  else none

variable {l l' : Lead} {r r' : List Char}

lemma exists_cons (hl : l.Before r) : ∃ c s, l.text = c :: s ∧ Kind.of? c = some l.kind := by
  cases l with
  | word name =>
    obtain ⟨c, s, h, hc⟩ := exists_cons_of_isIdentifier hl.1
    exact ⟨c, s, h, if_pos hc⟩
  | number value =>
    obtain ⟨c, s, h⟩ := List.exists_cons_of_ne_nil (number_ne_nil value.toInt)
    have hc := isNumberChar_of_mem_number c (h ▸ List.mem_cons_self)
    refine ⟨c, s, h, ?_⟩
    rw [Kind.of?, isIdentifierStart_of_isNumberChar hc, hc]
    rfl
  | quoted mark inside =>
    refine ⟨mark, _, rfl, ?_⟩
    change Kind.of? mark = some .quoted
    rcases hl with rfl | rfl <;> decide
  | paren => exact ⟨'(', [], rfl, by decide⟩

lemma append_inj (hl : l.Before r) (hl' : l'.Before r') (h : l.text ++ r = l'.text ++ r') :
    l = l' ∧ r = r' := by
  have hk : l.kind = l'.kind := by
    obtain ⟨c, s, hc, hs⟩ := exists_cons hl
    obtain ⟨c', s', hc', hs'⟩ := exists_cons hl'
    rw [hc, hc'] at h
    rw [(List.cons.inj h).1, hs', Option.some.injEq] at hs
    exact hs.symm
  cases l <;> cases l' <;> cases hk
  case word.word.refl name name' =>
    obtain ⟨hn, rfl⟩ := append_inj_of_all (isIdentifierPart_of_isIdentifier hl.1)
      (isIdentifierPart_of_isIdentifier hl'.1) (fun c hc => (hl.2 c hc).1)
      (fun c hc => (hl'.2 c hc).1) h
    rw [String.toList_inj.mp hn]
    exact ⟨rfl, rfl⟩
  case number.number.refl i i' =>
    obtain ⟨hi, rfl⟩ := append_inj_of_all isNumberChar_of_mem_number isNumberChar_of_mem_number
      (EndsWord.not_isNumberChar hl) (EndsWord.not_isNumberChar hl') h
    rw [Int64.toInt_inj.mp (number_inj hi)]
    exact ⟨rfl, rfl⟩
  case quoted.quoted.refl mark s mark' s' =>
    simp only [text, List.cons_append, List.append_assoc, List.nil_append, List.cons.injEq] at h
    obtain ⟨rfl, h⟩ := h
    obtain ⟨rfl, rfl⟩ := escape_append_inj hl h
    exact ⟨rfl, rfl⟩
  case paren.paren.refl => exact ⟨rfl, (List.cons.inj h).2⟩

end Lead

end GuardedCalls
