import GuardedCalls.Json.Printer
import GuardedCalls.Json.ValueReader
import Mathlib.Tactic.IntervalCases
import Mathlib.Tactic.Lemma
import Mathlib.Tactic.SplitIfs

/-! Strings and integers of a document are read as they were written, whatever text follows: a string
ends at its first quote that is not escaped, and an integer where the digits end. -/

namespace GuardedCalls.Json

lemma hexQuad_of_lt {n : Nat} (hn : n < 0x20) :
    hexQuad '0' '0' (hexDigit (n / 16)) (hexDigit (n % 16)) = some n := by
  revert n
  decide

lemma readNumericEscape_of_lt {c : Char} (hc : c.toNat < 0x20) (text : List Char) :
    readNumericEscape ('0' :: '0' :: hexDigit (c.toNat / 16) :: hexDigit (c.toNat % 16) :: text) =
      .ok (c, text) := by
  have hh : readHex ('0' :: '0' :: hexDigit (c.toNat / 16) :: hexDigit (c.toNat % 16) :: text) =
      .ok (c.toNat, text) := by
    rw [readHex, leadingHex, hexQuad_of_lt hc]
    rfl
  have hl : ¬ 0xDC00 ≤ c.toNat := by omega
  have hs : ¬ 0xD800 ≤ c.toNat := by omega
  simp only [readNumericEscape, hh]
  simp [bind, Except.bind, hl, hs]

variable (b : Char) (bound done text : List Char)

lemma readStringWithin_simpleEscape {e c : Char} (he : simpleEscape e = some c) (hu : e ≠ 'u') :
    readStringWithin (b :: bound) done ('\\' :: e :: text) =
      readStringWithin bound (c :: done) text := by
  simp [readStringWithin, he]

lemma readStringWithin_escapeChar (c : Char) :
    readStringWithin (b :: bound) done (escapeChar c ++ text) =
      readStringWithin bound (c :: done) text := by
  have hs := fun e h hu => readStringWithin_simpleEscape (e := e) (c := c) b bound done text h hu
  rw [escapeChar]
  split_ifs with h₁ h₂ h₃ h₄ h₅ h₆ h₇ h₈
  · exact hs '"' (by rw [h₁]; rfl) (by decide)
  · exact hs '\\' (by rw [h₂]; rfl) (by decide)
  · exact hs 'b' (h₃ ▸ rfl) (by decide)
  · exact hs 'f' (h₄ ▸ rfl) (by decide)
  · exact hs 'n' (h₅ ▸ rfl) (by decide)
  · exact hs 'r' (h₆ ▸ rfl) (by decide)
  · exact hs 't' (h₇ ▸ rfl) (by decide)
  · simp [readStringWithin, readNumericEscape_of_lt h₈]
  · simp [readStringWithin, h₁, h₂, h₈]

lemma readStringWithin_flatMap (s : List Char) {bound : List Char} (hb : s.length < bound.length) :
    readStringWithin bound done (s.flatMap escapeChar ++ '"' :: text) =
      .ok (String.ofList (done.reverse ++ s), text) := by
  induction s generalizing bound done with
  | nil =>
    obtain ⟨b, bound, rfl⟩ := List.exists_cons_of_length_pos hb
    simp [readStringWithin]
  | cons c s ih =>
    obtain ⟨b, bound, rfl⟩ := List.exists_cons_of_length_pos (Nat.zero_lt_of_lt hb)
    rw [List.flatMap_cons, List.append_assoc, readStringWithin_escapeChar,
      ih _ (Nat.lt_of_succ_lt_succ hb), List.reverse_cons, List.append_assoc]
    rfl

lemma length_le_length_flatMap (s : List Char) : s.length ≤ (s.flatMap escapeChar).length := by
  have hc : ∀ c, 1 ≤ (escapeChar c).length := fun c => by
    rw [escapeChar]
    split_ifs <;> simp
  induction s with
  | nil => exact Nat.le.refl
  | cons c s ih =>
    rw [List.flatMap_cons, List.length_append, List.length_cons]
    have := hc c
    omega

lemma readStringBody_flatMap (s : String) :
    readStringBody (s.toList.flatMap escapeChar ++ '"' :: text) = .ok (s, text) := by
  have hl := length_le_length_flatMap s.toList
  rw [readStringBody, readStringWithin_flatMap]
  · simp
  · simp only [List.length_append, List.length_cons]
    omega

lemma takeDigits_eq {limit value : Nat} {digits : List Char}
    (hl : Nat.ofDigitChars 10 digits value < limit) :
    takeDigits limit value digits = (Nat.ofDigitChars 10 digits value, []) := by
  induction digits generalizing value with
  | nil => rfl
  | cons c digits ih =>
    have hn : value * 10 + (c.toNat - 0x30) = 10 * value + (c.toNat - '0'.toNat) := by
      rw [Nat.mul_comm]
      rfl
    rw [Nat.ofDigitChars_cons] at hl ⊢
    have hm : 10 * value + (c.toNat - '0'.toNat) < limit := by
      rw [Nat.ofDigitChars_eq_ofDigitChars_zero] at hl
      have hp := Nat.le_mul_of_pos_left (10 * value + (c.toNat - '0'.toNat))
        (Nat.pow_pos (n := digits.length) (show 0 < 10 by decide))
      omega
    rw [takeDigits, hn, if_pos hm, ih hl]

lemma exists_cons_toDigits {n : Nat} (hn : 0 < n) :
    ∃ c digits, Nat.toDigits 10 n = c :: digits ∧ c ≠ '0' := by
  induction n using Nat.strong_induction_on with
  | h n ih =>
    rw [Nat.toDigits_eq_if (by decide)]
    split
    · refine ⟨_, _, rfl, ?_⟩
      interval_cases n <;> decide
    · obtain ⟨c, digits, hd, hc⟩ := ih (n / 10) (by omega) (by omega)
      exact ⟨c, digits ++ [(n % 10).digitChar], by rw [hd]; rfl, hc⟩

def EndsNumber (text : List Char) : Prop :=
  ∀ c ∈ text.head?, c.isDigit = false ∧ c ≠ '.' ∧ c ≠ 'e' ∧ c ≠ 'E'

variable {text}

lemma EndsNumber.not_isFractionStart (ht : EndsNumber text) : isFractionStart text = false := by
  cases text with
  | nil => rfl
  | cons c text =>
    obtain ⟨-, hp, he, hE⟩ := ht c rfl
    simp [isFractionStart, hp, he, hE]

lemma readDigits_toDigits {n : Nat} (hn : n < significandLimit) (ht : EndsNumber text)
    (negative : Bool) :
    readDigits negative (Nat.toDigits 10 n) text =
      if ¬ negative then .ok (.int n, text)
      else if n = 0 ∨ 0x8000000000000000 < n then .ok (signed true (Float.ofNat n), text)
      else .ok (.int (-n), text) := by
  have hd : takeDigits significandLimit 0 (Nat.toDigits 10 n) = (n, []) := by
    rw [takeDigits_eq (by rwa [Nat.ofDigitChars_ten_toDigits]), Nat.ofDigitChars_ten_toDigits]
  simp [readDigits, hd, ht.not_isFractionStart]

lemma readNumber_toDigits (n : Nat) (ht : EndsNumber text) (negative : Bool) :
    readNumber negative (Nat.toDigits 10 n ++ text) =
      readDigits negative (Nat.toDigits 10 n) text := by
  rcases Nat.eq_zero_or_pos n with rfl | hn
  · rw [Nat.toDigits_zero, List.singleton_append]
    cases text with
    | nil => rfl
    | cons c text => simp [readNumber, (ht c rfl).1]
  · obtain ⟨c, digits, hd, hc⟩ := exists_cons_toDigits hn
    have hall : ∀ d ∈ c :: digits, d.isDigit = true := fun d h =>
      Nat.isDigit_of_mem_toDigits (by decide) (by decide) (hd ▸ h)
    have htail : ∀ d ∈ digits, d.isDigit = true := fun d h => hall d (List.mem_cons_of_mem c h)
    have hend : text.takeWhile Char.isDigit = [] ∧ text.dropWhile Char.isDigit = text := by
      cases text with
      | nil => exact ⟨rfl, rfl⟩
      | cons d text => simp [(ht d rfl).1]
    rw [hd, List.cons_append]
    simp [readNumber, hall c List.mem_cons_self, List.takeWhile_append_of_pos htail,
      List.dropWhile_append_of_pos htail, hend]

lemma readScalar_of_isDigit {c : Char} (hc : c.isDigit = true) {n : Number} {rest : List Char}
    (hr : readNumber false (c :: text) = .ok (n, rest)) :
    readScalar (c :: text) = .ok (.number n, rest) := by
  have hne : c ≠ 'n' ∧ c ≠ 't' ∧ c ≠ 'f' ∧ c ≠ '"' ∧ c ≠ '-' := by
    refine ⟨?_, ?_, ?_, ?_, ?_⟩ <;> rintro rfl <;> exact absurd hc (by decide)
  simp [readScalar, hne, hc, hr, bind, Except.bind]

lemma readScalar_minus {n : Number} {rest : List Char} (hr : readNumber true text = .ok (n, rest)) :
    readScalar ('-' :: text) = .ok (.number n, rest) := by
  simp [readScalar, hr, bind, Except.bind]

def InRange (i : Int) : Prop :=
  -0x8000000000000000 ≤ i ∧ i < 0x10000000000000000

lemma readScalar_int {i : Int} (hi : InRange i) (ht : EndsNumber text) :
    readScalar ((toString i).toList ++ text) = .ok (.int i, text) := by
  obtain ⟨hl, hu⟩ := hi
  rw [Int.toString_eq_repr, Int.repr_eq_if]
  split
  · rename_i h
    obtain ⟨n, rfl⟩ := Int.eq_ofNat_of_zero_le h
    have hn : n < significandLimit := by
      change n < 0x10000000000000000
      omega
    have hr := readNumber_toDigits n ht false
    rw [readDigits_toDigits hn ht, if_pos (by decide)] at hr
    obtain ⟨c, digits, hd⟩ := List.exists_cons_of_ne_nil (Nat.toDigits_ne_nil (n := n) (b := 10))
    have hc : c.isDigit = true :=
      Nat.isDigit_of_mem_toDigits (by decide) (by decide) (hd ▸ List.mem_cons_self)
    rw [Int.toNat_natCast, Nat.toList_repr, hd, List.cons_append]
    rw [hd, List.cons_append] at hr
    exact readScalar_of_isDigit hc hr
  · rename_i h
    obtain ⟨n, rfl⟩ := Int.eq_negSucc_of_lt_zero (Int.lt_of_not_ge h)
    have hn : n + 1 ≤ 0x8000000000000000 := by omega
    have hs : n + 1 < significandLimit := Nat.lt_of_le_of_lt hn (by decide)
    have hr := readNumber_toDigits (n + 1) ht true
    rw [readDigits_toDigits hs ht, if_neg (by decide), if_neg (by omega)] at hr
    have hm : (-Int.negSucc n).toNat = n + 1 := rfl
    rw [hm, String.toList_append, Nat.toList_repr]
    exact readScalar_minus hr

end GuardedCalls.Json
