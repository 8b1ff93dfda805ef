import GuardedCalls.Proofs.JsonText
import GuardedCalls.Proofs.Lexemes

/-! The grammar of JSON texts, with the value that a text stands for. It sets no limit to numbers
and nesting, and it leaves no choice: a text stands for one value at most. What a number with a
fraction or an exponent is rounded to is open. -/

namespace GuardedCalls.Json

def IsDigits (digits : List Char) : Prop :=
  digits ≠ [] ∧ ∀ c ∈ digits, c.isDigit = true

def IsNatural (digits : List Char) (n : Nat) : Prop :=
  IsDigits digits ∧ (digits.head? = some '0' → digits = ['0']) ∧ n = Nat.ofDigitChars 10 digits 0

inductive IsInteger : List Char → Int → Prop
  | natural {digits : List Char} {n : Nat} : IsNatural digits n → IsInteger digits n
  | negative {digits : List Char} {n : Nat} : IsNatural digits n → IsInteger ('-' :: digits) (-n)

inductive IsExponent : List Char → Prop
  | mk {e : Char} {sign digits : List Char} :
      e = 'e' ∨ e = 'E' → sign = [] ∨ sign = ['+'] ∨ sign = ['-'] → IsDigits digits →
      IsExponent (e :: (sign ++ digits))

inductive IsTail : List Char → Prop
  | fraction {digits : List Char} : IsDigits digits → IsTail ('.' :: digits)
  | exponent {text : List Char} : IsExponent text → IsTail text
  | both {digits text : List Char} :
      IsDigits digits → IsExponent text → IsTail ('.' :: (digits ++ text))

inductive IsNumber (round : List Char → Float) : List Char → Number → Prop
  | int {text : List Char} {i : Int} : IsInteger text i → IsNumber round text (.int i)
  | float {text tail : List Char} {i : Int} : IsInteger text i → IsTail tail →
      IsNumber round (text ++ tail) (.float (round (text ++ tail)))

def isNumeralChar (c : Char) : Bool :=
  c.isDigit || c = '-' || c = '+' || c = '.' || c = 'e' || c = 'E'

def EndsNumeral (text : List Char) : Prop :=
  ∀ c ∈ text.head?, isNumeralChar c = false

variable {round : List Char → Float} {text tail rest : List Char} {i k : Int} {m n : Number}

lemma IsInteger.exists_cons (h : IsInteger text i) :
    ∃ c s, text = c :: s ∧ (c.isDigit = true ∨ c = '-') := by
  cases h with
  | natural h =>
    obtain ⟨c, s, rfl⟩ := List.exists_cons_of_ne_nil h.1.1
    exact ⟨c, s, rfl, .inl (h.1.2 c List.mem_cons_self)⟩
  | negative h => exact ⟨'-', _, rfl, .inr rfl⟩

lemma IsInteger.char (h : IsInteger text i) {c : Char} (hc : c ∈ text) :
    c.isDigit = true ∨ c = '-' := by
  cases h with
  | natural h => exact .inl (h.1.2 c hc)
  | negative h =>
    rcases List.mem_cons.mp hc with rfl | hc
    · exact .inr rfl
    · exact .inl (h.1.2 c hc)

lemma IsInteger.unique (h : IsInteger text i) (h' : IsInteger text k) : i = k := by
  have hminus : ∀ {digits : List Char} {n : Nat}, ¬ IsNatural ('-' :: digits) n := by
    intro digits n h
    exact absurd (h.1.2 '-' List.mem_cons_self) (by decide)
  cases h with
  | natural h =>
    cases h' with
    | natural h' => rw [h.2.2, h'.2.2]
    | negative h' => exact absurd h hminus
  | negative h =>
    cases h' with
    | natural h' => exact absurd h' hminus
    | negative h' => rw [h.2.2, h'.2.2]

lemma isNumeralChar_of_isDigit {c : Char} (hc : c.isDigit = true) : isNumeralChar c = true := by
  simp [isNumeralChar, hc]

lemma IsExponent.isNumeralChar (h : IsExponent text) : ∀ c ∈ text, isNumeralChar c = true := by
  cases h with
  | mk he hs hd =>
    have hdigits := fun c hc => isNumeralChar_of_isDigit (hd.2 c hc)
    intro c hc
    rcases List.mem_cons.mp hc with rfl | hc
    · rcases he with rfl | rfl <;> decide
    · rcases List.mem_append.mp hc with hc | hc
      · rcases hs with rfl | rfl | rfl
        · exact absurd hc List.not_mem_nil
        all_goals
          obtain rfl := List.mem_singleton.mp hc
          decide
      · exact hdigits c hc

lemma IsTail.isNumeralChar (h : IsTail text) : ∀ c ∈ text, isNumeralChar c = true := by
  cases h with
  | fraction hd =>
    exact List.forall_mem_cons.mpr ⟨by decide, fun c hc => isNumeralChar_of_isDigit (hd.2 c hc)⟩
  | exponent he => exact he.isNumeralChar
  | both hd he =>
    refine List.forall_mem_cons.mpr ⟨by decide, fun c hc => ?_⟩
    rcases List.mem_append.mp hc with hc | hc
    · exact isNumeralChar_of_isDigit (hd.2 c hc)
    · exact he.isNumeralChar c hc

lemma IsTail.exists_cons (h : IsTail text) :
    ∃ c s, text = c :: s ∧ (c = '.' ∨ c = 'e' ∨ c = 'E') := by
  cases h with
  | fraction | both => exact ⟨'.', _, rfl, .inl rfl⟩
  | exponent he =>
    cases he with
    | mk he => exact ⟨_, _, rfl, .inr he⟩

lemma IsNumber.isNumeralChar (h : IsNumber round text n) : ∀ c ∈ text, isNumeralChar c = true := by
  have hint : ∀ {text : List Char} {i : Int}, IsInteger text i →
      ∀ c ∈ text, Json.isNumeralChar c = true := by
    intro text i h c hc
    rcases h.char hc with hd | rfl
    · exact isNumeralChar_of_isDigit hd
    · decide
  cases h with
  | int h => exact hint h
  | float h ht =>
    intro c hc
    rcases List.mem_append.mp hc with hc | hc
    · exact hint h c hc
    · exact ht.isNumeralChar c hc

lemma IsNumber.exists_cons (h : IsNumber round text n) :
    ∃ c s, text = c :: s ∧ (c.isDigit = true ∨ c = '-') := by
  cases h with
  | int h => exact h.exists_cons
  | float h =>
    obtain ⟨c, s, rfl, hc⟩ := h.exists_cons
    exact ⟨c, _, rfl, hc⟩

lemma IsInteger.ne_append (h : IsInteger text i) {before : List Char} (ht : IsTail tail) :
    text ≠ before ++ tail := by
  rintro rfl
  obtain ⟨c, s, rfl, hc⟩ := ht.exists_cons
  have hd := h.char (List.mem_append_right before List.mem_cons_self)
  rcases hc with rfl | rfl | rfl <;> exact absurd hd (by decide)

lemma IsNumber.unique (h : IsNumber round text n) (h' : IsNumber round text m) : n = m := by
  cases h with
  | int h =>
    cases h' with
    | int h' => rw [h.unique h']
    | float _ ht => exact absurd rfl (h.ne_append ht)
  | @float text tail _ h ht =>
    generalize hs : text ++ tail = s at h'
    cases h' with
    | int h' => exact absurd hs.symm (h'.ne_append ht)
    | float => rfl

lemma isInteger_toString (i : Int) : IsInteger (toString i).toList i := by
  have hnat : ∀ n : Nat, IsNatural n.repr.toList n := by
    intro n
    refine ⟨repr_digits n, ?_, ?_⟩
    · rw [Nat.toList_repr]
      rcases Nat.eq_zero_or_pos n with rfl | hn
      · exact fun _ => rfl
      · obtain ⟨c, digits, hd, hc⟩ := exists_cons_toDigits hn
        rw [hd]
        intro h
        exact absurd (Option.some_inj.mp h) hc
    · rw [Nat.toList_repr, Nat.ofDigitChars_ten_toDigits]
  rw [Int.toString_eq_repr, Int.repr_eq_if]
  split
  · rename_i h
    obtain ⟨n, rfl⟩ := Int.eq_ofNat_of_zero_le h
    exact .natural (hnat n)
  · rename_i h
    obtain ⟨n, rfl⟩ := Int.eq_negSucc_of_lt_zero (Int.lt_of_not_ge h)
    rw [String.toList_append]
    exact .negative (hnat (n + 1))

/-- An escape by number. Two of them stand for one character where the numbers are surrogates. -/
inductive IsCodeUnit : List Char → Nat → Prop
  | mk {a b c d : Char} {n : Nat} :
      hexQuad a b c d = some n → IsCodeUnit ['\\', 'u', a, b, c, d] n

inductive IsChar : List Char → Char → Prop
  | plain {c : Char} : 0x20 ≤ c.toNat → c ≠ '"' → c ≠ '\\' → IsChar [c] c
  | escaped {e c : Char} : simpleEscape e = some c → IsChar ['\\', e] c
  | numbered {t : List Char} {n : Nat} :
      IsCodeUnit t n → n < 0xD800 ∨ 0xDFFF < n → IsChar t (Char.ofNat n)
  | paired {t u : List Char} {high low : Nat} :
      IsCodeUnit t high → 0xD800 ≤ high ∧ high ≤ 0xDBFF →
      IsCodeUnit u low → 0xDC00 ≤ low ∧ low ≤ 0xDFFF →
      IsChar (t ++ u) (Char.ofNat (0x10000 + (high - 0xD800) * 0x400 + (low - 0xDC00)))

inductive IsBody : List Char → List Char → Prop
  | nil : IsBody [] []
  | cons {t u s : List Char} {c : Char} : IsChar t c → IsBody u s → IsBody (t ++ u) (c :: s)

inductive IsString : List Char → String → Prop
  | quoted {body : List Char} {s : String} :
      IsBody body s.toList → IsString ('"' :: (body ++ ['"'])) s

section Strings

variable {t t' r r' s s' : List Char} {c c' : Char} {name name' : String}

lemma IsCodeUnit.append_inj {n n' : Nat} (h : IsCodeUnit t n) (h' : IsCodeUnit t' n')
    (he : t ++ r = t' ++ r') : n = n' ∧ r = r' := by
  obtain ⟨hn⟩ := h
  obtain ⟨hn'⟩ := h'
  simp only [List.cons_append, List.nil_append, List.cons.injEq, true_and] at he
  obtain ⟨rfl, rfl, rfl, rfl, rfl⟩ := he
  exact ⟨Option.some_inj.mp (hn.symm.trans hn'), rfl⟩

lemma IsCodeUnit.ne_escaped {n : Nat} {e : Char} (h : IsCodeUnit t n)
    (he : simpleEscape e = some c) : '\\' :: e :: r ≠ t ++ r' := by
  obtain ⟨-⟩ := h
  intro heq
  obtain rfl : e = 'u' := (List.cons.inj (List.cons.inj heq).2).1
  cases he

lemma IsCodeUnit.ne_plain {n : Nat} (h : IsCodeUnit t n) (hc : c ≠ '\\') : c :: r ≠ t ++ r' := by
  obtain ⟨-⟩ := h
  exact fun heq => hc (List.cons.inj heq).1

lemma IsChar.exists_cons (h : IsChar t c) : ∃ d u, t = d :: u ∧ d ≠ '"' := by
  cases h with
  | plain _ hq => exact ⟨_, _, rfl, hq⟩
  | escaped => exact ⟨'\\', _, rfl, by decide⟩
  | numbered h | paired h =>
    obtain ⟨-⟩ := h
    exact ⟨'\\', _, rfl, by decide⟩

lemma IsChar.append_inj (h : IsChar t c) (h' : IsChar t' c') (he : t ++ r = t' ++ r') :
    c = c' ∧ r = r' := by
  -- A backslash tells an escape from a plain character, the letter behind it an escape by number,
  -- and a surrogate the first half of a pair.
  cases h with
  | plain _ _ hc =>
    cases h' with
    | plain => exact List.cons.inj he
    | escaped => exact absurd (List.cons.inj he).1 hc
    | numbered hu => exact absurd he (hu.ne_plain hc)
    | paired hu => exact absurd (he.trans (List.append_assoc ..)) (hu.ne_plain hc)
  | escaped hs =>
    cases h' with
    | plain _ _ hc => exact absurd (List.cons.inj he).1.symm hc
    | escaped hs' =>
      obtain ⟨rfl, rfl⟩ := List.cons.inj (List.cons.inj he).2
      exact ⟨Option.some_inj.mp (hs.symm.trans hs'), rfl⟩
    | numbered hu => exact absurd he (hu.ne_escaped hs)
    | paired hu => exact absurd (he.trans (List.append_assoc ..)) (hu.ne_escaped hs)
  | numbered hu hn =>
    cases h' with
    | plain _ _ hc => exact absurd he.symm (hu.ne_plain hc)
    | escaped hs => exact absurd he.symm (hu.ne_escaped hs)
    | numbered hu' =>
      obtain ⟨rfl, rfl⟩ := hu.append_inj hu' he
      exact ⟨rfl, rfl⟩
    | paired hu' hn' =>
      obtain ⟨rfl, -⟩ := hu.append_inj hu' (he.trans (List.append_assoc ..))
      omega
  | paired hu hn hv =>
    rw [List.append_assoc] at he
    cases h' with
    | plain _ _ hc => exact absurd he.symm (hu.ne_plain hc)
    | escaped hs => exact absurd he.symm (hu.ne_escaped hs)
    | numbered hu' hn' =>
      obtain ⟨rfl, -⟩ := hu.append_inj hu' he
      omega
    | paired hu' _ hv' =>
      obtain ⟨rfl, he⟩ := hu.append_inj hu' (he.trans (List.append_assoc ..))
      obtain ⟨rfl, rfl⟩ := hv.append_inj hv' he
      exact ⟨rfl, rfl⟩

lemma IsBody.append_inj (h : IsBody t s) (h' : IsBody t' s')
    (he : t ++ '"' :: r = t' ++ '"' :: r') : s = s' ∧ r = r' := by
  induction h generalizing t' s' with
  | nil =>
    cases h' with
    | nil => exact ⟨rfl, (List.cons.inj he).2⟩
    | cons hc =>
      obtain ⟨d, u, rfl, hd⟩ := hc.exists_cons
      exact absurd (List.cons.inj he).1.symm hd
  | cons hc _ ih =>
    rw [List.append_assoc] at he
    cases h' with
    | nil =>
      obtain ⟨d, u, rfl, hd⟩ := hc.exists_cons
      exact absurd (List.cons.inj he).1 hd
    | cons hc' hb' =>
      obtain ⟨rfl, he⟩ := hc.append_inj hc' (he.trans (List.append_assoc ..))
      obtain ⟨rfl, rfl⟩ := ih hb' he
      exact ⟨rfl, rfl⟩

lemma IsString.append_inj (h : IsString t name) (h' : IsString t' name')
    (he : t ++ r = t' ++ r') : name = name' ∧ r = r' := by
  obtain ⟨hb⟩ := h
  obtain ⟨hb'⟩ := h'
  simp only [List.cons_append, List.append_assoc, List.nil_append, List.cons.injEq, true_and] at he
  obtain ⟨hs, rfl⟩ := hb.append_inj hb' he
  exact ⟨String.toList_inj.mp hs, rfl⟩

lemma isChar_escapeChar (c : Char) : IsChar (escapeChar c) c := by
  rw [escapeChar]
  split_ifs with h₁ h₂ h₃ h₄ h₅ h₆ h₇ h₈
  · exact .escaped (by rw [h₁]; rfl)
  · exact .escaped (by rw [h₂]; rfl)
  · exact .escaped (h₃ ▸ rfl)
  · exact .escaped (h₄ ▸ rfl)
  · exact .escaped (h₅ ▸ rfl)
  · exact .escaped (h₆ ▸ rfl)
  · exact .escaped (h₇ ▸ rfl)
  · have hu := IsChar.numbered ⟨hexQuad_of_lt h₈⟩ (.inl (by omega))
    rwa [Char.ofNat_toNat] at hu
  · exact .plain (Nat.le_of_not_lt h₈) h₁ h₂

lemma isString_stringText (s : String) : IsString (stringText s).toList s := by
  have hb : ∀ s : List Char, IsBody (s.flatMap escapeChar) s := by
    intro s
    induction s with
    | nil => exact .nil
    | cons c s ih => exact .cons (isChar_escapeChar c) ih
  rw [stringText, String.toList_ofList]
  exact .quoted (hb s.toList)

end Strings

def IsBlanks (text : List Char) : Prop :=
  ∀ c ∈ text, isJsonBlank c = true

inductive IsScalar (round : List Char → Float) : List Char → Json → Prop
  | null : IsScalar round ['n', 'u', 'l', 'l'] .null
  | yes : IsScalar round ['t', 'r', 'u', 'e'] (.bool true)
  | no : IsScalar round ['f', 'a', 'l', 's', 'e'] (.bool false)
  | number {text : List Char} {n : Number} :
      IsNumber round text n → IsScalar round text (.number n)
  | string {text : List Char} {s : String} : IsString text s → IsScalar round text (.string s)

inductive IsRow {α : Type} (close : Char) : List Char → List (List Char × α) → Prop
  | last {b s b' : List Char} {x : α} :
      IsBlanks b → IsBlanks b' → IsRow close (b ++ (s ++ (b' ++ [close]))) [(s, x)]
  | cons {b s b' t : List Char} {x : α} {parts : List (List Char × α)} :
      IsBlanks b → IsBlanks b' → IsRow close t parts →
      IsRow close (b ++ (s ++ (b' ++ ',' :: t))) ((s, x) :: parts)

inductive IsList {α : Type} (close : Char) : List Char → List (List Char × α) → Prop
  | empty {b : List Char} : IsBlanks b → IsList close (b ++ [close]) []
  | row {t : List Char} {parts : List (List Char × α)} : IsRow close t parts → IsList close t parts

inductive IsName : List Char → String → Prop
  | mk {s b b' : List Char} {name : String} :
      IsString s name → IsBlanks b → IsBlanks b' → IsName (s ++ (b ++ ':' :: b')) name

structure MemberText where
  nameText : List Char
  name : String
  valueText : List Char
  value : Json

def MemberText.part (m : MemberText) : List Char × String × Json :=
  (m.nameText ++ m.valueText, m.name, m.value)

inductive Denotes (round : List Char → Float) : List Char → Json → Prop
  | scalar {s : List Char} {j : Json} : IsScalar round s j → Denotes round s j
  | array {t : List Char} {parts : List (List Char × Json)} :
      IsList ']' t parts → (∀ p ∈ parts, Denotes round p.1 p.2) →
      Denotes round ('[' :: t) (.array (parts.map Prod.snd))
  | object {t : List Char} {members : List MemberText} :
      IsList '\x7d' t (members.map MemberText.part) → (∀ m ∈ members, IsName m.nameText m.name) →
      (∀ m ∈ members, Denotes round m.valueText m.value) →
      Denotes round ('\x7b' :: t) (.object ((members.map MemberText.part).map Prod.snd))

def IsDocument (round : List Char → Float) (text : List Char) (j : Json) : Prop :=
  ∃ b s b', IsBlanks b ∧ IsBlanks b' ∧ Denotes round s j ∧ text = b ++ (s ++ b')

section Unique

variable {b b' r r' s s' t t' : List Char} {c c' close : Char} {j j' : Json}

lemma IsBlanks.append_cons_inj (hb : IsBlanks b) (hb' : IsBlanks b') (hc : isJsonBlank c = false)
    (hc' : isJsonBlank c' = false) (he : b ++ c :: r = b' ++ c' :: r') : c = c' ∧ r = r' := by
  have hs := congrArg skipBlank he
  rw [skipBlank_append_cons hb hc, skipBlank_append_cons hb' hc'] at hs
  exact List.cons.inj hs

inductive Kind
  | null | yes | no | number | string | array | object

def kind : Json → Kind
  | .null => .null
  | .bool true => .yes
  | .bool false => .no
  | .number _ => .number
  | .string _ => .string
  | .array _ => .array
  | .object _ => .object

def kindOf (c : Char) : Option Kind :=
  if c = 'n' then some .null
  else if c = 't' then some .yes
  else if c = 'f' then some .no
  else if c = '"' then some .string
  else if c = '[' then some .array
  else if c = '\x7b' then some .object
  else if c.isDigit ∨ c = '-' then some .number
  else none

lemma kindOf_of_isDigit (hc : c.isDigit = true ∨ c = '-') : kindOf c = some .number := by
  have hne : c ≠ 'n' ∧ c ≠ 't' ∧ c ≠ 'f' ∧ c ≠ '"' ∧ c ≠ '[' ∧ c ≠ '\x7b' := by
    refine ⟨?_, ?_, ?_, ?_, ?_, ?_⟩ <;> rintro rfl <;> exact absurd hc (by decide)
  simp [kindOf, hne, hc]

lemma IsString.exists_cons {name : String} (h : IsString s name) : ∃ t, s = '"' :: t := by
  obtain ⟨-⟩ := h
  exact ⟨_, rfl⟩

lemma IsScalar.exists_cons (h : IsScalar round s j) :
    ∃ c t, s = c :: t ∧ kindOf c = some j.kind := by
  cases h with
  | null | yes | no => exact ⟨_, _, rfl, rfl⟩
  | number h =>
    obtain ⟨c, t, rfl, hc⟩ := h.exists_cons
    exact ⟨c, t, rfl, kindOf_of_isDigit hc⟩
  | string h =>
    obtain ⟨t, rfl⟩ := h.exists_cons
    exact ⟨_, t, rfl, rfl⟩

lemma Denotes.exists_cons (h : Denotes round s j) : ∃ c t, s = c :: t ∧ kindOf c = some j.kind := by
  cases h with
  | scalar h => exact h.exists_cons
  | array | object => exact ⟨_, _, rfl, rfl⟩

lemma Denotes.kind_eq (h : Denotes round s j) (h' : Denotes round s' j')
    (he : s ++ r = s' ++ r') : j.kind = j'.kind := by
  obtain ⟨c, t, rfl, hc⟩ := h.exists_cons
  obtain ⟨c', t', rfl, hc'⟩ := h'.exists_cons
  obtain rfl := (List.cons.inj he).1
  exact Option.some_inj.mp (hc.symm.trans hc')

def isMark (c : Char) : Bool :=
  c = ',' || c = ']' || c = '\x7d'

lemma isMark_iff : isMark c = true ↔ c = ',' ∨ c = ']' ∨ c = '\x7d' := by
  simp [isMark, or_assoc]

lemma isJsonBlank_of_isMark (hc : isMark c = true) : isJsonBlank c = false := by
  rcases isMark_iff.mp hc with rfl | rfl | rfl <;> decide

lemma IsBlanks.endsNumeral (hb : IsBlanks b) : EndsNumeral b := by
  intro c hc
  rcases isJsonBlank_iff.mp (hb c (List.mem_of_mem_head? hc)) with rfl | rfl | rfl | rfl <;> decide

lemma endsNumeral_append_mark (hb : IsBlanks b) (hc : isMark c = true) :
    EndsNumeral (b ++ c :: r) := by
  cases b with
  | nil =>
    intro d hd
    obtain rfl : c = d := Option.some_inj.mp hd
    rcases isMark_iff.mp hc with rfl | rfl | rfl <;> decide
  | cons d b => exact hb.endsNumeral

def BeginsPart (s : List Char) : Prop :=
  ∃ c t, s = c :: t ∧ isJsonBlank c = false ∧ isMark c = false

lemma beginsPart_of_kindOf {k : Kind} (hc : kindOf c = some k) : BeginsPart (c :: t) := by
  refine ⟨c, t, rfl, Bool.eq_false_iff.mpr fun hb => ?_, Bool.eq_false_iff.mpr fun hm => ?_⟩
  · rcases isJsonBlank_iff.mp hb with rfl | rfl | rfl | rfl <;> cases hc
  · rcases isMark_iff.mp hm with rfl | rfl | rfl <;> cases hc

variable {α : Type} {p p' : List Char × α} {parts parts' : List (List Char × α)}

/-- Whatever follows, the two parts end together and stand for the same, if they begin together. -/
def OneWay (p p' : List Char × α) : Prop :=
  ∀ r r', EndsNumeral r → EndsNumeral r' → p.1 ++ r = p'.1 ++ r' → p.2 = p'.2 ∧ r = r'

lemma IsBlanks.cancel (hb : IsBlanks b) (hb' : IsBlanks b') (hs : BeginsPart s)
    (hs' : BeginsPart s') (he : b ++ (s ++ r) = b' ++ (s' ++ r')) : s ++ r = s' ++ r' := by
  obtain ⟨c, t, rfl, hc, -⟩ := hs
  obtain ⟨c', t', rfl, hc', -⟩ := hs'
  obtain ⟨rfl, ht⟩ := hb.append_cons_inj hb' hc hc' he
  exact congrArg _ ht

section Step

variable {e e' : List Char} {x x' : α} (ho : OneWay (s, x) (s', x')) (hs : BeginsPart s)
  (hs' : BeginsPart s') (hb : IsBlanks b) (hb' : IsBlanks b') (he : IsBlanks e) (he' : IsBlanks e')
include ho hs hs' hb hb' he he'

lemma OneWay.mark (hc : isMark c = true) (hc' : isMark c' = true)
    (h : b ++ (s ++ (e ++ c :: t)) ++ r = b' ++ (s' ++ (e' ++ c' :: t')) ++ r') :
    x = x' ∧ c = c' ∧ t ++ r = t' ++ r' := by
  simp only [List.append_assoc, List.cons_append] at h
  have hs := hb.cancel hb' hs hs' h
  obtain ⟨hx, h⟩ :=
    ho _ _ (endsNumeral_append_mark he hc) (endsNumeral_append_mark he' hc') hs
  exact ⟨hx, he.append_cons_inj he' (isJsonBlank_of_isMark hc) (isJsonBlank_of_isMark hc') h⟩

end Step

lemma IsRow.append_inj (hm : isMark close = true) (hne : close ≠ ',') (h : IsRow close t parts)
    (h' : IsRow close t' parts') (hs : ∀ p ∈ parts, BeginsPart p.1)
    (hs' : ∀ p ∈ parts', BeginsPart p.1) (ho : ∀ p ∈ parts, ∀ p' ∈ parts', OneWay p p')
    (he : t ++ r = t' ++ r') : parts.map Prod.snd = parts'.map Prod.snd ∧ r = r' := by
  -- By induction on one row: the mark behind a part, the same in both, tells if there is another.
  induction h generalizing t' parts' with
  | last hb hd =>
    have hs := hs _ List.mem_cons_self
    cases h' with
    | last hb' hd' =>
      have hs' := hs' _ List.mem_cons_self
      have ho := ho _ List.mem_cons_self _ List.mem_cons_self
      obtain ⟨rfl, -, he⟩ := ho.mark hs hs' hb hb' hd hd' hm hm he
      exact ⟨rfl, he⟩
    | cons hb' hd' =>
      have hs' := hs' _ List.mem_cons_self
      have ho := ho _ List.mem_cons_self _ List.mem_cons_self
      exact absurd (ho.mark hs hs' hb hb' hd hd' hm rfl he).2.1 hne
  | cons hb hd _ ih =>
    rw [List.forall_mem_cons] at hs ho
    cases h' with
    | last hb' hd' =>
      have hs' := hs' _ List.mem_cons_self
      have ho := ho.1 _ List.mem_cons_self
      exact absurd (ho.mark hs.1 hs' hb hb' hd hd' rfl hm he).2.1.symm hne
    | cons hb' hd' h' =>
      have hp := ho.1 _ List.mem_cons_self
      rw [List.forall_mem_cons] at hs'
      obtain ⟨rfl, -, he⟩ := hp.mark hs.1 hs'.1 hb hb' hd hd' rfl rfl he
      obtain ⟨hx, rfl⟩ := ih h' hs.2 hs'.2
        (fun p hp p' hp' => ho.2 p hp p' (List.mem_cons_of_mem _ hp')) he
      rw [List.map_cons, List.map_cons, hx]
      exact ⟨rfl, rfl⟩

lemma IsRow.ne_mark (h : IsRow close t parts) (hs : ∀ p ∈ parts, BeginsPart p.1) (hb : IsBlanks b)
    (hc : isMark c = true) : b ++ c :: r ≠ t ++ r' := by
  have hpart : ∀ {b' s u : List Char}, IsBlanks b' → BeginsPart s →
      b ++ c :: r ≠ b' ++ (s ++ u) ++ r' := by
    rintro b' s u hb' ⟨d, s, rfl, hd, hm⟩ he
    rw [List.append_assoc, List.append_assoc] at he
    obtain ⟨rfl, -⟩ := hb.append_cons_inj hb' (isJsonBlank_of_isMark hc) hd he
    exact absurd hc (by simp [hm])
  cases h with
  | last hb' => exact hpart hb' (hs _ List.mem_cons_self)
  | cons hb' => exact hpart hb' (hs _ List.mem_cons_self)

lemma IsList.append_inj (hm : isMark close = true) (hne : close ≠ ',') (h : IsList close t parts)
    (h' : IsList close t' parts') (hs : ∀ p ∈ parts, BeginsPart p.1)
    (hs' : ∀ p ∈ parts', BeginsPart p.1) (ho : ∀ p ∈ parts, ∀ p' ∈ parts', OneWay p p')
    (he : t ++ r = t' ++ r') : parts.map Prod.snd = parts'.map Prod.snd ∧ r = r' := by
  cases h with
  | empty hb =>
    rw [List.append_assoc] at he
    cases h' with
    | empty hb' =>
      have hc := isJsonBlank_of_isMark hm
      rw [List.append_assoc] at he
      exact ⟨rfl, (hb.append_cons_inj hb' hc hc he).2⟩
    | row h' => exact absurd he (h'.ne_mark hs' hb hm)
  | row h =>
    cases h' with
    | empty hb' =>
      rw [List.append_assoc] at he
      exact absurd he.symm (h.ne_mark hs hb' hm)
    | row h' => exact h.append_inj hm hne h' hs hs' ho he

lemma IsScalar.oneWay (h : IsScalar round s j) (h' : IsScalar round s' j') :
    OneWay (s, j) (s', j') := by
  intro r r' hr hr' he
  have hk := (Denotes.scalar h).kind_eq (.scalar h') he
  cases h <;> cases h' <;> cases hk
  case null.null | yes.yes | no.no => exact ⟨rfl, List.append_cancel_left he⟩
  case number.number hn _ hn' =>
    obtain ⟨rfl, rfl⟩ := append_inj_of_all hn.isNumeralChar hn'.isNumeralChar hr hr' he
    exact ⟨congrArg Json.number (hn.unique hn'), rfl⟩
  case string.string hs _ hs' =>
    obtain ⟨rfl, rfl⟩ := hs.append_inj hs' he
    exact ⟨rfl, rfl⟩

lemma Denotes.beginsPart (h : Denotes round s j) : BeginsPart s := by
  obtain ⟨c, t, rfl, hc⟩ := h.exists_cons
  exact beginsPart_of_kindOf hc

lemma IsName.beginsPart {name : String} (h : IsName t name) : BeginsPart (t ++ s) := by
  obtain ⟨⟨-⟩⟩ := h
  exact ⟨_, _, rfl, by decide, by decide⟩

lemma IsName.append_inj {name name' : String} (h : IsName t name) (h' : IsName t' name')
    (hs : BeginsPart s) (hs' : BeginsPart s') (he : t ++ (s ++ r) = t' ++ (s' ++ r')) :
    name = name' ∧ s ++ r = s' ++ r' := by
  obtain ⟨hn, hb, hd⟩ := h
  obtain ⟨hn', hb', hd'⟩ := h'
  simp only [List.append_assoc, List.cons_append] at he
  obtain ⟨rfl, he⟩ := hn.append_inj hn' he
  obtain ⟨-, he⟩ := hb.append_cons_inj hb' (by decide) (by decide) he
  exact ⟨rfl, hd.cancel hd' hs hs' he⟩

lemma MemberText.oneWay {m m' : MemberText} (hn : IsName m.nameText m.name)
    (hn' : IsName m'.nameText m'.name) (hs : BeginsPart m.valueText)
    (hs' : BeginsPart m'.valueText)
    (ho : OneWay (m.valueText, m.value) (m'.valueText, m'.value)) : OneWay m.part m'.part := by
  intro r r' hr hr' he
  simp only [part, List.append_assoc] at he ⊢
  obtain ⟨hname, he⟩ := hn.append_inj hn' hs hs' he
  obtain ⟨hvalue, rfl⟩ := ho r r' hr hr' he
  exact ⟨Prod.ext hname hvalue, rfl⟩

lemma Denotes.oneWay (h : Denotes round s j) (h' : Denotes round s' j') :
    OneWay (s, j) (s', j') := by
  -- By induction on one reading: its first character tells how the other goes on.
  induction h generalizing s' j' with
  | scalar hs =>
    intro r r' hr hr' he
    have hk := (Denotes.scalar hs).kind_eq h' he
    cases h' with
    | scalar hs' => exact hs.oneWay hs' r r' hr hr' he
    | array | object => cases hs <;> cases hk
  | array hl hd ih =>
    intro r r' hr hr' he
    have hk := (Denotes.array hl hd).kind_eq h' he
    cases h' with
    | scalar hs' => cases hs' <;> cases hk
    | array hl' hd' =>
      obtain ⟨hx, rfl⟩ := hl.append_inj rfl (by decide) hl' (fun p hp => (hd p hp).beginsPart)
        (fun p hp => (hd' p hp).beginsPart) (fun p hp p' hp' => ih p hp (hd' p' hp'))
        (List.cons.inj he).2
      exact ⟨congrArg Json.array hx, rfl⟩
    | object => cases hk
  | object hl hn hd ih =>
    intro r r' hr hr' he
    have hk := (Denotes.object hl hn hd).kind_eq h' he
    cases h' with
    | scalar hs' => cases hs' <;> cases hk
    | array => cases hk
    | object hl' hn' hd' =>
      obtain ⟨hx, rfl⟩ := hl.append_inj rfl (by decide) hl'
        (List.forall_mem_map.mpr fun m hm => (hn m hm).beginsPart)
        (List.forall_mem_map.mpr fun m hm => (hn' m hm).beginsPart)
        (List.forall_mem_map.mpr fun m hm => List.forall_mem_map.mpr fun m' hm' =>
          MemberText.oneWay (hn m hm) (hn' m' hm') (hd m hm).beginsPart (hd' m' hm').beginsPart
            (ih m hm (hd' m' hm')))
        (List.cons.inj he).2
      exact ⟨congrArg Json.object hx, rfl⟩

lemma IsDocument.unique (h : IsDocument round t j) (h' : IsDocument round t j') : j = j' := by
  obtain ⟨b, s, e, hb, he, hd, rfl⟩ := h
  obtain ⟨b', s', e', hb', he', hd', heq⟩ := h'
  have hs := hb.cancel hb' hd.beginsPart hd'.beginsPart heq
  exact (hd.oneWay hd' e e' he.endsNumeral he'.endsNumeral hs).1

end Unique

end GuardedCalls.Json
