import GuardedCalls.Proofs.MethodPatterns
import Mathlib.Data.List.DropRight

/-! The two notations of a method pattern, with `#` or with a blank between owner and method. Both are
cut into the same parts, and what is read from the parts does not depend on the notation. -/

namespace GuardedCalls

open Text (trim trimEnd cutFirst cutLast isBlank)
open Pattern (Cause)
open TypePattern (Spells)

namespace Text

variable {s t : List Char} {c : Char}

lemma trimEnd_of_getLast? (hs : ∀ c ∈ s.getLast?, isBlank c = false) : trimEnd s = s := by
  have h := trimEnd_append (t := []) hs nofun
  rwa [List.append_nil] at h

lemma trim_dropWhile (s : List Char) : trim (s.dropWhile isBlank) = trim s := by
  rw [trim, List.dropWhile_idempotent, trim]

lemma trim_eq_dropWhile (hs : s.getLast? = some c) (hc : isBlank c = false) :
    trim s = s.dropWhile isBlank := by
  apply trimEnd_of_getLast?
  intro d hd
  obtain ⟨blanks, hb⟩ := List.dropWhile_suffix isBlank (l := s)
  have hne : s.dropWhile isBlank ≠ [] := by
    intro hn
    simp [hn] at hd
  rw [← hb, List.getLast?_append_of_ne_nil _ hne] at hs
  obtain rfl : c = d := Option.some.inj (hs.symm.trans hd)
  exact hc

lemma trim_of_forall (hs : ∀ c ∈ s, isBlank c = false) : trim s = s := by
  cases s with
  | nil => rfl
  | cons c s =>
    rw [trim, List.dropWhile_cons_of_neg (by simp [hs c List.mem_cons_self])]
    exact trimEnd_of_getLast? fun d hd => hs d (List.mem_of_getLast? hd)

lemma trim_append_concat (hs : s.getLast? = some c) (hc : isBlank c = false) {d : Char}
    (hd : isBlank d = false) : trim (s ++ (t ++ [d])) = trim s ++ (t ++ [d]) := by
  have hlast : (s ++ (t ++ [d])).getLast? = some d := by
    rw [← List.append_assoc, List.getLast?_concat]
  have hne : (s.dropWhile isBlank).isEmpty = false := by
    rw [List.isEmpty_eq_false_iff, ne_eq, List.dropWhile_eq_nil_iff]
    intro h
    simpa [hc] using h c (List.mem_of_getLast? hs)
  rw [trim_eq_dropWhile hlast hd, List.dropWhile_append, hne, trim_eq_dropWhile hs hc]
  rfl

lemma mem_of_mem_trim (hc : c ∈ trim s) : c ∈ s := by
  obtain ⟨blanks, hb, -⟩ := eq_trimEnd_append (s.dropWhile isBlank)
  have hd : c ∈ s.dropWhile isBlank := by
    rw [hb]
    exact List.mem_append_left blanks hc
  exact (List.dropWhile_sublist isBlank).subset hd

end Text

namespace MethodPattern

def IsPart (text : List Char) : Prop :=
  ∀ c ∈ text, c ≠ '#' ∧ c ≠ '(' ∧ c ≠ ')'

instance (text : List Char) : Decidable (IsPart text) :=
  List.decidableBAll _ text

variable {owner method arguments : List Char}

lemma IsPart.count_open (h : IsPart owner) : owner.count '(' = 0 :=
  List.count_eq_zero.mpr fun hm => (h '(' hm).2.1 rfl

lemma IsPart.count_close (h : IsPart owner) : owner.count ')' = 0 :=
  List.count_eq_zero.mpr fun hm => (h ')' hm).2.2 rfl

lemma IsPart.hash_notMem (h : IsPart owner) : '#' ∉ owner :=
  fun hm => (h '#' hm).1 rfl

lemma splitHead_of_cuts {head before after : List Char} (h : Cuts head before after) :
    splitHead head = (trim before, trim after) := by
  rw [splitHead]
  rcases cuts_iff.mp h with hc | ⟨hn, hc⟩
  · rw [hc]
  · rw [hn, hc]

lemma splitHead_of_notMem {head : List Char} (hh : '#' ∉ head)
    (hb : ∀ c ∈ head, isBlank c = false) : splitHead head = ([], head) := by
  have hf : cutFirst (· = '#') head = none := by
    rw [Text.cutFirst_eq_none_iff]
    intro c hc
    rw [decide_eq_false_iff_not]
    rintro rfl
    exact hh hc
  rw [splitHead, hf, Text.cutLast_eq_none_iff.mpr hb, Text.trim_of_forall hb]

lemma getLast?_append_sign (owner : List Char) (sign : Char) (hn : method ≠ []) :
    (owner ++ sign :: method).getLast? = some (method.getLast hn) := by
  rw [List.append_cons, List.getLast?_append, List.getLast?_eq_some_getLast hn]
  rfl

lemma trim_append_sign (owner : List Char) (sign : Char) (hn : method ≠ [])
    (hb : ∀ c ∈ method, isBlank c = false) :
    trim (owner ++ sign :: method) = (owner ++ sign :: method).dropWhile isBlank :=
  Text.trim_eq_dropWhile (getLast?_append_sign owner sign hn) (hb _ (List.getLast_mem hn))

lemma splitHead_trim {sign : Char} (hs : sign = '#' ∨ isBlank sign = true) (ho : IsPart owner)
    (hm : IsPart method) (hn : method ≠ []) (hb : ∀ c ∈ method, isBlank c = false) :
    splitHead (trim (owner ++ sign :: method)) = (trim owner, method) := by
  have ho' : '#' ∉ owner.dropWhile isBlank :=
    fun h => ho.hash_notMem ((List.dropWhile_sublist isBlank).subset h)
  have hcut : splitHead (owner.dropWhile isBlank ++ '#' :: method) = (trim owner, method) := by
    rw [splitHead_of_cuts (.inl ⟨rfl, ho'⟩), Text.trim_dropWhile, Text.trim_of_forall hb]
  rw [trim_append_sign owner sign hn hb, List.dropWhile_append]
  split
  · rename_i hempty
    rw [List.isEmpty_iff] at hempty
    rcases hs with rfl | hs
    · rw [hempty] at hcut
      rw [List.dropWhile_cons_of_neg (by decide)]
      exact hcut
    · -- the blank is trimmed with the owner, and no cut is left
      obtain ⟨c, rest, rfl⟩ := List.exists_cons_of_ne_nil hn
      have hc : isBlank c = false := hb c List.mem_cons_self
      rw [List.dropWhile_cons_of_pos hs, List.dropWhile_cons_of_neg (by simp [hc]),
        splitHead_of_notMem hm.hash_notMem hb, trim, hempty]
      rfl
  · rcases hs with rfl | hs
    · exact hcut
    · have hhash : '#' ∉ owner.dropWhile isBlank ++ sign :: method := by
        rw [List.mem_append, List.mem_cons, not_or, not_or]
        refine ⟨ho', ?_, hm.hash_notMem⟩
        rintro rfl
        exact absurd hs (by decide)
      rw [splitHead_of_cuts (.inr ⟨hhash, sign, hs, rfl, hb⟩), Text.trim_dropWhile,
        Text.trim_of_forall hb]

lemma splitArguments_written {sign : Char} (hs : sign = '#' ∨ isBlank sign = true)
    (ho : IsPart owner) (hm : IsPart method) (ha : IsPart arguments) :
    splitArguments (trim (owner ++ sign :: method) ++ '(' :: (arguments ++ [')'])) =
      .ok (trim (owner ++ sign :: method), arguments) := by
  have hsign : sign ≠ '(' ∧ sign ≠ ')' := by
    constructor <;> rintro rfl <;> exact absurd hs (by decide)
  have hhead : ∀ c ∈ trim (owner ++ sign :: method), c ≠ '(' ∧ c ≠ ')' := by
    intro c hc
    rcases List.mem_append.mp (Text.mem_of_mem_trim hc) with hc | hc
    · exact (ho c hc).2
    · rcases List.mem_cons.mp hc with rfl | hc
      · exact hsign
      · exact (hm c hc).2
  have hopen : (trim (owner ++ sign :: method)).count '(' = 0 :=
    List.count_eq_zero.mpr fun h => (hhead _ h).1 rfl
  have hclose : (trim (owner ++ sign :: method)).count ')' = 0 :=
    List.count_eq_zero.mpr fun h => (hhead _ h).2 rfl
  refine splitArguments_eq_ok_iff.mpr ⟨?_, ?_, rfl⟩
  · simp [hopen, ha.count_open]
  · simp [hclose, ha.count_close]

def readParts (text : String) (owner method arguments : List Char) :
    Except Cause MethodPattern := do
  if owner.isEmpty || method.isEmpty then .error .missingMethodName
  let method ← parseMethodName method
  let owner ← TypePattern.parse owner
  let arguments ← ArgumentPattern.parseList arguments
  return { text, owner, method, arguments }

lemma parseTrimmed_eq_readParts {text head : List Char}
    (hs : splitArguments text = .ok (head, arguments)) (hh : splitHead (trim head) = (owner, method)) :
    parseTrimmed text = readParts (String.ofList text) owner method arguments := by
  have hne : ¬ text.isEmpty = true := by
    cases text with
    | nil => exact nomatch hs
    | cons => simp
  rw [parseTrimmed, if_neg hne, hs]
  change readParts (String.ofList text) (splitHead (trim head)).1 (splitHead (trim head)).2 arguments = _
  rw [hh]

lemma readParts_eq_map (text text' : String) (owner method arguments : List Char) :
    readParts text owner method arguments =
      (readParts text' owner method arguments).map ({ · with text }) := by
  simp only [readParts]
  split
  · rfl
  · cases parseMethodName method with
    | error => rfl
    | ok =>
      cases TypePattern.parse owner with
      | error => rfl
      | ok => cases ArgumentPattern.parseList arguments <;> rfl

lemma exists_readParts_iff (text : String) (hn : method ≠ []) :
    (∃ p, readParts text owner method arguments = .ok p) ↔
      IsMethodName method ∧ (∃ items, Spells items owner) ∧ IsArgumentList (trim arguments) := by
  obtain ⟨cs, rfl⟩ : ∃ cs, text = String.ofList cs := ⟨text.toList, String.ofList_toList.symm⟩
  rw [readParts]
  split
  · rename_i hempty
    have ho : owner = [] := by simpa [hn] using hempty
    constructor
    · rintro ⟨p, hp⟩
      exact nomatch hp
    · rintro ⟨-, ⟨items, hs⟩, -⟩
      exact absurd ho hs.ne_nil
  · exact exists_fields_iff

lemma parse_written {sign : Char} (hs : sign = '#' ∨ isBlank sign = true)
    (ho : IsPart owner) (hm : IsPart method) (ha : IsPart arguments) (hn : method ≠ [])
    (hb : ∀ c ∈ method, isBlank c = false) {s : String}
    (h : s.toList = owner ++ sign :: method ++ '(' :: (arguments ++ [')'])) :
    ∃ text, MethodPattern.parse s =
      (readParts text (trim owner) method arguments).mapError (⟨text, ·⟩) := by
  refine ⟨String.ofList (trim s.toList), ?_⟩
  have hlast := hb _ (List.getLast_mem hn)
  have ht : trim s.toList = trim (owner ++ sign :: method) ++ '(' :: (arguments ++ [')']) := by
    rw [h]
    exact Text.trim_append_concat (t := '(' :: arguments) (getLast?_append_sign owner sign hn) hlast
      (by decide)
  have htrim : trim (trim (owner ++ sign :: method)) = trim (owner ++ sign :: method) := by
    rw [trim_append_sign owner sign hn hb, Text.trim_dropWhile, trim_append_sign owner sign hn hb]
  have hh := splitHead_trim hs ho hm hn hb
  rw [← htrim] at hh
  have hp := parseTrimmed_eq_readParts (splitArguments_written hs ho hm ha) hh
  rw [← ht] at hp
  rw [MethodPattern.parse, hp]

/-- Both texts are read, as patterns that accept the same methods, or neither is, for one cause. -/
def SameReading : Except Error MethodPattern → Except Error MethodPattern → Prop
  | .ok p, .ok q => ∀ s, p.accepts s = q.accepts s
  | .error e, .error e' => e.cause = e'.cause
  | _, _ => False

lemma sameReading_readParts (text text' : String) (owner method arguments : List Char) :
    SameReading ((readParts text owner method arguments).mapError (⟨text, ·⟩))
      ((readParts text' owner method arguments).mapError (⟨text', ·⟩)) := by
  rw [readParts_eq_map text text']
  cases readParts text' owner method arguments with
  | ok p => exact fun s => rfl
  | error cause => rfl

lemma exists_mapError_iff {ε ε' α : Type} {x : Except ε α} {f : ε → ε'} :
    (∃ a, x.mapError f = .ok a) ↔ ∃ a, x = .ok a := by
  cases x <;> simp [Except.mapError]

/-- With `#` or with a blank: the two texts are read, as patterns that accept the same methods, if
each part is what it has to be, and are refused for the same cause otherwise. -/
theorem parse_notations_agree {o m a : String} (ho : IsPart o.toList) (hm : IsPart m.toList)
    (ha : IsPart a.toList) (hn : m ≠ "") (hb : ∀ c ∈ m.toList, isBlank c = false) :
    let hash := MethodPattern.parse (o ++ "#" ++ m ++ "(" ++ a ++ ")")
    let blank := MethodPattern.parse (o ++ " " ++ m ++ "(" ++ a ++ ")")
    SameReading hash blank ∧
      ((∃ p, hash = .ok p) ↔ IsMethodName m.toList ∧ (∃ items, Spells items (trim o.toList)) ∧
        IsArgumentList (trim a.toList)) := by
  intro hash blank
  have hn' : m.toList ≠ [] := by simpa using hn
  have hhash : (o ++ "#" ++ m ++ "(" ++ a ++ ")").toList =
      o.toList ++ '#' :: m.toList ++ '(' :: (a.toList ++ [')']) := by
    simp
  have hblank : (o ++ " " ++ m ++ "(" ++ a ++ ")").toList =
      o.toList ++ ' ' :: m.toList ++ '(' :: (a.toList ++ [')']) := by
    simp
  obtain ⟨text, ht⟩ := parse_written (.inl rfl) ho hm ha hn' hb hhash
  obtain ⟨text', ht'⟩ := parse_written (.inr (by decide)) ho hm ha hn' hb hblank
  have hh : hash = _ := ht
  have hk : blank = _ := ht'
  rw [hh, hk]
  refine ⟨sameReading_readParts text text' _ _ _, ?_⟩
  rw [exists_mapError_iff, exists_readParts_iff text hn']

theorem parse_notations_agree_blanks :
    let accepted (s : String) : Bool := (MethodPattern.parse s).toOption.isSome
    IsPart " a..* ".toList ∧ IsPart "get".toList ∧ IsPart " int , .. ".toList ∧
      SameReading (MethodPattern.parse " a..* #get( int , .. )")
        (MethodPattern.parse " a..*  get( int , .. )") ∧
      accepted " a..* #get( int , .. )" = true ∧
      SameReading (MethodPattern.parse " #get()") (MethodPattern.parse "  get()") ∧
      accepted " #get()" = false := by
  intro accepted
  have ho : IsPart " a..* ".toList := by decide
  have hm : IsPart "get".toList := by decide
  have ha : IsPart " int , .. ".toList := by decide
  have hb : ∀ c ∈ "get".toList, isBlank c = false := by
    simp only [String.reduceToList, List.forall_mem_cons, List.not_mem_nil, false_imp_iff,
      implies_true]
    decide
  have hread := parse_notations_agree ho hm ha (by decide) hb
  have hmissing := parse_notations_agree (o := " ") (a := "") (by decide) hm
    (by decide) (by decide) hb
  exact ⟨ho, hm, ha, hread.1, by decide +kernel, hmissing.1, by decide +kernel⟩

end MethodPattern

end GuardedCalls
