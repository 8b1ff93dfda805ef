import GuardedCalls.Proofs.Lexemes
import GuardedCalls.Proofs.Parentheses

/-! The text of an expression from left to right: an atom, and then suffixes that each make the
expression before them the first part of a larger one. Every suffix begins with a mark, and how
tightly the mark binds tells whether a suffix still belongs to the expression. -/

namespace GuardedCalls

open Text (pieces)

def reserved : List String :=
  ["true", "false", "null", "new", "instanceof"]

def isPlainName (name : String) : Bool :=
  isIdentifier name.toList && !reserved.contains name

def isPlainTypeName (name : String) : Bool :=
  (pieces '.' name.toList).all fun piece => isPlainName (String.ofList piece)

lemma isIdentifier_of_isPlainName {name : String} (hn : isPlainName name = true) :
    isIdentifier name.toList = true := by
  rw [isPlainName, Bool.and_eq_true] at hn
  exact hn.1

lemma notMem_reserved_of_isPlainName {name : String} (hn : isPlainName name = true) :
    name ∉ reserved := by
  rw [isPlainName, Bool.and_eq_true, Bool.not_eq_true', List.contains_eq_mem,
    decide_eq_false_iff_not] at hn
  exact hn.2

lemma isDottedPart_of_isPlainTypeName {name : String} (hn : isPlainTypeName name = true) :
    ∀ c ∈ name.toList, isDottedPart c = true := by
  rw [isPlainTypeName, List.all_eq_true] at hn
  apply isDottedPart_of_pieces
  intro p hp
  rw [← String.toList_ofList (l := p)]
  exact isIdentifier_of_isPlainName (hn p hp)

namespace Expr

def namesPlain : Expr → Bool
  | .ident name _ | .select _ name _ | .call _ name _ _ => isPlainName name
  | .typeTest _ type | .cast type _ | .construct type _ => isPlainTypeName type.name
  | .literal _ | .paren _ | .conditional .. | .binary .. => true

def Plain (e : Expr) : Prop :=
  ∀ s ∈ e.subexprs, s.namesPlain = true

instance (e : Expr) : Decidable e.Plain :=
  inferInstanceAs (Decidable (∀ s ∈ e.subexprs, s.namesPlain = true))

structure Legible (e : Expr) : Prop where
  plain : e.Plain
  wellParenthesized : e.WellParenthesized

lemma legible_iff {e : Expr} : e.Legible ↔
    e.namesPlain = true ∧ e.operandsFit = true ∧ ∀ s ∈ e.parts, s.Legible := by
  have hp : e.Plain ↔ e.namesPlain = true ∧ ∀ s ∈ e.parts, s.Plain := by
    simp only [Plain, subexprs_eq e, List.forall_mem_cons, List.forall_mem_flatMap]
  constructor
  · rintro ⟨h, hw⟩
    rw [hp] at h
    rw [wellParenthesized_iff] at hw
    exact ⟨h.1, hw.1, fun s hs => ⟨h.2 s hs, hw.2 s hs⟩⟩
  · rintro ⟨hn, ho, hs⟩
    exact ⟨hp.mpr ⟨hn, fun s h => (hs s h).plain⟩,
      wellParenthesized_iff.mpr ⟨ho, fun s h => (hs s h).wellParenthesized⟩⟩

end Expr

def TypeRef.untyped (t : TypeRef) : TypeRef :=
  ⟨t.name, none⟩

mutual
def Expr.untyped : Expr → Expr
  | .ident name _ => .ident name none
  | .select target name _ => .select target.untyped name none
  | .call receiver name arguments _ =>
    .call (Expr.untypedReceiver receiver) name (Expr.untypedList arguments) none
  | .literal value => .literal value
  | .typeTest operand type => .typeTest operand.untyped type.untyped
  | .cast type operand => .cast type.untyped operand.untyped
  | .paren inner => .paren inner.untyped
  | .conditional test yes no _ => .conditional test.untyped yes.untyped no.untyped none
  | .construct type arguments => .construct type.untyped (Expr.untypedList arguments)
  | .binary left op right _ => .binary left.untyped op right.untyped none

def Expr.untypedReceiver : Option Expr → Option Expr
  | none => none
  | some receiver => some receiver.untyped

def Expr.untypedList : List Expr → List Expr
  | [] => []
  | e :: es => e.untyped :: Expr.untypedList es
end

mutual
theorem Expr.source_untyped : ∀ e : Expr, e.untyped.source = e.source
  | .ident .. => by simp [Expr.untyped, Expr.source]
  | .select target _ _ => by simp [Expr.untyped, Expr.source, Expr.source_untyped target]
  | .call receiver _ arguments _ => by
    simp [Expr.untyped, Expr.source, Expr.receiverSource_untyped receiver,
      Expr.listSource_untyped arguments]
  | .literal _ => by simp [Expr.untyped]
  | .typeTest operand _ => by
    simp [Expr.untyped, Expr.source, TypeRef.untyped, Expr.source_untyped operand]
  | .cast _ operand => by
    simp [Expr.untyped, Expr.source, TypeRef.untyped, Expr.source_untyped operand]
  | .paren inner => by simp [Expr.untyped, Expr.source, Expr.source_untyped inner]
  | .conditional test yes no _ => by
    simp [Expr.untyped, Expr.source, Expr.source_untyped test, Expr.source_untyped yes,
      Expr.source_untyped no]
  | .construct _ arguments => by
    simp [Expr.untyped, Expr.source, TypeRef.untyped, Expr.listSource_untyped arguments]
  | .binary left _ right _ => by
    simp [Expr.untyped, Expr.source, Expr.source_untyped left, Expr.source_untyped right]

theorem Expr.receiverSource_untyped :
    ∀ receiver, Expr.receiverSource (Expr.untypedReceiver receiver) = Expr.receiverSource receiver
  | none => rfl
  | some receiver => by
    simp [Expr.untypedReceiver, Expr.receiverSource, Expr.source_untyped receiver]

theorem Expr.listSource_untyped :
    ∀ es, Expr.listSource (Expr.untypedList es) = Expr.listSource es
  | [] => rfl
  | [e] => by simp [Expr.untypedList, Expr.listSource, Expr.source_untyped e]
  | e :: f :: es => by
    have hes := Expr.listSource_untyped (f :: es)
    simp only [Expr.untypedList] at hes
    simp [Expr.untypedList, Expr.listSource, Expr.source_untyped e, hes]
end

inductive Mark
  | close
  | comma
  | colon
  | question
  | operator (op : Operator)
  | typeTest
  | dot
  deriving DecidableEq

namespace Mark

def all : List Mark :=
  [.close, .comma, .colon, .question, .typeTest, .dot] ++ Operator.all.map .operator

lemma mem_all (m : Mark) : m ∈ all := by
  cases m with
  | operator op => cases op <;> decide
  | _ => decide

def source : Mark → String
  | .close => ")"
  | .comma => ", "
  | .colon => " : "
  | .question => " ? "
  | .operator op => " " ++ op.token ++ " "
  | .typeTest => " instanceof "
  | .dot => "."

def text (m : Mark) : List Char :=
  m.source.toList

def level : Mark → Nat
  | .close | .comma | .colon | .question => 0
  | .operator op => op.level
  | .typeTest => 4
  | .dot => 7

/-- One more than the least level of an expression that a suffix with the mark can follow, and zero
for the marks that begin no suffix. -/
def rank : Mark → Nat
  | .close | .comma | .colon => 0
  | .question => 2
  | .operator op => op.level + 1
  | .typeTest => 5
  | .dot => 8

variable {m m' : Mark} {t t' : List Char}

lemma append_inj (h : m.text ++ t = m'.text ++ t') : m = m' ∧ t = t' := by
  have hfree : ∀ m ∈ all, ∀ m' ∈ all, m.text <+: m'.text → m = m' := by decide +kernel
  have hm : m.text <+: m'.text ++ t' := ⟨t, h⟩
  have hmm : m = m' := by
    rcases List.prefix_or_prefix_of_prefix hm (List.prefix_append m'.text t') with h | h
    · exact hfree m m.mem_all m' m'.mem_all h
    · exact (hfree m' m'.mem_all m m.mem_all h).symm
  subst hmm
  exact ⟨rfl, List.append_cancel_left h⟩

lemma exists_cons (m : Mark) :
    ∃ c s, m.text = c :: s ∧ c ∈ [')', ',', ' ', '.'] ∧ (c = '.' → m = .dot) := by
  cases m with
  | operator op =>
    exact ⟨' ', op.token.toList ++ [' '], by simp [text, source], by decide, by simp⟩
  | _ => exact ⟨_, _, rfl, by decide, by decide⟩

end Mark

def Behind (rank : Nat) (r : List Char) : Prop :=
  ∃ m : Mark, ∃ t, r = m.text ++ t ∧ m.rank ≤ rank

namespace Behind

variable {k k' : Nat} {r : List Char}

lemma close (k : Nat) (t : List Char) : Behind k (Mark.close.text ++ t) :=
  ⟨.close, t, rfl, Nat.zero_le k⟩

lemma mono (hr : Behind k r) (hk : k ≤ k') : Behind k' r := by
  obtain ⟨m, t, rfl, hm⟩ := hr
  exact ⟨m, t, rfl, hm.trans hk⟩

-- No mark is of rank 1, and none of rank 7.
lemma zero_of_one (hr : Behind 1 r) : Behind 0 r := by
  obtain ⟨m, t, rfl, hm⟩ := hr
  refine ⟨m, t, rfl, ?_⟩
  cases m with
  | operator op => cases op <;> simp [Mark.rank, Operator.level] at hm
  | _ => simp [Mark.rank] at hm ⊢

lemma six_of_seven (hr : Behind 7 r) : Behind 6 r := by
  obtain ⟨m, t, rfl, hm⟩ := hr
  refine ⟨m, t, rfl, ?_⟩
  cases m with
  | operator op => cases op <;> simp [Mark.rank, Operator.level]
  | _ => simp [Mark.rank] at hm ⊢

lemma exists_cons (hr : Behind k r) :
    ∃ c s, r = c :: s ∧ c ∈ [')', ',', ' ', '.'] ∧ (c = '.' → 8 ≤ k) := by
  obtain ⟨m, t, rfl, hk⟩ := hr
  obtain ⟨c, s, hm, hc, hdot⟩ := m.exists_cons
  refine ⟨c, s ++ t, by rw [hm, List.cons_append], hc, fun h => ?_⟩
  rwa [hdot h] at hk

lemma endsWord (hr : Behind k r) : EndsWord r := by
  obtain ⟨c, s, rfl, hc, -⟩ := hr.exists_cons
  intro d hd
  obtain rfl := Option.some.inj hd
  simp only [List.mem_cons, List.not_mem_nil, or_false] at hc
  rcases hc with rfl | rfl | rfl | rfl <;> decide

lemma ne_paren (hr : Behind k r) (t : List Char) : r ≠ '(' :: t := by
  obtain ⟨c, s, rfl, hc, -⟩ := hr.exists_cons
  rintro h
  rw [(List.cons.inj h).1] at hc
  exact absurd hc (by decide)

lemma not_isDottedPart (hr : Behind 7 r) : ∀ c ∈ r.head?, isDottedPart c = false := by
  intro c hc
  have hp := (hr.endsWord c hc).1
  obtain ⟨d, s, rfl, -, hdot⟩ := hr.exists_cons
  obtain rfl := Option.some.inj hc
  have hd : d ≠ '.' := fun h => absurd (hdot h) (by decide)
  simp [isDottedPart, hp, hd]

end Behind

def Expr.text (e : Expr) : List Char :=
  e.source.toList

def Expr.moreText (es : List Expr) : List Char :=
  es.flatMap fun e => Mark.comma.text ++ e.text

lemma Expr.listSource_cons (e : Expr) (es : List Expr) :
    (Expr.listSource (e :: es)).toList = e.text ++ Expr.moreText es := by
  induction es generalizing e with
  | nil => simp [Expr.listSource, Expr.text, Expr.moreText]
  | cons f es ih =>
    simp [Expr.listSource, Expr.text, ih f, Expr.moreText, Mark.text, Mark.source]

def argumentsText : Option (List Expr) → List Char
  | none => []
  | some es => '(' :: ((Expr.listSource es).toList ++ Mark.close.text)

inductive Atom
  | named (name : String) (arguments : Option (List Expr))
  | literal (value : Literal)
  | cast (type : String) (operand : Expr)
  | paren (inner : Expr)
  | construct (type : String) (arguments : List Expr)

def Literal.lead : Literal → Lead
  | .string value => .quoted '"' value.toList
  | .int value => .number value
  | .bool value => .word (if value then "true" else "false")
  | .char value => .quoted '\'' [value]
  | .null => .word "null"

lemma Literal.toList_source (value : Literal) : value.source.toList = value.lead.text := by
  cases value <;> simp [Literal.source, Literal.lead, Lead.text, quote, number]

namespace Atom

def untyped : Atom → Expr
  | .named name none => .ident name none
  | .named name (some arguments) => .call none name (Expr.untypedList arguments) none
  | .literal value => .literal value
  | .cast type operand => .cast ⟨type, none⟩ operand.untyped
  | .paren inner => .paren inner.untyped
  | .construct type arguments => .construct ⟨type, none⟩ (Expr.untypedList arguments)

def level : Atom → Nat
  | .cast .. => 6
  | _ => 7

def lead : Atom → Lead
  | .named name _ => .word name
  | .literal value => value.lead
  | .cast .. | .paren _ => .paren
  | .construct .. => .word "new"

def tail : Atom → List Char
  | .named _ arguments => argumentsText arguments
  | .literal _ => []
  | .cast type operand => type.toList ++ (Mark.close.text ++ ' ' :: operand.text)
  | .paren inner => inner.text ++ Mark.close.text
  | .construct type arguments => ' ' :: (type.toList ++ argumentsText (some arguments))

def Legible : Atom → Prop
  | .named name arguments => isPlainName name = true ∧ ∀ e ∈ arguments.getD [], e.Legible
  | .literal _ => True
  | .cast type operand => isPlainTypeName type = true ∧ operand.Legible ∧ 6 ≤ operand.level
  | .paren inner => inner.Legible
  | .construct type arguments => isPlainTypeName type = true ∧ ∀ e ∈ arguments, e.Legible

end Atom

inductive Suffix
  | member (name : String) (arguments : Option (List Expr))
  | typeTest (type : String)
  | choice (yes no : Expr)
  | operation (op : Operator) (right : Expr)

namespace Suffix

def apply (e : Expr) : Suffix → Expr
  | .member name none => .select e name none
  | .member name (some arguments) => .call (some e) name (Expr.untypedList arguments) none
  | .typeTest type => .typeTest e ⟨type, none⟩
  | .choice yes no => .conditional e yes.untyped no.untyped none
  | .operation op right => .binary e op right.untyped none

def mark : Suffix → Mark
  | .member .. => .dot
  | .typeTest _ => .typeTest
  | .choice .. => .question
  | .operation op _ => .operator op

def body : Suffix → List Char
  | .member name arguments => name.toList ++ argumentsText arguments
  | .typeTest type => type.toList
  | .choice yes no => yes.text ++ (Mark.colon.text ++ no.text)
  | .operation _ right => right.text

def text (s : Suffix) : List Char :=
  s.mark.text ++ s.body

def Legible : Suffix → Prop
  | .member name arguments => isPlainName name = true ∧ ∀ e ∈ arguments.getD [], e.Legible
  | .typeTest type => isPlainTypeName type = true
  | .choice yes no => yes.Legible ∧ no.Legible
  | .operation op right => right.Legible ∧ op.level < right.level

lemma level_mark_lt (s : Suffix) : s.mark.level < s.mark.rank := by
  cases s <;> simp [mark, Mark.level, Mark.rank]

end Suffix

def Chained (k : Nat) : Nat → List Suffix → Prop
  | l, [] => k ≤ l
  | l, s :: ss => k < s.mark.rank ∧ s.mark.rank ≤ l + 1 ∧ Chained k s.mark.level ss

namespace Chained

variable {k k' l : Nat} {ss : List Suffix}

lemma anti (hs : Chained k l ss) (hk : k' ≤ k) : Chained k' l ss := by
  induction ss generalizing l with
  | nil => exact hk.trans hs
  | cons s ss ih => exact ⟨hk.trans_lt hs.1, hs.2.1, ih hs.2.2⟩

lemma snoc (hs : Chained k l ss) {s : Suffix} (hk : s.mark.rank ≤ k + 1) :
    Chained s.mark.level l (ss ++ [s]) := by
  have hlt := s.level_mark_lt
  induction ss generalizing l with
  | nil =>
    have hl : k ≤ l := hs
    exact ⟨hlt, by omega, le_rfl⟩
  | cons t ss ih =>
    have ht := hs.1
    exact ⟨by omega, hs.2.1, ih hs.2.2⟩

lemma behind (hs : Chained k l ss) {r : List Char} (hr : Behind k r) :
    Behind (l + 1) (ss.flatMap Suffix.text ++ r) := by
  cases ss with
  | nil =>
    have hl : k ≤ l := hs
    exact hr.mono (by omega)
  | cons s ss =>
    refine ⟨s.mark, s.body ++ (ss.flatMap Suffix.text ++ r), ?_, hs.2.1⟩
    rw [List.flatMap_cons, Suffix.text, List.append_assoc, List.append_assoc]

end Chained

namespace Expr

def split : Expr → Atom ⊕ Expr × Suffix
  | .ident name _ => .inl (.named name none)
  | .select target name _ => .inr (target, .member name none)
  | .call none name arguments _ => .inl (.named name (some arguments))
  | .call (some receiver) name arguments _ => .inr (receiver, .member name (some arguments))
  | .literal value => .inl (.literal value)
  | .typeTest operand type => .inr (operand, .typeTest type.name)
  | .cast type operand => .inl (.cast type.name operand)
  | .paren inner => .inl (.paren inner)
  | .conditional test yes no _ => .inr (test, .choice yes no)
  | .construct type arguments => .inl (.construct type.name arguments)
  | .binary left op right _ => .inr (left, .operation op right)

variable {e t : Expr} {a : Atom} {ss : List Suffix} {s : Suffix}

lemma untyped_of_split_inl (h : e.split = .inl a) : e.untyped = a.untyped := by
  revert h
  fun_cases split e <;> rintro ⟨⟩ <;>
    simp [Expr.untyped, Atom.untyped, TypeRef.untyped, untypedReceiver]

lemma text_of_split_inl (h : e.split = .inl a) : e.text = a.lead.text ++ a.tail := by
  revert h
  fun_cases split e <;> rintro ⟨⟩ <;>
    simp [text, source, receiverSource, Literal.toList_source, Atom.lead, Lead.text, Atom.tail,
      argumentsText, Mark.text, Mark.source]

lemma level_of_split_inl (h : e.split = .inl a) : e.level = a.level := by
  revert h
  fun_cases split e <;> rintro ⟨⟩ <;> rfl

lemma Legible.atom (he : e.Legible) (h : e.split = .inl a) : a.Legible := by
  obtain ⟨hn, ho, hp⟩ := legible_iff.mp he
  revert hn ho hp h
  fun_cases split e <;> rintro ⟨⟩ <;>
    simp_all [namesPlain, operandsFit, parts, Atom.Legible]

lemma mem_parts_of_split_inr (h : e.split = .inr (t, s)) : t ∈ e.parts := by
  revert h
  fun_cases split e <;> rintro ⟨⟩ <;> simp [parts]

lemma untyped_of_split_inr (h : e.split = .inr (t, s)) : e.untyped = s.apply t.untyped := by
  revert h
  fun_cases split e <;> rintro ⟨⟩ <;>
    simp [Expr.untyped, Suffix.apply, TypeRef.untyped, untypedReceiver]

lemma text_of_split_inr (h : e.split = .inr (t, s)) : e.text = t.text ++ s.text := by
  revert h
  fun_cases split e <;> rintro ⟨⟩ <;>
    simp [text, source, receiverSource, Suffix.text, Suffix.mark, Suffix.body, argumentsText,
      Mark.text, Mark.source]

lemma level_of_split_inr (h : e.split = .inr (t, s)) : e.level = s.mark.level := by
  revert h
  fun_cases split e <;> rintro ⟨⟩ <;> rfl

lemma Legible.suffix (he : e.Legible) (h : e.split = .inr (t, s)) :
    s.Legible ∧ s.mark.rank ≤ t.level + 1 := by
  obtain ⟨hn, ho, hp⟩ := legible_iff.mp he
  revert hn ho hp h
  fun_cases split e <;> rintro ⟨⟩ <;>
    simp_all [namesPlain, operandsFit, parts, Suffix.Legible, Suffix.mark, Mark.rank]

structure Spine (e : Expr) (a : Atom) (ss : List Suffix) : Prop where
  untyped : e.untyped = ss.foldl Suffix.apply a.untyped
  text : e.text = a.lead.text ++ (a.tail ++ ss.flatMap Suffix.text)
  atom : a.Legible
  suffixes : ∀ s ∈ ss, s.Legible
  chained : Chained e.level a.level ss

lemma Legible.spine (he : e.Legible) (h : e.split = .inl a) : e.Spine a [] where
  untyped := untyped_of_split_inl h
  text := by rw [text_of_split_inl h, List.flatMap_nil, List.append_nil]
  atom := he.atom h
  suffixes := by simp
  chained := (level_of_split_inl h).le

lemma Spine.snoc (ht : t.Spine a ss) (he : e.Legible) (h : e.split = .inr (t, s)) :
    e.Spine a (ss ++ [s]) where
  untyped := by
    rw [untyped_of_split_inr h, ht.untyped, List.foldl_append, List.foldl_cons, List.foldl_nil]
  text := by simp [text_of_split_inr h, ht.text]
  atom := ht.atom
  suffixes := by
    intro x hx
    rcases List.mem_append.mp hx with hx | hx
    · exact ht.suffixes x hx
    · rw [List.mem_singleton.mp hx]
      exact (he.suffix h).1
  chained := by
    rw [level_of_split_inr h]
    exact ht.chained.snoc (he.suffix h).2

theorem Legible.exists_spine (he : e.Legible) : ∃ a ss, e.Spine a ss := by
  induction e using parts_induction with
  | step e ih =>
    cases h : e.split with
    | inl a => exact ⟨a, [], he.spine h⟩
    | inr first =>
      obtain ⟨t, s⟩ := first
      have ht := mem_parts_of_split_inr h
      obtain ⟨a, ss, hs⟩ := ih t ht ((legible_iff.mp he).2.2 t ht)
      exact ⟨a, ss ++ [s], hs.snoc he h⟩

end Expr

end GuardedCalls
