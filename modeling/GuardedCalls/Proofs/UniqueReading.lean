import GuardedCalls.Proofs.Occurrence
import GuardedCalls.Proofs.Spines

/-! The source text of an expression can be read in one way only: plain, well parenthesized
expressions with the same text differ at most in what resolution found. -/

namespace GuardedCalls

open Text (pieces)

variable {k : Nat} {r t : List Char}

lemma endsWord_cons {c : Char} {s : List Char} (hc : isIdentifierPart c = false) (hm : c ≠ '-') :
    EndsWord (c :: s) := by
  intro d hd
  obtain rfl := Option.some.inj hd
  exact ⟨hc, hm⟩

lemma endsWord_argumentsText (hr : Behind k r) (arguments : Option (List Expr)) :
    EndsWord (argumentsText arguments ++ r) := by
  cases arguments with
  | none => exact hr.endsWord
  | some es => exact endsWord_cons (by decide) (by decide)

lemma Literal.lead_before (value : Literal) (hr : EndsWord r) : value.lead.Before r := by
  cases value with
  | string value => exact .inl rfl
  | int value => exact hr
  | bool value => exact ⟨by cases value <;> decide, hr⟩
  | char value => exact .inr rfl
  | null => exact ⟨by decide, hr⟩

namespace Atom

variable {a : Atom}

lemma lead_before (ha : a.Legible) (hr : Behind k r) : a.lead.Before (a.tail ++ r) := by
  cases a with
  | named name arguments =>
    exact ⟨isIdentifier_of_isPlainName ha.1, endsWord_argumentsText hr arguments⟩
  | literal value => exact value.lead_before hr.endsWord
  | cast | paren => trivial
  | construct => exact ⟨by decide, endsWord_cons (by decide) (by decide)⟩

lemma lead_ne_instanceof (ha : a.Legible) : a.lead ≠ .word "instanceof" := by
  cases a with
  | named name arguments =>
    intro h
    obtain rfl := Lead.word.inj h
    exact notMem_reserved_of_isPlainName ha.1 (by decide)
  | literal value =>
    cases value with
    | bool value => cases value <;> simp [lead, Literal.lead]
    | _ => simp [lead, Literal.lead]
  | cast | paren | construct => simp [lead]

end Atom

namespace Lead

variable {l : Lead}

lemma append_ne_close (hl : l.Before t) : l.text ++ t ≠ Mark.close.text ++ r := by
  obtain ⟨c, s, h, hc⟩ := exists_cons hl
  rw [h]
  intro heq
  obtain rfl : c = ')' := (List.cons.inj heq).1
  have hnone : Kind.of? ')' = none := by decide
  simp [hnone] at hc

lemma append_ne_minus (hl : l.Before t) : l.text ++ t ≠ '-' :: ' ' :: r := by
  obtain ⟨c, s, h, hc⟩ := exists_cons hl
  intro heq
  have hminus : c = '-' := by
    rw [h] at heq
    exact (List.cons.inj heq).1
  subst hminus
  have hkind : Kind.of? '-' = some .number := by decide
  rw [hkind, Option.some.injEq] at hc
  cases l with
  | number value =>
    have hr : ∀ c ∈ (' ' :: r).head?, isNumberChar c = false := by simp [isNumberChar]
    have hminus : ∀ c ∈ ['-'], isNumberChar c = true := by simp [isNumberChar]
    obtain ⟨hn, -⟩ := append_inj_of_all isNumberChar_of_mem_number hminus
      (EndsWord.not_isNumberChar hl) hr heq
    exact number_ne_minus value.toInt hn
  | _ => simp [kind] at hc

lemma blank_append_ne (hl : l.Before t) (hi : l ≠ .word "instanceof") (hr : Behind k r) :
    ' ' :: (l.text ++ t) ≠ r := by
  obtain ⟨m, u, rfl, -⟩ := hr
  obtain ⟨c, s, h, hc⟩ := exists_cons hl
  have hsome : Kind.of? c ≠ none := by simp [hc]
  intro heq
  -- Behind the blank, only `-` and `instanceof` begin as a number or a word does.
  cases m with
  | typeTest =>
    have hw : (word "instanceof").Before (' ' :: u) :=
      ⟨by decide, endsWord_cons (by decide) (by decide)⟩
    exact hi (append_inj hl hw (List.cons.inj heq).2).1
  | operator op =>
    cases op with
    | sub => exact append_ne_minus hl (List.cons.inj heq).2
    | _ =>
      simp only [h, Mark.text, Mark.source, Operator.token] at heq
      obtain ⟨rfl, -⟩ := List.cons.inj (List.cons.inj heq).2
      exact hsome (by decide)
  | colon | question =>
    rw [h] at heq
    obtain ⟨rfl, -⟩ := List.cons.inj (List.cons.inj heq).2
    exact hsome (by decide)
  | close | comma | dot => exact absurd (List.cons.inj heq).1 (by decide)

end Lead

lemma Expr.Legible.exists_lead {e : Expr} (he : e.Legible) (hr : Behind k r) (hk : k ≤ e.level) :
    ∃ (l : Lead) (t : List Char),
      e.text ++ r = l.text ++ t ∧ l.Before t ∧ l ≠ .word "instanceof" := by
  obtain ⟨a, ss, h⟩ := he.exists_spine
  have hb := (h.chained.anti hk).behind hr
  refine ⟨a.lead, _, ?_, a.lead_before h.atom hb, a.lead_ne_instanceof h.atom⟩
  simp only [h.text, List.append_assoc]

lemma name_append_inj {name name' : String} (hn : isIdentifier name.toList = true)
    (hn' : isIdentifier name'.toList = true) (hr : EndsWord r) (ht : EndsWord t)
    (h : name.toList ++ r = name'.toList ++ t) : name = name' ∧ r = t := by
  have hl : (Lead.word name).Before r := ⟨hn, hr⟩
  have hl' : (Lead.word name').Before t := ⟨hn', ht⟩
  obtain ⟨hname, hrest⟩ := Lead.append_inj hl hl' h
  exact ⟨Lead.word.inj hname, hrest⟩

lemma typeName_append_inj {name name' : String} (hn : isPlainTypeName name = true)
    (hn' : isPlainTypeName name' = true) (hr : ∀ c ∈ r.head?, isDottedPart c = false)
    (ht : ∀ c ∈ t.head?, isDottedPart c = false) (h : name.toList ++ r = name'.toList ++ t) :
    name = name' ∧ r = t := by
  obtain ⟨hname, hrest⟩ := append_inj_of_all (isDottedPart_of_isPlainTypeName hn)
    (isDottedPart_of_isPlainTypeName hn') hr ht h
  exact ⟨String.toList_inj.mp hname, hrest⟩

def Expr.ofTypeName (name : String) : Expr :=
  match pieces '.' name.toList with
  | [] => .ident name none
  | p :: ps =>
    ps.foldl (fun e q => .select e (String.ofList q) none) (.ident (String.ofList p) none)

lemma Expr.foldl_select_legible {e : Expr} (he : e.Legible) (hl : e.level = 7)
    {ps : List (List Char)} (hps : ∀ p ∈ ps, isPlainName (String.ofList p) = true) :
    let f := ps.foldl (fun e q => .select e (String.ofList q) none) e
    f.Legible ∧ f.level = 7 ∧ f.text = e.text ++ ps.flatMap ('.' :: ·) := by
  induction ps generalizing e with
  | nil => exact ⟨he, hl, by simp⟩
  | cons p ps ih =>
    obtain ⟨hp, hps⟩ := List.forall_mem_cons.mp hps
    have hs : (Expr.select e (String.ofList p) none).Legible := by
      rw [legible_iff]
      refine ⟨hp, by simp [operandsFit, hl], fun s hs => ?_⟩
      rwa [List.mem_singleton.mp hs]
    obtain ⟨hf, hfl, hft⟩ := ih hs rfl hps
    refine ⟨hf, hfl, hft.trans ?_⟩
    simp [text, source]

lemma Expr.ofTypeName_legible {name : String} (hn : isPlainTypeName name = true) :
    (ofTypeName name).Legible ∧ (ofTypeName name).text = name.toList := by
  obtain ⟨p, ps, hp⟩ := List.exists_cons_of_ne_nil (Text.pieces_ne_nil '.' name.toList)
  rw [isPlainTypeName, hp, List.all_eq_true, List.forall_mem_cons] at hn
  have hi : (Expr.ident (String.ofList p) none).Legible := by
    rw [legible_iff]
    exact ⟨hn.1, rfl, by simp [parts]⟩
  obtain ⟨hf, -, hft⟩ := foldl_select_legible hi rfl hn.2
  rw [ofTypeName, hp]
  refine ⟨hf, hft.trans ?_⟩
  rw [(Text.eq_of_pieces hp).1]
  simp [text, source]

/-- Wherever the expression stands before a mark that does not bind it, the text tells it and its
end. -/
def Expr.ReadsUniquely (e : Expr) : Prop :=
  ∀ ⦃f : Expr⦄ ⦃k : Nat⦄ ⦃r t : List Char⦄, f.Legible → k ≤ e.level → k ≤ f.level →
    Behind k r → Behind k t → e.text ++ r = f.text ++ t → e.untyped = f.untyped ∧ r = t

namespace Expr

def ReadUniquelyUpTo (length : Nat) : Prop :=
  ∀ e : Expr, e.Legible → e.text.length ≤ length → e.ReadsUniquely

lemma ReadUniquelyUpTo.anti {m n : Nat} (h : ReadUniquelyUpTo n) (hmn : m ≤ n) : ReadUniquelyUpTo m :=
  fun e he hl => h e he (hl.trans hmn)

lemma ReadsUniquely.before_close {e f : Expr} (he : e.ReadsUniquely) (hf : f.Legible)
    (h : e.text ++ (Mark.close.text ++ r) = f.text ++ (Mark.close.text ++ t)) :
    e.untyped = f.untyped ∧ r = t := by
  obtain ⟨hef, hrest⟩ := he hf (Nat.zero_le _) (Nat.zero_le _) (.close 0 r) (.close 0 t) h
  exact ⟨hef, (Mark.append_inj hrest).2⟩

variable {es fs : List Expr}

lemma behind_moreText (es : List Expr) (r : List Char) :
    Behind 0 (moreText es ++ (Mark.close.text ++ r)) := by
  cases es with
  | nil => exact .close 0 r
  | cons e es =>
    refine ⟨.comma, e.text ++ (moreText es ++ (Mark.close.text ++ r)), ?_, le_rfl⟩
    simp [moreText]

lemma moreText_append_inj (hes : ∀ e ∈ es, e.ReadsUniquely) (hfs : ∀ f ∈ fs, f.Legible)
    (h : moreText es ++ (Mark.close.text ++ r) = moreText fs ++ (Mark.close.text ++ t)) :
    untypedList es = untypedList fs ∧ r = t := by
  induction es generalizing fs with
  | nil =>
    cases fs with
    | nil => exact ⟨rfl, (Mark.append_inj h).2⟩
    | cons f fs =>
      simp only [moreText, List.flatMap_cons, List.append_assoc] at h
      exact absurd (Mark.append_inj h).1 (by decide)
  | cons e es ih =>
    cases fs with
    | nil =>
      simp only [moreText, List.flatMap_cons, List.append_assoc] at h
      exact absurd (Mark.append_inj h).1 (by decide)
    | cons f fs =>
      obtain ⟨he, hes⟩ := List.forall_mem_cons.mp hes
      obtain ⟨hf, hfs⟩ := List.forall_mem_cons.mp hfs
      simp only [moreText, List.flatMap_cons, List.append_assoc] at h
      obtain ⟨hef, h⟩ := he hf (Nat.zero_le _) (Nat.zero_le _) (behind_moreText es r)
        (behind_moreText fs t) (Mark.append_inj h).2
      obtain ⟨hl, hrt⟩ := ih hes hfs h
      exact ⟨by rw [untypedList, untypedList, hef, hl], hrt⟩

lemma cons_append_ne_close {e : Expr} (es : List Expr) (he : e.Legible) :
    (listSource (e :: es)).toList ++ (Mark.close.text ++ r) ≠ Mark.close.text ++ t := by
  obtain ⟨l, u, hl, hb, -⟩ := he.exists_lead (behind_moreText es r) (Nat.zero_le _)
  rw [listSource_cons, List.append_assoc, hl]
  exact Lead.append_ne_close hb

lemma list_append_inj (hes : ∀ e ∈ es, e.ReadsUniquely) (he : ∀ e ∈ es, e.Legible)
    (hfs : ∀ f ∈ fs, f.Legible)
    (h : (listSource es).toList ++ (Mark.close.text ++ r) =
      (listSource fs).toList ++ (Mark.close.text ++ t)) :
    untypedList es = untypedList fs ∧ r = t := by
  cases es with
  | nil =>
    cases fs with
    | nil => exact ⟨rfl, (Mark.append_inj h).2⟩
    | cons f fs => exact absurd h.symm (cons_append_ne_close fs (hfs f List.mem_cons_self))
  | cons e es =>
    cases fs with
    | nil => exact absurd h (cons_append_ne_close es (he e List.mem_cons_self))
    | cons f fs =>
      apply moreText_append_inj hes hfs
      have hc := congrArg (Mark.comma.text ++ ·) h
      simpa [listSource_cons, moreText] using hc

variable {arguments arguments' : Option (List Expr)} {k' : Nat}

lemma length_text_le_argumentsText {e : Expr} (he : e ∈ arguments.getD []) :
    e.text.length ≤ (argumentsText arguments).length := by
  cases arguments with
  | none => simp at he
  | some es =>
    have hes : e ∈ es := he
    have h := (source_infix_listSource hes).length_le
    simp only [argumentsText, text, List.length_cons, List.length_append]
    omega

lemma arguments_append_inj (hread : ReadUniquelyUpTo (argumentsText arguments).length)
    (he : ∀ e ∈ arguments.getD [], e.Legible) (hf : ∀ f ∈ arguments'.getD [], f.Legible)
    (hr : Behind k r) (ht : Behind k' t)
    (h : argumentsText arguments ++ r = argumentsText arguments' ++ t) :
    arguments.map untypedList = arguments'.map untypedList ∧ r = t := by
  have hread : ∀ e ∈ arguments.getD [], e.ReadsUniquely := fun e hm =>
    hread e (he e hm) (length_text_le_argumentsText hm)
  cases arguments with
  | none =>
    cases arguments' with
    | none => exact ⟨rfl, h⟩
    | some fs => exact absurd h (hr.ne_paren _)
  | some es =>
    cases arguments' with
    | none => exact absurd h.symm (ht.ne_paren _)
    | some fs =>
      simp only [argumentsText, List.cons_append, List.append_assoc] at h
      obtain ⟨hl, hrt⟩ := list_append_inj hread he hf (List.cons.inj h).2
      exact ⟨congrArg some hl, hrt⟩

end Expr

lemma Literal.lead_inj {value value' : Literal} (h : value.lead = value'.lead) :
    value = value' := by
  cases value <;> cases value' <;> simp_all [Literal.lead, String.toList_inj]
  all_goals split_ifs at h <;> simp_all

namespace Atom

inductive Shape
  | named
  | literal
  | group
  | construct

def shape : Atom → Shape
  | .named .. => .named
  | .literal _ => .literal
  | .cast .. | .paren _ => .group
  | .construct .. => .construct

def Shape.ofLead : Lead → Shape
  | .word name =>
    if name = "new" then .construct else if name ∈ reserved then .literal else .named
  | .number _ | .quoted .. => .literal
  | .paren => .group

variable {a b : Atom}

lemma shape_ofLead (ha : a.Legible) : Shape.ofLead a.lead = a.shape := by
  cases a with
  | named name arguments =>
    have hn := notMem_reserved_of_isPlainName ha.1
    have hnew : name ≠ "new" := by
      rintro rfl
      exact hn (by decide)
    simp [lead, Shape.ofLead, shape, hn, hnew]
  | literal value =>
    cases value with
    | bool value => cases value <;> rfl
    | _ => rfl
  | _ => rfl

lemma untyped_named {name : String} {arguments arguments' : Option (List Expr)}
    (h : arguments.map Expr.untypedList = arguments'.map Expr.untypedList) :
    (named name arguments).untyped = (named name arguments').untyped := by
  cases arguments <;> cases arguments' <;> simp_all [untyped]

lemma cast_ne_paren {type : String} {operand inner : Expr} (ha : (cast type operand).Legible)
    (hr : Behind 7 r) (ht : Behind k t)
    (hrest : ∀ {u v}, type.toList ++ (Mark.close.text ++ u) = inner.text ++ (Mark.close.text ++ v) →
      u = v) :
    (cast type operand).tail ++ r ≠ (paren inner).tail ++ t := by
  intro h
  simp only [tail, List.append_assoc, List.cons_append] at h
  -- The name and the inner expression end at the same parenthesis, and no suffix begins with a
  -- blank and the text of an operand.
  obtain ⟨l, u, hu, hbefore, hi⟩ := ha.2.1.exists_lead hr.six_of_seven ha.2.2
  have hblank := hrest h
  rw [hu] at hblank
  exact Lead.blank_append_ne hbefore hi ht hblank

lemma append_inj (hread : Expr.ReadUniquelyUpTo a.tail.length) (ha : a.Legible) (hb : b.Legible)
    (hr : Behind (a.level + 1) r) (ht : Behind (b.level + 1) t)
    (h : a.lead.text ++ (a.tail ++ r) = b.lead.text ++ (b.tail ++ t)) :
    a.untyped = b.untyped ∧ r = t := by
  obtain ⟨hlead, htail⟩ := Lead.append_inj (lead_before ha hr) (lead_before hb ht) h
  -- The lead tells all but whether its parenthesis is that of a cast.
  have hshape : a.shape = b.shape := by
    rw [← shape_ofLead ha, hlead, shape_ofLead hb]
  cases a <;> cases b <;> cases hshape
  case named.named name arguments name' arguments' =>
    obtain rfl := Lead.word.inj hlead
    obtain ⟨hargs, hrt⟩ := Expr.arguments_append_inj hread ha.2 hb.2 hr ht htail
    exact ⟨untyped_named hargs, hrt⟩
  case literal.literal value value' =>
    obtain rfl := Literal.lead_inj hlead
    exact ⟨rfl, htail⟩
  case cast.cast type operand type' operand' =>
    simp only [tail, List.append_assoc, List.cons_append] at htail
    obtain ⟨rfl, hrest⟩ := typeName_append_inj ha.1 hb.1 (Behind.close 7 _).not_isDottedPart
      (Behind.close 7 _).not_isDottedPart htail
    have hlength : operand.text.length ≤ (cast type operand).tail.length := by
      simp only [tail, List.length_append, List.length_cons]
      omega
    obtain ⟨hoo, hrt⟩ := hread operand ha.2.1 hlength hb.2.1 ha.2.2 hb.2.2
      hr.six_of_seven ht.six_of_seven (List.cons.inj (Mark.append_inj hrest).2).2
    exact ⟨by rw [untyped, untyped, hoo], hrt⟩
  case cast.paren type operand inner =>
    obtain ⟨hl, htext⟩ := Expr.ofTypeName_legible ha.1
    have hn := hread (Expr.ofTypeName type) hl (by simp [htext, tail])
    refine absurd htail (cast_ne_paren ha hr ht fun hu => ?_)
    rw [← htext] at hu
    exact (hn.before_close hb hu).2
  case paren.cast inner type operand =>
    obtain ⟨hl, htext⟩ := Expr.ofTypeName_legible hb.1
    have hi := hread inner ha (by simp [tail])
    refine absurd htail.symm (cast_ne_paren hb ht hr fun hu => ?_)
    rw [← htext] at hu
    exact (hi.before_close hl hu.symm).2.symm
  case paren.paren inner inner' =>
    simp only [tail, List.append_assoc] at htail
    obtain ⟨hii, hrt⟩ := (hread inner ha (by simp [tail])).before_close hb htail
    exact ⟨by rw [untyped, untyped, hii], hrt⟩
  case construct.construct type arguments type' arguments' =>
    simp only [tail, List.append_assoc, List.cons_append] at htail
    have hparen : ∀ es u, ∀ c ∈ (argumentsText (some es) ++ u).head?, isDottedPart c = false := by
      intro es u c hc
      obtain rfl := Option.some.inj hc
      decide
    obtain ⟨rfl, hrest⟩ := typeName_append_inj ha.1 hb.1 (hparen _ _) (hparen _ _)
      (List.cons.inj htail).2
    have hlength : (argumentsText (some arguments)).length ≤
        (construct type arguments).tail.length := by
      simp only [tail, List.length_cons, List.length_append]
      omega
    have hf : ∀ e ∈ (some arguments').getD [], e.Legible := hb.2
    obtain ⟨hargs, hrt⟩ := Expr.arguments_append_inj (hread.anti hlength) ha.2 hf hr ht hrest
    exact ⟨by rw [untyped, untyped, Option.some.inj hargs], hrt⟩

end Atom

namespace Suffix

variable {s s' : Suffix}

lemma apply_member {name : String} {arguments arguments' : Option (List Expr)}
    (h : arguments.map Expr.untypedList = arguments'.map Expr.untypedList) (e : Expr) :
    (member name arguments).apply e = (member name arguments').apply e := by
  cases arguments <;> cases arguments' <;> simp_all [apply]

lemma body_append_inj (hread : Expr.ReadUniquelyUpTo s.body.length) (hs : s.Legible)
    (hs' : s'.Legible) (hm : s.mark = s'.mark) (hr : Behind (s.mark.level + 1) r)
    (ht : Behind (s.mark.level + 1) t) (h : s.body ++ r = s'.body ++ t) :
    (∀ e, s.apply e = s'.apply e) ∧ r = t := by
  cases s <;> cases s' <;> cases hm
  case member.member name arguments name' arguments' =>
    simp only [body, List.append_assoc] at h
    have hn := isIdentifier_of_isPlainName hs.1
    have hn' := isIdentifier_of_isPlainName hs'.1
    obtain ⟨hname, hrest⟩ := name_append_inj hn hn' (endsWord_argumentsText hr arguments)
      (endsWord_argumentsText ht arguments') h
    subst hname
    have hlength : (argumentsText arguments).length ≤ (member name arguments).body.length := by
      simp only [body, List.length_append]
      omega
    obtain ⟨hargs, hrt⟩ := Expr.arguments_append_inj (hread.anti hlength) hs.2 hs'.2 hr ht hrest
    exact ⟨apply_member hargs, hrt⟩
  case typeTest.typeTest type type' =>
    have hle : Mark.typeTest.level + 1 ≤ 7 := by decide
    obtain ⟨rfl, hrt⟩ := typeName_append_inj hs hs' (hr.mono hle).not_isDottedPart
      (ht.mono hle).not_isDottedPart h
    exact ⟨fun e => rfl, hrt⟩
  case choice.choice yes no yes' no' =>
    simp only [body, List.append_assoc] at h
    have hcolon : ∀ u, Behind 0 (Mark.colon.text ++ u) := fun u => ⟨.colon, u, rfl, le_rfl⟩
    obtain ⟨hy, hrest⟩ := hread yes hs.1 (by simp [body]) hs'.1 (Nat.zero_le _) (Nat.zero_le _)
      (hcolon _) (hcolon _) h
    have hlength : no.text.length ≤ (choice yes no).body.length := by
      simp only [body, List.length_append]
      omega
    obtain ⟨hn, hrt⟩ := hread no hs.2 hlength hs'.2 (Nat.zero_le _) (Nat.zero_le _)
      hr.zero_of_one ht.zero_of_one (Mark.append_inj hrest).2
    exact ⟨fun e => by rw [apply, apply, hy, hn], hrt⟩
  case operation.operation op right right' =>
    obtain ⟨ho, hrt⟩ := hread right hs.1 le_rfl hs'.1 hs.2 hs'.2 hr ht h
    exact ⟨fun e => by rw [apply, apply, ho], hrt⟩

variable {ss ss' : List Suffix} {l l' : Nat}

lemma flatMap_append_inj (hread : ∀ s ∈ ss, Expr.ReadUniquelyUpTo s.body.length)
    (hss : ∀ s ∈ ss, s.Legible) (hss' : ∀ s ∈ ss', s.Legible) (hc : Chained k l ss)
    (hc' : Chained k l' ss') (hr : Behind k r) (ht : Behind k t)
    (h : ss.flatMap text ++ r = ss'.flatMap text ++ t) :
    (∀ e, ss.foldl apply e = ss'.foldl apply e) ∧ r = t := by
  -- At the end of one list the text goes on with a mark that binds no tighter than `k`, and every
  -- mark of the other list does.
  have hend : ∀ {s : Suffix} {u v : List Char}, k < s.mark.rank → Behind k u →
      u ≠ s.mark.text ++ v := by
    rintro s u v hk ⟨m, w, rfl, hm⟩ h
    obtain ⟨rfl, -⟩ := Mark.append_inj h
    omega
  induction ss generalizing l l' ss' with
  | nil =>
    cases ss' with
    | nil => exact ⟨fun e => rfl, h⟩
    | cons s' ss' =>
      simp only [List.flatMap_cons, text, List.append_assoc] at h
      exact absurd h (hend hc'.1 hr)
  | cons s ss ih =>
    cases ss' with
    | nil =>
      simp only [List.flatMap_cons, text, List.append_assoc] at h
      exact absurd h.symm (hend hc.1 ht)
    | cons s' ss' =>
      obtain ⟨hread, hreads⟩ := List.forall_mem_cons.mp hread
      obtain ⟨hs, hss⟩ := List.forall_mem_cons.mp hss
      obtain ⟨hs', hss'⟩ := List.forall_mem_cons.mp hss'
      simp only [List.flatMap_cons, text, List.append_assoc] at h
      obtain ⟨hm, hbody⟩ := Mark.append_inj h
      have hb' := hc'.2.2.behind ht
      rw [← hm] at hb'
      obtain ⟨happly, hrest⟩ := body_append_inj hread hs hs' hm (hc.2.2.behind hr) hb' hbody
      obtain ⟨hfold, hrt⟩ := ih hreads hss hss' hc.2.2 hc'.2.2 hrest
      exact ⟨fun e => by rw [List.foldl_cons, List.foldl_cons, happly, hfold], hrt⟩

end Suffix

namespace Expr

variable {e f : Expr}

lemma Spine.length_tail_lt {a : Atom} {ss : List Suffix} (h : e.Spine a ss) :
    a.tail.length < e.text.length := by
  obtain ⟨c, s, hl, -⟩ := Lead.exists_cons (a.lead_before h.atom (.close 0 []))
  simp only [h.text, hl, List.length_append, List.length_cons]
  omega

lemma Spine.length_body_lt {a : Atom} {ss : List Suffix} (h : e.Spine a ss) :
    ∀ s ∈ ss, s.body.length < e.text.length := by
  intro s hs
  obtain ⟨before, after, rfl⟩ := List.append_of_mem hs
  obtain ⟨c, u, hm, -⟩ := s.mark.exists_cons
  simp only [h.text, List.flatMap_append, List.flatMap_cons, Suffix.text, hm, List.length_append,
    List.length_cons]
  omega

theorem Legible.readsUniquely (he : e.Legible) : e.ReadsUniquely := by
  -- By induction on the length of the text, not on the expression: a cast is told from parentheses
  -- by reading the name of its type as an expression, which is no part of the cast.
  induction hn : e.text.length using Nat.strong_induction_on generalizing e with
  | _ n ih =>
    have hread : ∀ m < n, ReadUniquelyUpTo m := fun m hm e he hl => ih _ (hl.trans_lt hm) he rfl
    intro f k r t hf hk hk' hr ht h
    obtain ⟨a, ss, ha⟩ := he.exists_spine
    obtain ⟨b, ss', hb⟩ := hf.exists_spine
    have hc := ha.chained.anti hk
    have hc' := hb.chained.anti hk'
    rw [ha.text, hb.text] at h
    simp only [List.append_assoc] at h
    obtain ⟨hatom, hrest⟩ := Atom.append_inj (hread _ (hn ▸ ha.length_tail_lt)) ha.atom hb.atom
      (hc.behind hr) (hc'.behind ht) h
    obtain ⟨hfold, hrt⟩ := Suffix.flatMap_append_inj
      (fun s hs => hread _ (hn ▸ ha.length_body_lt s hs)) ha.suffixes hb.suffixes hc hc' hr ht hrest
    exact ⟨by rw [ha.untyped, hb.untyped, hatom, hfold], hrt⟩

theorem source_eq_iff_untyped_eq (hp : e.Plain) (hw : e.WellParenthesized) (hp' : f.Plain)
    (hw' : f.WellParenthesized) : e.source = f.source ↔ e.untyped = f.untyped := by
  have he : e.Legible := ⟨hp, hw⟩
  have hf : f.Legible := ⟨hp', hw'⟩
  constructor
  · intro h
    have htext : e.text ++ (Mark.close.text ++ []) = f.text ++ (Mark.close.text ++ []) := by
      rw [text, text, h]
    exact (he.readsUniquely.before_close hf htext).1
  · intro h
    rw [← source_untyped e, h, source_untyped f]

theorem source_eq_iff_untyped_eq_casts :
    let call : Option Signature → Expr := fun signature =>
      .call (some (.ident "x" none)) "m" [.string "\") ? ", .literal (.int (-1))] signature
    let choice : Option ErasedType → Option Signature → Expr := fun type signature =>
      .conditional (.typeTest (.cast ⟨"a.B", type⟩ (call signature)) ⟨"T", none⟩)
        (.binary (.paren (.ident "a" type)) .sub (.literal (.int 1)) none)
        (.construct ⟨"C", type⟩ [.literal (.char '\'')]) type
    let signature : Signature := { declaringType := "a.B", name := "m", result := .string }
    let typed := choice (some .string) (some signature)
    let bare := choice none none
    typed ≠ bare ∧ typed.Plain ∧ typed.WellParenthesized ∧ bare.Plain ∧ bare.WellParenthesized ∧
      typed.source = bare.source ∧ (typed.source = bare.source ↔ typed.untyped = bare.untyped) := by
  intro call choice signature typed bare
  have hp : typed.Plain := by decide +kernel
  have hw : typed.WellParenthesized := by decide +kernel
  have hp' : bare.Plain := by decide +kernel
  have hw' : bare.WellParenthesized := by decide +kernel
  exact ⟨by decide +kernel, hp, hw, hp', hw', by decide +kernel,
    source_eq_iff_untyped_eq hp hw hp' hw'⟩

end Expr

end GuardedCalls
