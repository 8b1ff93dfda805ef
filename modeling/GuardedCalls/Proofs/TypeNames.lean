import GuardedCalls.Proofs.Imports
import GuardedCalls.Proofs.Lexemes
import GuardedCalls.Proofs.Notations
import GuardedCalls.Proofs.Regex

/-! Full names of types. A name is put together from its package and its simple name, and as the
owner of a method pattern it stands for itself only. -/

namespace GuardedCalls

open Text (pieces trim)
open Pattern (TypeItem Covers)
open TypePattern (Spells SpellsRest IsSegment itemOf)

namespace Text

lemma pieces_append_sep (sep : Char) (s t : List Char) :
    pieces sep (s ++ sep :: t) = pieces sep s ++ pieces sep t := by
  induction s with
  | nil => exact pieces_sep_cons sep t
  | cons c s ih =>
    rw [List.cons_append, pieces, pieces]
    split
    · rw [ih, List.cons_append]
    · obtain ⟨p, ps, hp⟩ := List.exists_cons_of_ne_nil (pieces_ne_nil sep s)
      rw [ih, hp]
      rfl

end Text

section

variable {segment : List Char}

lemma isSegment_of_isIdentifier (hs : isIdentifier segment = true) : IsSegment segment := by
  -- A segment begins with anything but an ASCII digit, and no identifier begins with one.
  obtain ⟨c, rest, rfl, hc⟩ := exists_cons_of_isIdentifier hs
  refine ⟨List.cons_ne_nil c rest, ?_, ?_⟩
  · intro d hd
    obtain rfl := Option.some.inj hd
    by_contra hdigit
    rw [isIdentifierStart_of_isDigit (by simpa using hdigit)] at hc
    exact Bool.noConfusion hc
  · intro d hd
    have hpart := isIdentifierPart_of_isIdentifier hs d hd
    simp only [isIdentifierPart, Bool.or_eq_true, decide_eq_true_eq] at hpart
    tauto

lemma star_notMem_of_isIdentifier (hs : isIdentifier segment = true) : '*' ∉ segment := by
  intro h
  exact absurd (isIdentifierPart_of_isIdentifier hs '*' h) (by decide)

lemma itemOf_of_isIdentifier (hs : isIdentifier segment = true) :
    itemOf segment = .glob segment := by
  apply if_neg
  rintro rfl
  exact star_notMem_of_isIdentifier hs List.mem_cons_self

lemma MethodPattern.isPart_of_isDottedPart {text : List Char}
    (h : ∀ c ∈ text, isDottedPart c = true) : IsPart text := by
  intro c hc
  have hd := h c hc
  refine ⟨?_, ?_, ?_⟩ <;> rintro rfl <;> exact absurd hd (by decide)

end

namespace TypeName

variable {n : TypeName} {package : String}

def items (n : TypeName) : TypePattern :=
  (pieces '.' n.text.toList).map .glob

lemma spells_text (n : TypeName) : Spells n.items n.text.toList := by
  obtain ⟨p, ps, hp⟩ := List.exists_cons_of_ne_nil (Text.pieces_ne_nil '.' n.text.toList)
  have hi : ∀ s ∈ p :: ps, isIdentifier s = true := fun s hs => n.segments_isIdentifier s (hp ▸ hs)
  have hmap : (p :: ps).map TypeItem.glob = (p :: ps).map itemOf :=
    List.map_congr_left fun s hs => (itemOf_of_isIdentifier (hi s hs)).symm
  rw [List.forall_mem_cons] at hi
  have hrest : SpellsRest (ps.map itemOf ++ []) (ps.flatMap ('.' :: ·) ++ []) :=
    SpellsRest.nil.segments fun s hs => isSegment_of_isIdentifier (hi.2 s hs)
  rw [List.append_nil, List.append_nil] at hrest
  rw [items, hp, hmap, (Text.eq_of_pieces hp).1]
  exact .plain (isSegment_of_isIdentifier hi.1) hrest

lemma covers_items_iff (n : TypeName) (name : List Char) :
    Covers n.items (pieces '.' name) ↔ name = n.text.toList := by
  have hs : ∀ s ∈ pieces '.' n.text.toList, '*' ∉ s :=
    fun s hs => star_notMem_of_isIdentifier (n.segments_isIdentifier s hs)
  exact Pattern.covers_pieces_iff hs name

lemma exists_regex (n : TypeName) : ∃ r, TypePattern.regex n.text.toList = .ok r ∧
    ∀ name, name ∈ r.language ↔ name = n.text.toList := by
  obtain ⟨r, hr, hm⟩ := (TypePattern.agree_regex n.text.toList).exists_ok n.spells_text.parse
  exact ⟨r, hr, fun name => (hm name).trans (n.covers_items_iff name)⟩

lemma trim_text (n : TypeName) : trim n.text.toList = n.text.toList :=
  Text.trim_of_forall fun _ hc => (n.spells_text.char hc).1

lemma parse_eq_ok_iff {s : String} : TypeName.parse s = .ok n ↔ trim s.toList = n.text.toList := by
  rw [TypeName.parse]
  constructor
  · intro h
    split at h
    · exact nomatch h
    · split at h
      · exact nomatch h
      · exact nomatch h
      · obtain rfl := Except.ok.inj h
        exact String.toList_ofList.symm
  · intro h
    have hfind : (pieces '.' (trim s.toList)).find? (!isIdentifier ·) = none := by
      rw [List.find?_eq_none, h]
      intro segment hs
      simp [n.segments_isIdentifier segment hs]
    split
    · rename_i hempty
      rw [h, List.isEmpty_iff] at hempty
      exact absurd hempty n.spells_text.ne_nil
    · split
      · rename_i hsome
        exact nomatch hfind.symm.trans hsome
      · rename_i hsome
        exact nomatch hfind.symm.trans hsome
      · obtain ⟨text, hi⟩ := n
        obtain rfl : String.ofList (trim s.toList) = text := by rw [h, String.ofList_toList]
        rfl

lemma pieces_text (hp : n.package? = some package) :
    pieces '.' n.text.toList = pieces '.' package.toList ++ [n.simpleName.toList] := by
  rw [toList_text hp, Text.pieces_append_sep, Text.pieces_of_notMem n.dot_notMem_simpleName]

lemma text_eq_package_dot_simpleName (hp : n.package? = some package) :
    n.text = package ++ "." ++ n.simpleName := by
  apply String.toList_inj.mp
  simp [toList_text hp]

lemma isIdentifier_simpleName (n : TypeName) : isIdentifier n.simpleName.toList = true := by
  apply n.segments_isIdentifier
  cases hp : n.package? with
  | none =>
    rw [← simpleName_of_package?_eq_none hp, Text.pieces_of_notMem n.dot_notMem_simpleName]
    exact List.mem_singleton_self _
  | some package =>
    rw [pieces_text hp]
    exact List.mem_append_right _ (List.mem_singleton_self _)

lemma exists_parse_package (hp : n.package? = some package) :
    ∃ p : TypeName, TypeName.parse package = .ok p ∧ p.text = package := by
  have hi : ∀ s ∈ pieces '.' package.toList, isIdentifier s = true := by
    intro s hs
    apply n.segments_isIdentifier
    rw [pieces_text hp]
    exact List.mem_append_left _ hs
  let p : TypeName := ⟨package, hi⟩
  exact ⟨p, parse_eq_ok_iff.mpr p.trim_text, rfl⟩

lemma exists_parse_owner (n : TypeName) {m : String} (hm : isIdentifier m.toList = true) :
    ∃ text, MethodPattern.parse (n.text ++ " " ++ m ++ "()") = .ok ⟨text, n.items, some m, []⟩ := by
  have ho : MethodPattern.IsPart n.text.toList :=
    MethodPattern.isPart_of_isDottedPart (isDottedPart_of_pieces n.segments_isIdentifier)
  have hpart : MethodPattern.IsPart m.toList := by
    apply MethodPattern.isPart_of_isDottedPart
    intro c hc
    rw [isDottedPart, isIdentifierPart_of_isIdentifier hm c hc, Bool.true_or]
  have hnone : MethodPattern.IsPart [] := List.forall_mem_nil _
  have hs := isSegment_of_isIdentifier hm
  have hstar : m.toList ≠ ['*'] := by
    intro h
    exact star_notMem_of_isIdentifier hm (h ▸ List.mem_cons_self)
  have hwritten : (n.text ++ " " ++ m ++ "()").toList =
      n.text.toList ++ ' ' :: m.toList ++ '(' :: ([] ++ [')']) := by
    simp
  obtain ⟨text, ht⟩ := MethodPattern.parse_written (.inr (by decide)) ho hpart hnone hs.1
    (fun c hc => (hs.char hc).1) hwritten
  refine ⟨text, ht.trans ?_⟩
  have hne : ¬ (n.text.toList.isEmpty || m.toList.isEmpty) = true := by
    simp [n.spells_text.ne_nil, hs.1]
  have hname : MethodPattern.parseMethodName m.toList = .ok (some m) := by
    rw [MethodPattern.parseMethodName, if_neg hstar, if_pos hm, String.ofList_toList]
  rw [trim_text, MethodPattern.readParts, if_neg hne, hname, n.spells_text.parse]
  rfl

lemma accepts_owner_iff (n : TypeName) (text m : String) (s : Signature) :
    (⟨text, n.items, some m, []⟩ : MethodPattern).accepts s = true ↔
      s.declaringType = n.text ∧ s.name = m ∧ s.parameters = [] := by
  have ho : n.items.matchesText s.declaringType.toList = true ↔ s.declaringType = n.text := by
    rw [TypePattern.matchesText_iff, covers_items_iff, String.toList_inj]
  have ha : (⟨text, n.items, some m, []⟩ : MethodPattern).acceptsArguments s.parameters = true ↔
      s.parameters = [] := by
    cases s.parameters with
    | nil => exact iff_of_true rfl rfl
    | cons p ps => exact iff_of_false Bool.false_ne_true (List.cons_ne_nil p ps)
  rw [MethodPattern.accepts, Bool.and_eq_true, Bool.and_eq_true, ho, ha]
  simp only [MethodPattern.acceptsName, Option.all_some, decide_eq_true_eq]
  tauto

/-- A parsed name is the given one without the blanks around it, and its package, which is a name
again, a dot and its simple name put it together. With this owner a pattern for an identifier is
read, the expression made for the owner has the name as its only word, and what the pattern accepts
is this method of this very type. -/
theorem parse_exact_owner {s : String} {n : TypeName} (h : TypeName.parse s = .ok n) :
    n.text.toList = trim s.toList ∧
    (∀ package, n.package? = some package → n.text = package ++ "." ++ n.simpleName ∧
      ∃ p, TypeName.parse package = .ok p ∧ p.text = package) ∧
    (n.package? = none → n.text = n.simpleName) ∧
    isIdentifier n.simpleName.toList = true ∧
    (∃ r, TypePattern.regex n.text.toList = .ok r ∧
      ∀ name, name ∈ r.language ↔ name = n.text.toList) ∧
    ∀ m : String, isIdentifier m.toList = true →
      ∃ p, MethodPattern.parse (n.text ++ " " ++ m ++ "()") = .ok p ∧
        ∀ signature : Signature, p.accepts signature = true ↔
          signature.declaringType = n.text ∧ signature.name = m ∧ signature.parameters = [] := by
  refine ⟨(parse_eq_ok_iff.mp h).symm, fun package hp => ?_, fun hp => ?_,
    n.isIdentifier_simpleName, n.exists_regex, fun m hm => ?_⟩
  · exact ⟨text_eq_package_dot_simpleName hp, exists_parse_package hp⟩
  · exact (simpleName_of_package?_eq_none hp).symm
  · obtain ⟨text, ht⟩ := n.exists_parse_owner hm
    exact ⟨_, ht, n.accepts_owner_iff text m⟩

theorem parse_exact_owner_dollar :
    let n : TypeName := ⟨"a.größe.Maß$1", by decide +kernel⟩
    let get (owner : String) : Signature :=
      { declaringType := owner, name := "get", result := .string }
    TypeName.parse " a.größe.Maß$1\n" = .ok n ∧ n.package? = some "a.größe" ∧
      n.text = "a.größe" ++ "." ++ n.simpleName ∧ isIdentifier "get".toList = true ∧
      ∃ p, MethodPattern.parse (n.text ++ " " ++ "get" ++ "()") = .ok p ∧
        p.accepts (get "a.größe.Maß$1") = true ∧ ¬ p.accepts (get "a.größe.Maß$12") = true := by
  intro n get
  have hn : TypeName.parse " a.größe.Maß$1\n" = .ok n := parse_eq_ok_iff.mpr (by decide +kernel)
  have hp : n.package? = some "a.größe" := by decide +kernel
  have hi : isIdentifier "get".toList = true := by decide +kernel
  obtain ⟨-, hpackage, -, -, -, howner⟩ := parse_exact_owner hn
  obtain ⟨p, hread, haccepts⟩ := howner "get" hi
  refine ⟨hn, hp, (hpackage _ hp).1, hi, p, hread, (haccepts _).mpr ⟨rfl, rfl, rfl⟩, fun h => ?_⟩
  exact absurd ((haccepts _).mp h).1 (by decide +kernel)

end TypeName

end GuardedCalls
