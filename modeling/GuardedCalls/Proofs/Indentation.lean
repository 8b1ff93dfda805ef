import GuardedCalls.Proofs.Lexemes
import GuardedCalls.Proofs.Nodes

/-! Source text at a level. A statement, a method or a class that is written on an indented page is
its own source text with blanks before every line that is not empty. -/

namespace GuardedCalls

namespace Text

def shiftLine (width : Nat) (line : List Char) : List Char :=
  if line = [] then [] else List.replicate width ' ' ++ line

def shift (width : Nat) (text : List Char) : List Char :=
  List.intercalate ['\n'] ((pieces '\n' text).map (shiftLine width))

inductive IsLines : List Char → Prop
  | nil : IsLines []
  | cons {line rest : List Char} : '\n' ∉ line → IsLines rest → IsLines (line ++ '\n' :: rest)

variable {v width : Nat} {line text rest : List Char}

lemma isLines_line (hl : '\n' ∉ line) : IsLines (line ++ ['\n']) :=
  .cons hl .nil

lemma IsLines.append (ht : IsLines text) (hr : IsLines rest) : IsLines (text ++ rest) := by
  induction ht with
  | nil => exact hr
  | cons hl _ ih =>
    rw [List.append_assoc, List.cons_append]
    exact .cons hl ih

lemma IsLines.flatMap {α : Type} {xs : List α} {f : α → List Char}
    (h : ∀ x ∈ xs, IsLines (f x)) : IsLines (xs.flatMap f) := by
  induction xs with
  | nil => exact .nil
  | cons x xs ih =>
    rw [List.forall_mem_cons] at h
    exact h.1.append (ih h.2)

lemma newline_notMem_shiftLine (hl : '\n' ∉ line) : '\n' ∉ shiftLine width line := by
  rw [shiftLine]
  split
  · simp
  · simp [hl]

lemma shiftLine_shiftLine : shiftLine v (shiftLine width line) = shiftLine (v + width) line := by
  by_cases hl : line = []
  · simp [shiftLine, hl]
  · have hn : List.replicate width ' ' ++ line ≠ [] := by simp [hl]
    simp only [shiftLine, if_neg hl, if_neg hn, List.replicate_add, List.append_assoc]

lemma shift_nil : shift width [] = [] := by
  simp [shift, pieces, shiftLine]

lemma shift_cons (hl : '\n' ∉ line) (rest : List Char) :
    shift width (line ++ '\n' :: rest) = shiftLine width line ++ '\n' :: shift width rest := by
  obtain ⟨next, others, hr⟩ := List.exists_cons_of_ne_nil (pieces_ne_nil '\n' rest)
  have hp := pieces_append hl (pieces_sep_cons '\n' rest)
  rw [shift, shift, hp, hr, List.append_nil, List.map_cons, List.map_cons,
    List.intercalate_cons_cons, List.append_assoc]
  rfl

lemma shift_newline_cons (rest : List Char) :
    shift width ('\n' :: rest) = '\n' :: shift width rest :=
  @shift_cons width [] (by simp) rest

lemma IsLines.shift_append (ht : IsLines text) (rest : List Char) :
    shift width (text ++ rest) = shift width text ++ shift width rest := by
  induction ht with
  | nil => rw [shift_nil, List.nil_append, List.nil_append]
  | cons hl _ ih =>
    rw [List.append_assoc, List.cons_append, shift_cons hl, shift_cons hl, ih, List.append_assoc,
      List.cons_append]

lemma shift_flatMap {α : Type} {xs : List α} {f : α → List Char} (h : ∀ x ∈ xs, IsLines (f x)) :
    shift width (xs.flatMap f) = xs.flatMap fun x => shift width (f x) := by
  induction xs with
  | nil => exact shift_nil
  | cons x xs ih =>
    rw [List.forall_mem_cons] at h
    rw [List.flatMap_cons, h.1.shift_append, ih h.2, List.flatMap_cons]

lemma IsLines.shift (ht : IsLines text) (width : Nat) : IsLines (shift width text) := by
  induction ht with
  | nil =>
    rw [shift_nil]
    exact .nil
  | cons hl _ ih =>
    rw [shift_cons hl]
    exact .cons (newline_notMem_shiftLine hl) ih

lemma IsLines.shift_shift (ht : IsLines text) :
    Text.shift v (Text.shift width text) = Text.shift (v + width) text := by
  induction ht with
  | nil => rw [shift_nil, shift_nil, shift_nil]
  | cons hl _ ih =>
    rw [shift_cons hl, shift_cons hl, shift_cons (newline_notMem_shiftLine hl), ih,
      shiftLine_shiftLine]

lemma IsLines.shift_zero (ht : IsLines text) : Text.shift 0 text = text := by
  induction ht with
  | nil => exact shift_nil
  | @cons line rest hl _ ih =>
    have hz : shiftLine 0 line = line := by
      by_cases h : line = [] <;> simp [shiftLine, h]
    rw [shift_cons hl, ih, hz]

end Text

open Text (shift IsLines)

/-- What is written are these lines, shifted by the level of the page, which stays as it was. -/
def Lays (write : Page → Page) (text : List Char) : Prop :=
  ∀ p : Page, (write p).level = p.level ∧
    (write p).text.toList = p.text.toList ++ shift (4 * p.level) text

def Page.writeLine (line : String) (p : Page) : Page :=
  (p.startLine.write line).endLine

variable {write next : Page → Page} {text after : List Char}

lemma lays_writeLine {line : String} (hl : '\n' ∉ line.toList) (hn : line ≠ "") :
    Lays (Page.writeLine line) (line.toList ++ ['\n']) := by
  intro p
  refine ⟨rfl, ?_⟩
  rw [Text.shift_cons hl, Text.shift_nil, Text.shiftLine, if_neg (by simpa using hn)]
  simp [Page.writeLine, Page.startLine, Page.endLine, Page.write, Page.margin]

lemma lays_endLine : Lays Page.endLine ['\n'] := by
  intro p
  refine ⟨rfl, ?_⟩
  rw [Text.shift_newline_cons, Text.shift_nil]
  simp [Page.endLine, Page.write]

lemma Lays.andThen (hw : Lays write text) (ht : IsLines text) (hn : Lays next after) :
    Lays (fun p => next (write p)) (text ++ after) := by
  intro p
  obtain ⟨hl, hp⟩ := hw p
  obtain ⟨hl', hp'⟩ := hn (write p)
  refine ⟨hl'.trans hl, ?_⟩
  rw [hp', hp, hl, ht.shift_append, List.append_assoc]

lemma Lays.indented (hw : Lays write text) (ht : IsLines text) :
    Lays (fun p => (write p.indent).dedent) (shift 4 text) := by
  intro p
  obtain ⟨hl, hp⟩ := hw p.indent
  constructor
  · change (write p.indent).level - 1 = p.level
    rw [hl]
    rfl
  · change (write p.indent).text.toList = _
    rw [hp, ht.shift_shift]
    rfl

lemma lays_foldl {α : Type} {xs : List α} {write : α → Page → Page} {text : α → List Char}
    (hw : ∀ x ∈ xs, Lays (write x) (text x)) (ht : ∀ x ∈ xs, IsLines (text x)) :
    Lays (fun p => xs.foldl (fun p x => write x p) p) (xs.flatMap text) := by
  induction xs with
  | nil =>
    intro p
    refine ⟨rfl, ?_⟩
    rw [List.flatMap_nil, Text.shift_nil, List.append_nil]
    rfl
  | cons x xs ih =>
    rw [List.forall_mem_cons] at hw ht
    -- Each step leaves the level as it was, so the next one starts from the same level.
    exact hw.1.andThen ht.1 (ih hw.2 ht.2)

lemma Lays.toList_text (hw : Lays write text) (ht : IsLines text) :
    (write {}).text.toList = text := by
  have h := (hw {}).2
  rwa [Nat.mul_zero, ht.shift_zero] at h

def blockText (header : String) (lines : List Char) : List Char :=
  header.toList ++ '\n' :: (shift 4 lines ++ ['\x7d', '\n'])

lemma isLines_blockText {header : String} (hh : '\n' ∉ header.toList) (ht : IsLines text) :
    IsLines (blockText header text) := by
  apply IsLines.cons hh
  apply (ht.shift 4).append
  exact @Text.isLines_line ['\x7d'] (by decide)

lemma lays_block {header : String} (hh : '\n' ∉ header.toList) (hn : header ≠ "")
    (hw : Lays write text) (ht : IsLines text) :
    Lays (fun p => Page.writeLine "\x7d" (write (Page.writeLine header p).indent).dedent)
      (blockText header text) := by
  have hheader := Text.isLines_line hh
  have hopen := (lays_writeLine hh hn).andThen hheader (hw.indented ht)
  have hclose : Lays (Page.writeLine "\x7d") ("\x7d".toList ++ ['\n']) :=
    lays_writeLine (by decide) (by decide)
  have h := hopen.andThen (hheader.append (ht.shift 4)) hclose
  rw [List.append_assoc, List.append_assoc] at h
  exact h

lemma lays_block_foldl {α : Type} {xs : List α} {write : α → Page → Page} {text : α → List Char}
    {header : String} (hh : '\n' ∉ header.toList) (hn : header ≠ "")
    (h : ∀ x ∈ xs, Lays (write x) (text x) ∧ IsLines (text x)) :
    Lays (fun p => Page.writeLine "\x7d"
      (xs.foldl (fun p x => write x p) (Page.writeLine header p).indent).dedent)
      (blockText header (xs.flatMap text)) ∧ IsLines (blockText header (xs.flatMap text)) := by
  have hb := lays_foldl (fun x hx => (h x hx).1) fun x hx => (h x hx).2
  have ht := IsLines.flatMap fun x hx => (h x hx).2
  have hw := lays_block hh hn hb ht
  exact ⟨hw, isLines_blockText hh ht⟩

def Expr.ownSpellings : Expr → List String
  | .ident name _ => [name]
  | .select _ name _ => [name]
  | .call _ name _ _ => [name]
  | .typeTest _ type => [type.name]
  | .cast type _ => [type.name]
  | .construct type _ => [type.name]
  | _ => []

def Expr.spellings (e : Expr) : List String :=
  e.subexprs.flatMap Expr.ownSpellings

def Statement.ownSpellings : Statement → List String
  | .localVariable type name _ => [type.name, name]
  | _ => []

def Statement.spellings (s : Statement) : List String :=
  s.ownSpellings ++ s.expr?.toList.flatMap Expr.spellings

def Method.spellings (m : Method) : List String :=
  m.modifiers ++ [m.returnType.name, m.name]
    ++ m.parameters.flatMap (fun p => [p.type.name, p.name]) ++ m.body.flatMap Statement.spellings

def ClassDecl.spellings (c : ClassDecl) : List String :=
  c.modifiers ++ [c.name] ++ c.methods.flatMap Method.spellings

def NoBreaks (spellings : List String) : Prop :=
  ∀ s ∈ spellings, '\n' ∉ s.toList

instance (spellings : List String) : Decidable (NoBreaks spellings) :=
  List.decidableBAll _ spellings

lemma noBreaks_append {a b : List String} : NoBreaks (a ++ b) ↔ NoBreaks a ∧ NoBreaks b :=
  List.forall_mem_append

lemma noBreaks_flatMap {α : Type} {xs : List α} {f : α → List String} :
    NoBreaks (xs.flatMap f) ↔ ∀ x ∈ xs, NoBreaks (f x) := by
  simp only [NoBreaks, List.forall_mem_flatMap]

lemma newline_notMem_escape {mark : Char} (hm : IsQuoteMark mark) (s : List Char) :
    '\n' ∉ escape mark s :=
  fun h => notMem_controls_of_mem_escape hm h (by decide)

lemma Literal.newline_notMem_source (l : Literal) : '\n' ∉ l.source.toList := by
  cases l with
  | string value =>
    have h := newline_notMem_escape (.inl rfl) value.toList
    simp [source, quote, h]
  | int value =>
    intro h
    exact absurd (isNumberChar_of_mem_number _ h) (by decide)
  | bool value => cases value <;> decide
  | char value =>
    have h := newline_notMem_escape (.inr rfl) [value]
    simp [source, quote, h]
  | null => decide

namespace Expr

lemma spellings_eq (e : Expr) : e.spellings = e.ownSpellings ++ e.parts.flatMap spellings := by
  rw [spellings, subexprs_eq, List.flatMap_cons, List.flatMap_assoc]
  rfl

lemma newline_notMem_listSource {es : List Expr} (h : ∀ e ∈ es, '\n' ∉ e.source.toList) :
    '\n' ∉ (listSource es).toList := by
  induction es with
  | nil => simp [listSource]
  | cons e es ih =>
    rw [List.forall_mem_cons] at h
    cases es with
    | nil => exact h.1
    | cons f es => simp [listSource, h.1, ih h.2]

lemma newline_notMem_source {e : Expr} (h : NoBreaks e.spellings) : '\n' ∉ e.source.toList := by
  induction e using parts_induction with
  | step e ih =>
    rw [spellings_eq, noBreaks_append, noBreaks_flatMap] at h
    have hown := h.1
    have hparts : ∀ s ∈ e.parts, '\n' ∉ s.source.toList := fun s hs => ih s hs (h.2 s hs)
    cases e with
    | call receiver name arguments signature =>
      have ha : '\n' ∉ (listSource arguments).toList :=
        newline_notMem_listSource fun s hs => hparts s (List.mem_append_right _ hs)
      cases receiver with
      | none => simp_all [NoBreaks, ownSpellings, source, receiverSource]
      | some receiver => simp_all [NoBreaks, ownSpellings, parts, source, receiverSource]
    | construct type arguments =>
      have ha : '\n' ∉ (listSource arguments).toList := newline_notMem_listSource hparts
      simp_all [NoBreaks, ownSpellings, source]
    | literal value => exact value.newline_notMem_source
    | binary left op right type =>
      have ho : '\n' ∉ op.token.toList := by cases op <;> decide
      simp_all [parts, source]
    | _ => simp_all [NoBreaks, ownSpellings, parts, source]

end Expr

lemma Statement.newline_notMem_inner {s : Statement} (h : NoBreaks s.spellings) :
    '\n' ∉ s.inner.toList := by
  rw [spellings, noBreaks_append, noBreaks_flatMap] at h
  have hexpr : ∀ e ∈ s.expr?.toList, '\n' ∉ e.source.toList :=
    fun e he => Expr.newline_notMem_source (h.2 e he)
  have hown := h.1
  cases s with
  | localVariable type name init => cases init <;> simp_all [NoBreaks, ownSpellings, inner, expr?]
  | expression value => simpa [inner, expr?] using hexpr
  | returns value => cases value <;> simp_all [inner, expr?]
  | throws exception => simp_all [inner, expr?]

lemma newline_notMem_modifiersSource {modifiers : List String} (h : NoBreaks modifiers) :
    '\n' ∉ (modifiersSource modifiers).toList := by
  rw [modifiersSource]
  induction modifiers with
  | nil => simp
  | cons m modifiers ih =>
    rw [NoBreaks, List.forall_mem_cons] at h
    simpa [h.1] using ih h.2

lemma newline_notMem_intercalate {sep : String} {ss : List String} (hs : '\n' ∉ sep.toList)
    (h : ∀ s ∈ ss, '\n' ∉ s.toList) : '\n' ∉ (String.intercalate sep ss).toList := by
  induction ss with
  | nil => simp
  | cons s ss ih =>
    rw [List.forall_mem_cons] at h
    cases ss with
    | nil => simpa using h.1
    | cons t ss =>
      have := ih h.2
      simp_all

lemma Method.newline_notMem_header {m : Method} (h : NoBreaks m.spellings) :
    '\n' ∉ m.header.toList := by
  simp only [spellings, noBreaks_append, noBreaks_flatMap] at h
  obtain ⟨⟨⟨hm, hn⟩, hp⟩, -⟩ := h
  have hmod := newline_notMem_modifiersSource hm
  have hpar : '\n' ∉ (String.intercalate ", " (m.parameters.map Parameter.source)).toList := by
    apply newline_notMem_intercalate (by decide)
    rw [List.forall_mem_map]
    intro p hmem
    have := hp p hmem
    simp_all [NoBreaks, Parameter.source]
  simp_all [NoBreaks, header]

lemma ClassDecl.newline_notMem_header {c : ClassDecl} (h : NoBreaks c.spellings) :
    '\n' ∉ c.header.toList := by
  simp only [spellings, noBreaks_append] at h
  have hmod := newline_notMem_modifiersSource h.1.1
  simp_all [NoBreaks, header]

lemma Statement.lays_source {s : Statement} (h : NoBreaks s.spellings) :
    Lays s.render s.source.toList ∧ IsLines s.source.toList := by
  have hl : '\n' ∉ (s.inner ++ ";").toList := by simp [newline_notMem_inner h]
  have hw : Lays s.render ((s.inner ++ ";").toList ++ ['\n']) := lays_writeLine hl (by simp)
  have ht := Text.isLines_line hl
  have hs : s.source.toList = (s.inner ++ ";").toList ++ ['\n'] := hw.toList_text ht
  rw [hs]
  exact ⟨hw, ht⟩

lemma Method.render_eq (m : Method) :
    m.render = fun p => Page.writeLine "\x7d"
      (m.body.foldl (fun p s => s.render p) (Page.writeLine m.header p).indent).dedent :=
  rfl

lemma Method.lays_source {m : Method} (h : NoBreaks m.spellings) :
    Lays m.render m.source.toList ∧ IsLines m.source.toList := by
  have hh := newline_notMem_header h
  have hn : m.header ≠ "" := by simp [header]
  rw [spellings, noBreaks_append, noBreaks_flatMap] at h
  obtain ⟨hw, ht⟩ := lays_block_foldl hh hn fun s hs => Statement.lays_source (h.2 s hs)
  -- Unfolded as it stands, the method would be compared with the block step by step.
  rw [← render_eq] at hw
  have hs : m.source.toList = _ := hw.toList_text ht
  rw [hs]
  exact ⟨hw, ht⟩

lemma ClassDecl.render_eq (c : ClassDecl) :
    c.render = fun p => Page.writeLine "\x7d"
      (c.methods.foldl (fun p m => m.render p.endLine) (Page.writeLine c.header p).indent).dedent :=
  rfl

lemma Method.lays_behind_line {m : Method} (h : NoBreaks m.spellings) :
    Lays (fun p => m.render p.endLine) ('\n' :: m.source.toList) ∧
      IsLines ('\n' :: m.source.toList) := by
  have hempty : IsLines ['\n'] := @Text.isLines_line [] (by simp)
  obtain ⟨hw, ht⟩ := lays_source h
  exact ⟨lays_endLine.andThen hempty hw, hempty.append ht⟩

/-- On a page of any level a statement, a method and a class are written as their own source text,
shifted by the level, if no spelling in them has a line break. The source text of a class is its
header, each method behind an empty line and one level further in, and a closing brace. -/
theorem render_shifts_source :
    (∀ s : Statement, NoBreaks s.spellings → Lays s.render s.source.toList) ∧
    (∀ m : Method, NoBreaks m.spellings → Lays m.render m.source.toList) ∧
    ∀ c : ClassDecl, NoBreaks c.spellings → Lays c.render c.source.toList ∧
      c.source.toList = c.header.toList ++ '\n' ::
        ((c.methods.flatMap fun m => '\n' :: shift 4 m.source.toList) ++ ['\x7d', '\n']) := by
  refine ⟨fun s h => (Statement.lays_source h).1, fun m h => (Method.lays_source h).1,
    fun c h => ?_⟩
  have hh := ClassDecl.newline_notMem_header h
  have hn : c.header ≠ "" := by simp [ClassDecl.header]
  rw [ClassDecl.spellings, noBreaks_append, noBreaks_flatMap] at h
  have hone := fun m hm => Method.lays_behind_line (h.2 m hm)
  obtain ⟨hw, ht⟩ := lays_block_foldl hh hn hone
  rw [← ClassDecl.render_eq] at hw
  have hs : c.source.toList = _ := hw.toList_text ht
  refine ⟨hs ▸ hw, ?_⟩
  rw [hs, blockText, Text.shift_flatMap fun m hm => (hone m hm).2]
  simp only [Text.shift_newline_cons]

theorem render_shifts_source_literal :
    let answer : Statement := .returns (some (.literal (.string "a\nb")))
    let f : Method :=
      { modifiers := ["public"], returnType := ⟨"String", none⟩, name := "f"
        parameters := [⟨⟨"int", none⟩, "n"⟩], body := [.expression (.ident "n" none), answer] }
    let c : ClassDecl := { name := "C", methods := [f, f] }
    NoBreaks answer.spellings ∧ NoBreaks f.spellings ∧ NoBreaks c.spellings ∧
      Lays answer.render answer.source.toList ∧ Lays f.render f.source.toList ∧
      Lays c.render c.source.toList := by
  intro answer f c
  have hs : NoBreaks answer.spellings := by decide +kernel
  have hf : NoBreaks f.spellings := by decide +kernel
  have hc : NoBreaks c.spellings := by decide +kernel
  obtain ⟨statement, method, classDecl⟩ := render_shifts_source
  exact ⟨hs, hf, hc, statement answer hs, method f hf, (classDecl c hc).1⟩

end GuardedCalls
