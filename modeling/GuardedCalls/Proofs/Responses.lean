import GuardedCalls.Proofs.JsonGrammar
import GuardedCalls.Proofs.MemberOrder
import GuardedCalls.Tool.Response

/-! Responses in their two written forms. Both are JSON documents, and each stands for the value of
the response and nothing else; the short form is one line. -/

namespace GuardedCalls

namespace Json

inductive Integral : Json → Prop
  | null : Integral .null
  | bool (b : Bool) : Integral (.bool b)
  | int (i : Int) : Integral (.int i)
  | string (s : String) : Integral (.string s)
  | array {items : List Json} : (∀ j ∈ items, Integral j) → Integral (.array items)
  | object {members : List (String × Json)} :
      (∀ m ∈ members, Integral m.2) → Integral (.object members)

section Integral

variable {α : Type} {encode : α → Json} {j : Json}

@[simp] lemma integral_bool (b : Bool) : Integral (.bool b) := .bool b

@[simp] lemma integral_nat (n : Nat) : Integral (.nat n) := .int n

@[simp] lemma integral_string (s : String) : Integral (.string s) := .string s

@[simp] lemma integral_array_iff {items : List Json} :
    Integral (.array items) ↔ ∀ j ∈ items, Integral j :=
  ⟨fun h => by cases h; assumption, .array⟩

@[simp] lemma integral_object_iff {members : List (String × Json)} :
    Integral (.object members) ↔ ∀ m ∈ members, Integral m.2 :=
  ⟨fun h => by cases h; assumption, .object⟩

@[simp] lemma integral_strings (values : List String) : Integral (.strings values) := by
  simp [strings]

@[simp] lemma integral_optionalMember_iff {name : String} {x : Option α} :
    (∀ n j, (n, j) ∈ optionalMember name encode x → Integral j) ↔ ∀ y ∈ x, Integral (encode y) := by
  cases x <;> simp [optionalMember]

lemma Integral.sorted (hj : Integral j) : Integral j.sorted := by
  rw [← arranged_byName]
  induction hj with
  | null => exact .null
  | bool b => exact .bool b
  | int i => exact .int i
  | string s => exact .string s
  | array _ ih =>
    rw [arranged]
    exact .array (forall_mem_arrangedItems _ ih)
  | object _ ih =>
    rw [arranged]
    exact .object (forall_mem_order_arrangedMembers _ ih)

end Integral

section Written

variable {round : List Char → Float} {b b' : List Char} {j : Json} (l : Layout)

lemma isRow_flatMap {α β : Type} {close : Char} (part : β → List Char × α) (hb : IsBlanks b)
    (hb' : IsBlanks b') (x : β) (xs : List β) :
    IsRow close (b ++ ((part x).1 ++ (xs.flatMap (fun y => ',' :: (b ++ (part y).1))
      ++ (b' ++ [close])))) ((x :: xs).map part) := by
  induction xs generalizing x with
  | nil => exact .last hb hb'
  | cons y xs ih =>
    have hnil : IsBlanks [] := by simp [IsBlanks]
    have h := IsRow.cons (s := (part x).1) (x := (part x).2) hb hnil (ih y)
    simpa using h

def Layout.memberText (level : Nat) (m : String × Json) : MemberText where
  nameText := (stringText m.1).toList ++ ([] ++ ':' :: l.afterColon)
  name := m.1
  valueText := l.text level m.2
  value := m.2

lemma itemsText_eq_flatMap (level : Nat) (js : List Json) :
    l.itemsText level js = js.flatMap fun j => ',' :: (l.lineStart level ++ l.text level j) := by
  induction js with
  | nil => rfl
  | cons j js ih => simp [Layout.itemsText, ih]

lemma membersText_eq_flatMap (level : Nat) (ms : List (String × Json)) :
    l.membersText level ms =
      ms.flatMap fun m => ',' :: (l.lineStart level ++ (l.memberText level m).part.1) := by
  induction ms with
  | nil => rfl
  | cons m ms ih => simp [Layout.membersText, ih, Layout.memberText, MemberText.part]

lemma exists_isList_items (level : Nat) (items : List Json) :
    ∃ t, l.text level (.array items) = '[' :: t ∧
      IsList ']' t (items.map fun j => (l.text (level + 1) j, j)) := by
  cases items with
  | nil => exact ⟨[']'], rfl, .empty (List.forall_mem_nil _)⟩
  | cons j js =>
    refine ⟨_, rfl, .row ?_⟩
    rw [itemsText_eq_flatMap]
    apply isRow_flatMap (fun j => (l.text (level + 1) j, j))
    · exact l.lineStart_isBlank (level + 1)
    · exact l.lineStart_isBlank level

lemma exists_isList_members (level : Nat) (members : List (String × Json)) :
    ∃ t, l.text level (.object members) = '\x7b' :: t ∧
      IsList '\x7d' t ((members.map (l.memberText (level + 1))).map MemberText.part) := by
  cases members with
  | nil => exact ⟨['\x7d'], rfl, .empty (List.forall_mem_nil _)⟩
  | cons m ms =>
    refine ⟨l.lineStart (level + 1) ++ ((l.memberText (level + 1) m).part.1 ++
      (l.membersText (level + 1) ms ++ (l.lineStart level ++ ['\x7d']))), ?_, .row ?_⟩
    · simp [Layout.text, Layout.memberText, MemberText.part]
    · rw [List.map_map, membersText_eq_flatMap]
      apply isRow_flatMap (MemberText.part ∘ l.memberText (level + 1))
      · exact l.lineStart_isBlank (level + 1)
      · exact l.lineStart_isBlank level

lemma isName_memberText (level : Nat) (m : String × Json) :
    IsName (l.memberText level m).nameText (l.memberText level m).name := by
  apply IsName.mk (isString_stringText m.1)
  · exact List.forall_mem_nil _
  · exact l.afterColon_isBlank

lemma Integral.denotes (hj : Integral j) (level : Nat) : Denotes round (l.text level j) j := by
  induction hj generalizing level with
  | null => exact .scalar .null
  | bool b => cases b <;> apply Denotes.scalar <;> constructor
  | int i => exact .scalar (.number (.int (isInteger_toString i)))
  | string s => exact .scalar (.string (isString_stringText s))
  | @array items _ ih =>
    obtain ⟨t, ht, hl⟩ := exists_isList_items l level items
    have h := Denotes.array hl (List.forall_mem_map.mpr fun j hj => ih j hj (level + 1))
    rw [ht]
    simpa [Function.comp_def] using h
  | @object members _ ih =>
    obtain ⟨t, ht, hl⟩ := exists_isList_members l level members
    have h := Denotes.object hl (List.forall_mem_map.mpr fun m _ => isName_memberText l _ m)
      (List.forall_mem_map.mpr fun m hm => ih m hm (level + 1))
    rw [ht]
    simpa [Function.comp_def, Layout.memberText, MemberText.part] using h

lemma newline_notMem_stringText (s : String) : '\n' ∉ (stringText s).toList := by
  have hhex : ∀ n < 0x20, hexDigit (n / 16) ≠ '\n' ∧ hexDigit (n % 16) ≠ '\n' := by decide
  have hc : ∀ c, '\n' ∉ escapeChar c := by
    intro c
    rw [escapeChar]
    split_ifs with _ _ _ _ hn _ _ hl
    all_goals try decide
    · simp [(hhex c.toNat hl).1.symm, (hhex c.toNat hl).2.symm]
    · simpa using Ne.symm hn
  simp [stringText, hc]

lemma Integral.newline_notMem (hj : Integral j) (level : Nat) :
    '\n' ∉ Layout.onOneLine.text level j := by
  induction hj generalizing level with
  | null => simp [Layout.text]
  | bool b => cases b <;> simp [Layout.text, boolText]
  | int i =>
    intro h
    exact absurd ((isInteger_toString i).char h) (by decide)
  | string s => exact newline_notMem_stringText s
  | @array items _ ih =>
    cases items with
    | nil => simp [Layout.text]
    | cons j js =>
      rw [List.forall_mem_cons] at ih
      have hj := ih.1 (level + 1)
      have hjs := fun k hk => ih.2 k hk (level + 1)
      simpa [Layout.text, itemsText_eq_flatMap, hj] using hjs
  | @object members _ ih =>
    cases members with
    | nil => simp [Layout.text]
    | cons m ms =>
      rw [List.forall_mem_cons] at ih
      have hm := ih.1 (level + 1)
      have hms := fun k hk => ih.2 k hk (level + 1)
      simpa [Layout.text, membersText_eq_flatMap, Layout.memberText, MemberText.part,
        newline_notMem_stringText, hm] using hms

end Written

lemma getLast?_text_object (l : Layout) (level : Nat) (members : List (String × Json)) :
    (l.text level (.object members)).getLast? = some '\x7d' := by
  cases members <;> simp [Layout.text, List.getLast?_cons]

end Json

open Json

structure SaysTheSame (round : List Char → Float) (response : Json) : Prop where
  isDocument_iff : ∀ onOneLine j,
    IsDocument round (emit onOneLine response).toList j ↔ j = response
  one_line : ∃ line, (emit true response).toList = line ++ ['\n'] ∧ '\n' ∉ line
  last_line : ∃ lines, (emit false response).toList = lines ++ ['\n'] ∧
    lines.getLast? ≠ some '\n'

lemma toList_emit_true (j : Json) : (emit true j).toList = Layout.onOneLine.text 0 j ++ ['\n'] := by
  simp [emit, toList_compact j 0]

lemma toList_emit_false (j : Json) :
    (emit false j).toList = Layout.indented.text 0 j ++ ['\n'] := by
  simp [emit, pretty, toList_prettyAt]

lemma exists_toList_emit (onOneLine : Bool) (j : Json) :
    ∃ l : Layout, (emit onOneLine j).toList = l.text 0 j ++ ['\n'] := by
  cases onOneLine with
  | false => exact ⟨.indented, toList_emit_false j⟩
  | true => exact ⟨.onOneLine, toList_emit_true j⟩

variable {round : List Char → Float}

lemma Json.Integral.isDocument {j : Json} (hj : Integral j) (onOneLine : Bool) :
    IsDocument round (emit onOneLine j).toList j := by
  obtain ⟨l, hl⟩ := exists_toList_emit onOneLine j
  refine ⟨[], l.text 0 j, ['\n'], ?_, ?_, hj.denotes l 0, hl⟩
  · exact List.forall_mem_nil _
  · exact List.forall_mem_singleton.mpr rfl

lemma Json.Integral.saysTheSame {members : List (String × Json)} (hj : Integral (.object members)) :
    SaysTheSame round (.object members) where
  isDocument_iff onOneLine j := by
    have hd : IsDocument round _ _ := hj.isDocument onOneLine
    constructor
    · intro h
      exact h.unique hd
    · rintro rfl
      exact hd
  one_line := ⟨_, toList_emit_true _, hj.newline_notMem 0⟩
  last_line := by
    refine ⟨_, toList_emit_false _, ?_⟩
    rw [getLast?_text_object]
    decide

@[simp] lemma SkippedInfo.integral_toJson (s : SkippedInfo) : Integral s.toJson := by
  simp [toJson]

@[simp] lemma SiteInfo.integral_toJson (s : SiteInfo) : Integral s.toJson := by
  simp [toJson]

@[simp] lemma Summary.integral_toJson (s : Summary) : Integral s.toJson := by
  simp [toJson]

lemma FileResult.integral_toJson {r : FileResult} (hr : ∀ j ∈ r.tree, Integral j) :
    Integral r.toJson := by
  have ht : ∀ j ∈ r.tree, Integral j.sorted := fun j hj => (hr j hj).sorted
  simpa [toJson, or_imp, forall_and] using ht

lemma RunResponse.integral_toJson {r : RunResponse}
    (hr : ∀ f ∈ r.results, ∀ j ∈ f.tree, Integral j) : Integral r.toJson := by
  have hf : ∀ f ∈ r.results, Integral f.toJson := fun f hf => FileResult.integral_toJson (hr f hf)
  simpa [toJson] using hf

lemma SearchResponse.integral_toJson (r : SearchResponse) : Integral r.toJson := by
  simp [toJson]

lemma ErrorResponse.integral_toJson {r : ErrorResponse} (hr : ∀ j ∈ r.error.details, Integral j) :
    Integral r.toJson := by
  have hd : ∀ j ∈ r.error.details, Integral j.sorted := fun j hj => (hr j hj).sorted
  simpa [toJson, ErrorInfo.toJson, or_imp, forall_and] using hd

theorem emitted_forms_say_the_same (round : List Char → Float) :
    (∀ r : RunResponse, (∀ f ∈ r.results, ∀ j ∈ f.tree, Integral j) → SaysTheSame round r.toJson) ∧
    (∀ r : SearchResponse, SaysTheSame round r.toJson) ∧
    ∀ r : ErrorResponse, (∀ j ∈ r.error.details, Integral j) → SaysTheSame round r.toJson := by
  refine ⟨fun r hr => ?_, fun r => ?_, fun r hr => ?_⟩
  · exact (RunResponse.integral_toJson hr).saysTheSame
  · exact r.integral_toJson.saysTheSame
  · exact (ErrorResponse.integral_toJson hr).saysTheSame

theorem emitted_forms_say_the_same_embedded :
    let details : Json := .object [("b", .array [.object [], .array [], .null]),
      ("a\"\\\n\x01é", .int (-0x10000000000000000)), ("b", .bool true)]
    let failed : ErrorResponse := { error := ⟨3, "no \"x\"\r\n", some details⟩ }
    let changed : RunResponse :=
      { recipe := "r", summary := {}
        results := [⟨"A.java", true, 1, ["p.Log"], [⟨"A#f", "g(\"\")", "no_type", "\t"⟩],
          some details⟩] }
    (∀ j ∈ failed.error.details, Integral j) ∧
      (∀ f ∈ changed.results, ∀ j ∈ f.tree, Integral j) ∧
      SaysTheSame (fun _ => 0) failed.toJson ∧ SaysTheSame (fun _ => 0) changed.toJson := by
  intro details failed changed
  have hd : Integral details := by
    have hi : Integral (.int (-0x10000000000000000)) := .int _
    simp [details, Integral.null, hi]
  have hfailed : ∀ j ∈ failed.error.details, Integral j := by
    intro j hj
    exact Option.some_inj.mp hj ▸ hd
  have hchanged : ∀ f ∈ changed.results, ∀ j ∈ f.tree, Integral j := by
    intro f hf j hj
    obtain rfl := List.mem_singleton.mp hf
    exact Option.some_inj.mp hj ▸ hd
  have h := emitted_forms_say_the_same fun _ => 0
  exact ⟨hfailed, hchanged, h.2.2 failed hfailed, h.1 changed hchanged⟩

end GuardedCalls
