import GuardedCalls.Proofs.JsonScalars

/-! The two written forms of a value are one text with different blanks between its tokens. A reader
passes over these blanks, so it reads either form as the value that was written. -/

namespace GuardedCalls.Json

structure Layout where
  lineStart : Nat → List Char
  afterColon : List Char
  lineStart_isBlank : ∀ level, ∀ c ∈ lineStart level, isJsonBlank c = true
  afterColon_isBlank : ∀ c ∈ afterColon, isJsonBlank c = true

namespace Layout

def onOneLine : Layout where
  lineStart _ := []
  afterColon := []
  lineStart_isBlank := by simp
  afterColon_isBlank := by simp

def indented : Layout where
  lineStart level := (Json.lineStart level).toList
  afterColon := [' ']
  lineStart_isBlank level := by
    simp [Json.lineStart, isJsonBlank]
  afterColon_isBlank := by simp [isJsonBlank]

@[simp] lemma lineStart_onOneLine (level : Nat) : onOneLine.lineStart level = [] := rfl

@[simp] lemma afterColon_onOneLine : onOneLine.afterColon = [] := rfl

@[simp] lemma lineStart_indented (level : Nat) :
    indented.lineStart level = (Json.lineStart level).toList := rfl

@[simp] lemma afterColon_indented : indented.afterColon = [' '] := rfl

variable (l : Layout)

mutual
def text (level : Nat) : Json → List Char
  | .null => ['n', 'u', 'l', 'l']
  | .bool b => (boolText b).toList
  | .number n => n.text.toList
  | .string s => (stringText s).toList
  | .array [] => ['[', ']']
  | .array (j :: js) =>
    '[' :: (l.lineStart (level + 1) ++ (text (level + 1) j ++ (itemsText (level + 1) js
      ++ (l.lineStart level ++ [']']))))
  | .object [] => ['\x7b', '\x7d']
  | .object ((name, j) :: ms) =>
    '\x7b' :: (l.lineStart (level + 1) ++ ((stringText name).toList ++ ':' :: (l.afterColon
      ++ (text (level + 1) j ++ (membersText (level + 1) ms ++ (l.lineStart level ++ ['\x7d']))))))

def itemsText (level : Nat) : List Json → List Char
  | [] => []
  | j :: js => ',' :: (l.lineStart level ++ (text level j ++ itemsText level js))

def membersText (level : Nat) : List (String × Json) → List Char
  | [] => []
  | (name, j) :: ms =>
    ',' :: (l.lineStart level ++ ((stringText name).toList ++ ':' :: (l.afterColon
      ++ (text level j ++ membersText level ms))))
end

end Layout

mutual
lemma toList_compact : ∀ (j : Json) (level : Nat), j.compact.toList = Layout.onOneLine.text level j
  | .null, _ => rfl
  | .bool _, _ => rfl
  | .number _, _ => rfl
  | .string _, _ => rfl
  | .array [], _ => rfl
  | .array (j :: js), level => by
    have hj := toList_compact j (level + 1)
    have hjs := toList_compactItems js (level + 1)
    simp [compact, Layout.text, hj, hjs]
  | .object [], _ => rfl
  | .object ((name, j) :: ms), level => by
    have hj := toList_compact j (level + 1)
    have hms := toList_compactMembers ms (level + 1)
    simp [compact, Layout.text, hj, hms]

lemma toList_compactItems : ∀ (js : List Json) (level : Nat),
    (compactItems js).toList = Layout.onOneLine.itemsText level js
  | [], _ => rfl
  | j :: js, level => by
    have hj := toList_compact j level
    have hjs := toList_compactItems js level
    simp [compactItems, Layout.itemsText, hj, hjs]

lemma toList_compactMembers : ∀ (ms : List (String × Json)) (level : Nat),
    (compactMembers ms).toList = Layout.onOneLine.membersText level ms
  | [], _ => rfl
  | (name, j) :: ms, level => by
    have hj := toList_compact j level
    have hms := toList_compactMembers ms level
    simp [compactMembers, Layout.membersText, hj, hms]
end

mutual
lemma toList_prettyAt : ∀ (j : Json) (level : Nat),
    (prettyAt level j).toList = Layout.indented.text level j
  | .null, _ => by simp [prettyAt, Layout.text]
  | .bool _, _ => by simp [prettyAt, Layout.text]
  | .number _, _ => by simp [prettyAt, Layout.text]
  | .string _, _ => by simp [prettyAt, Layout.text]
  | .array [], _ => by simp [prettyAt, Layout.text]
  | .array (j :: js), level => by
    have hj := toList_prettyAt j (level + 1)
    have hjs := toList_prettyItems js (level + 1)
    simp [prettyAt, Layout.text, hj, hjs]
  | .object [], _ => by simp [prettyAt, Layout.text]
  | .object ((name, j) :: ms), level => by
    have hj := toList_prettyAt j (level + 1)
    have hms := toList_prettyMembers ms (level + 1)
    simp [prettyAt, Layout.text, hj, hms]

lemma toList_prettyItems : ∀ (js : List Json) (level : Nat),
    (prettyItems level js).toList = Layout.indented.itemsText level js
  | [], _ => rfl
  | j :: js, level => by
    have hj := toList_prettyAt j level
    have hjs := toList_prettyItems js level
    simp [prettyItems, Layout.itemsText, hj, hjs]

lemma toList_prettyMembers : ∀ (ms : List (String × Json)) (level : Nat),
    (prettyMembers level ms).toList = Layout.indented.membersText level ms
  | [], _ => rfl
  | (name, j) :: ms, level => by
    have hj := toList_prettyAt j level
    have hms := toList_prettyMembers ms level
    simp [prettyMembers, Layout.membersText, hj, hms]
end

variable {blanks text rest : List Char}

lemma isJsonBlank_iff {c : Char} :
    isJsonBlank c = true ↔ c = ' ' ∨ c = '\t' ∨ c = '\n' ∨ c = '\r' := by
  simp [isJsonBlank, or_assoc]

lemma skipBlank_append (hb : ∀ c ∈ blanks, isJsonBlank c = true) :
    skipBlank (blanks ++ text) = skipBlank text :=
  List.dropWhile_append_of_pos hb

lemma skipBlank_cons {c : Char} (hc : isJsonBlank c = false) : skipBlank (c :: text) = c :: text := by
  simp [skipBlank, hc]

lemma skipBlank_append_cons (hb : ∀ c ∈ blanks, isJsonBlank c = true) {c : Char}
    (hc : isJsonBlank c = false) : skipBlank (blanks ++ c :: text) = c :: text := by
  rw [skipBlank_append hb, skipBlank_cons hc]

lemma readValue_append (hb : ∀ c ∈ blanks, isJsonBlank c = true) (nesting : Nat) :
    readValue nesting (blanks ++ text) = readValue nesting text := by
  cases nesting <;> simp only [readValue, skipBlank_append hb]

lemma EndsNumber.append (hb : ∀ c ∈ blanks, isJsonBlank c = true) (ht : EndsNumber text) :
    EndsNumber (blanks ++ text) := by
  cases blanks with
  | nil => exact ht
  | cons c blanks =>
    intro d hd
    obtain rfl : c = d := Option.some_inj.mp hd
    rcases isJsonBlank_iff.mp (hb c List.mem_cons_self) with rfl | rfl | rfl | rfl <;> decide

lemma endsNumber_cons {c : Char} (hc : c = ',' ∨ c = ']' ∨ c = '\x7d') : EndsNumber (c :: text) := by
  intro d hd
  obtain rfl : c = d := Option.some_inj.mp hd
  rcases hc with rfl | rfl | rfl <;> decide

inductive Fits : Json → Prop
  | null : Fits .null
  | bool (b : Bool) : Fits (.bool b)
  | int {i : Int} (hi : InRange i) : Fits (.int i)
  | string (s : String) : Fits (.string s)
  | array {items : List Json} (hi : ∀ j ∈ items, Fits j) : Fits (.array items)
  | object {members : List (String × Json)} (hm : ∀ m ∈ members, Fits m.2) : Fits (.object members)

def BeginsItem (text : List Char) : Prop :=
  ∃ c rest, text = c :: rest ∧ isJsonBlank c = false ∧ c ≠ ']'

lemma BeginsItem.append (ht : BeginsItem text) : BeginsItem (text ++ rest) := by
  obtain ⟨c, text, rfl, hc⟩ := ht
  exact ⟨c, text ++ rest, rfl, hc⟩

lemma beginsItem_cons {c : Char} (hb : isJsonBlank c = false) (hc : c ≠ ']') :
    BeginsItem (c :: text) :=
  ⟨c, text, rfl, hb, hc⟩

lemma exists_cons_of_readScalar {r : Json × List Char} (hr : readScalar text = .ok r) :
    ∃ c t, text = c :: t ∧ isJsonBlank c = false ∧ c ≠ '[' ∧ c ≠ ']' ∧ c ≠ '\x7b' := by
  cases text with
  | nil => cases hr
  | cons c t =>
    -- At a blank or a bracket a scalar is refused.
    refine ⟨c, t, rfl, Bool.eq_false_iff.mpr fun hb => ?_, ?_, ?_, ?_⟩
    · rcases isJsonBlank_iff.mp hb with rfl | rfl | rfl | rfl <;> cases hr
    all_goals
      rintro rfl
      cases hr

lemma readValue_of_readScalar {r : Json × List Char} (hr : readScalar text = .ok r) (nesting : Nat) :
    readValue nesting text = .ok r := by
  obtain ⟨c, t, rfl, hb, ha, -, ho⟩ := exists_cons_of_readScalar hr
  have hs : skipBlank (c :: t) = c :: t := skipBlank_cons hb
  cases nesting <;> simp [readValue, hs, ha, ho, hr]

variable (l : Layout) {j : Json}

def ReadsBack (item : Reader Json) (level : Nat) (j : Json) : Prop :=
  ∀ rest, EndsNumber rest → item (l.text level j ++ rest) = .ok (j, rest)

section Scalars

variable (level : Nat)

lemma readsBack_null : ReadsBack l readScalar level .null :=
  fun _ _ => rfl

lemma readsBack_bool (b : Bool) : ReadsBack l readScalar level (.bool b) := by
  intro rest _
  cases b <;> rfl

lemma readsBack_int {i : Int} (hi : InRange i) : ReadsBack l readScalar level (.int i) :=
  fun _ hr => readScalar_int hi hr

lemma readsBack_string (s : String) : ReadsBack l readScalar level (.string s) := by
  intro rest _
  rw [Layout.text, stringText, String.toList_ofList, List.cons_append, List.append_assoc,
    List.singleton_append]
  simp [readScalar, readStringBody_flatMap, bind, Except.bind]

variable {l level}

lemma ReadsBack.readValue (hj : ReadsBack l readScalar level j) (nesting : Nat) :
    ReadsBack l (readValue nesting) level j :=
  fun rest hr => readValue_of_readScalar (hj rest hr) nesting

lemma ReadsBack.beginsItem (hj : ReadsBack l readScalar level j) : BeginsItem (l.text level j) := by
  have hr := hj [] (by simp [EndsNumber])
  rw [List.append_nil] at hr
  obtain ⟨c, t, ht, hb, -, hc, -⟩ := exists_cons_of_readScalar hr
  exact ⟨c, t, ht, hb, hc⟩

end Scalars

lemma Fits.beginsItem (hj : Fits j) (level : Nat) : BeginsItem (l.text level j) := by
  cases hj with
  | null => exact (readsBack_null l level).beginsItem
  | bool b => exact (readsBack_bool l level b).beginsItem
  | int hi => exact (readsBack_int l level hi).beginsItem
  | string s => exact (readsBack_string l level s).beginsItem
  | @array items => cases items <;> exact beginsItem_cons (by decide) (by decide)
  | @object members => cases members <;> exact beginsItem_cons (by decide) (by decide)

section Steps

variable (hb : ∀ c ∈ blanks, isJsonBlank c = true)
include hb

lemma nextItem_close (first : Bool) : nextItem first (blanks ++ ']' :: rest) = .ok (false, rest) := by
  have hs : skipBlank (blanks ++ ']' :: rest) = ']' :: rest :=
    skipBlank_append_cons hb (by decide)
  simp [nextItem, hs]

lemma nextItem_first (ht : BeginsItem text) : nextItem true (blanks ++ text) = .ok (true, text) := by
  obtain ⟨c, text, rfl, hc, hne⟩ := ht
  simp [nextItem, skipBlank_append_cons hb hc, hne]

lemma nextItem_comma (ht : BeginsItem text) :
    nextItem false (',' :: (blanks ++ text)) = .ok (true, text) := by
  obtain ⟨c, text, rfl, hc, hne⟩ := ht
  have hcomma : skipBlank (',' :: (blanks ++ c :: text)) = ',' :: (blanks ++ c :: text) :=
    skipBlank_cons (by decide)
  simp [nextItem, hcomma, skipBlank_append_cons hb hc, hne]

lemma nextName_close (first : Bool) :
    nextName first (blanks ++ '\x7d' :: rest) = .ok (none, rest) := by
  have hs : skipBlank (blanks ++ '\x7d' :: rest) = '\x7d' :: rest :=
    skipBlank_append_cons hb (by decide)
  simp [nextName, hs]

lemma skipBlank_stringText (s : String) :
    skipBlank (blanks ++ ((stringText s).toList ++ rest)) =
      '"' :: (s.toList.flatMap escapeChar ++ '"' :: rest) := by
  rw [stringText, String.toList_ofList, List.cons_append, skipBlank_append_cons hb (by decide),
    List.append_assoc, List.singleton_append]

lemma nextName_first (name : String) :
    nextName true (blanks ++ ((stringText name).toList ++ rest)) = .ok (some name, rest) := by
  simp [nextName, skipBlank_stringText hb, readStringBody_flatMap, bind, Except.bind]

lemma nextName_comma (name : String) :
    nextName false (',' :: (blanks ++ ((stringText name).toList ++ rest))) =
      .ok (some name, rest) := by
  have hcomma : skipBlank (',' :: (blanks ++ ((stringText name).toList ++ rest))) =
      ',' :: (blanks ++ ((stringText name).toList ++ rest)) := skipBlank_cons (by decide)
  simp [nextName, hcomma, skipBlank_stringText hb, readStringBody_flatMap, bind, Except.bind]

end Steps

lemma readItemsWithin_close {α : Type} {item : Reader α} {bound text : List Char} {first : Bool}
    (hn : nextItem first text = .ok (false, rest)) :
    readItemsWithin item bound first text = .ok ([], rest) := by
  cases bound <;> simp [readItemsWithin, hn]

lemma readItemsWithin_item {α : Type} {item : Reader α} {b : Char} {bound text t u : List Char}
    {first : Bool} {x : α} {xs : List α} (hn : nextItem first text = .ok (true, t))
    (hi : item t = .ok (x, u)) (hr : readItemsWithin item bound false u = .ok (xs, rest)) :
    readItemsWithin item (b :: bound) first text = .ok (x :: xs, rest) := by
  simp [readItemsWithin, hn, hi, hr, bind, Except.bind]

lemma readMembersWithin_close {α : Type} {item : Reader α} {bound text : List Char} {first : Bool}
    (hn : nextName first text = .ok (none, rest)) :
    readMembersWithin item bound first text = .ok ([], rest) := by
  cases bound <;> simp [readMembersWithin, hn]

lemma readMembersWithin_member {α : Type} {item : Reader α} {b : Char} {bound text t u : List Char}
    {first : Bool} {name : String} {x : α} {xs : List (String × α)}
    (hn : nextName first text = .ok (some name, ':' :: t)) (hi : item t = .ok (x, u))
    (hr : readMembersWithin item bound false u = .ok (xs, rest)) :
    readMembersWithin item (b :: bound) first text = .ok ((name, x) :: xs, rest) := by
  have hc : readColon (':' :: t) = .ok t := rfl
  rw [readMembersWithin.eq_def]
  simp [hn, hc, hi, hr, bind, Except.bind]

section Loops

variable {item : Reader Json} {level : Nat} (hb : ∀ c ∈ blanks, isJsonBlank c = true)
include hb

lemma endsNumber_itemsText (level : Nat) (js : List Json) (rest : List Char) :
    EndsNumber (l.itemsText level js ++ (blanks ++ ']' :: rest)) := by
  cases js with
  | nil =>
    rw [Layout.itemsText, List.nil_append]
    exact .append hb (endsNumber_cons (by simp))
  | cons => exact endsNumber_cons (by simp)

lemma endsNumber_membersText (level : Nat) (ms : List (String × Json)) (rest : List Char) :
    EndsNumber (l.membersText level ms ++ (blanks ++ '\x7d' :: rest)) := by
  cases ms with
  | nil =>
    rw [Layout.membersText, List.nil_append]
    exact .append hb (endsNumber_cons (by simp))
  | cons => exact endsNumber_cons (by simp)

lemma readItemsWithin_itemsText {js : List Json} (hf : ∀ j ∈ js, Fits j)
    (hr : ∀ j ∈ js, ReadsBack l item level j) (rest : List Char) {bound : List Char}
    (hl : js.length ≤ bound.length) :
    readItemsWithin item bound false (l.itemsText level js ++ (blanks ++ ']' :: rest)) =
      .ok (js, rest) := by
  induction js generalizing bound with
  | nil =>
    rw [Layout.itemsText, List.nil_append]
    exact readItemsWithin_close (nextItem_close hb false)
  | cons j js ih =>
    obtain ⟨b, bound, rfl⟩ := List.exists_cons_of_length_pos (Nat.zero_lt_of_lt hl)
    rw [List.forall_mem_cons] at hf hr
    have hj := hr.1 _ (endsNumber_itemsText l hb level js rest)
    have hs := ih hf.2 hr.2 (Nat.le_of_succ_le_succ hl)
    rw [Layout.itemsText, List.cons_append, List.append_assoc, List.append_assoc]
    refine readItemsWithin_item ?_ hj hs
    exact nextItem_comma (l.lineStart_isBlank level) (hf.1.beginsItem l level).append

lemma readMembersWithin_membersText {ms : List (String × Json)}
    (hr : ∀ m ∈ ms, ReadsBack l item level m.2) (rest : List Char) {bound : List Char}
    (ha : ∀ text, item (l.afterColon ++ text) = item text)
    (hl : ms.length ≤ bound.length) :
    readMembersWithin item bound false (l.membersText level ms ++ (blanks ++ '\x7d' :: rest)) =
      .ok (ms, rest) := by
  induction ms generalizing bound with
  | nil =>
    rw [Layout.membersText, List.nil_append]
    exact readMembersWithin_close (nextName_close hb false)
  | cons m ms ih =>
    obtain ⟨b, bound, rfl⟩ := List.exists_cons_of_length_pos (Nat.zero_lt_of_lt hl)
    rw [List.forall_mem_cons] at hr
    have hj := (ha _).trans (hr.1 _ (endsNumber_membersText l hb level ms rest))
    have hs := ih hr.2 (Nat.le_of_succ_le_succ hl)
    simp only [Layout.membersText, List.cons_append, List.append_assoc]
    exact readMembersWithin_member (nextName_comma (l.lineStart_isBlank level) m.1) hj hs

lemma readItemsWithin_text {j : Json} {js : List Json} (hf : ∀ k ∈ j :: js, Fits k)
    (hr : ∀ k ∈ j :: js, ReadsBack l item level k) {bound : List Char}
    (hl : js.length < bound.length) :
    readItemsWithin item bound true (l.lineStart level ++ (l.text level j
      ++ (l.itemsText level js ++ (blanks ++ ']' :: rest)))) = .ok (j :: js, rest) := by
  obtain ⟨b, bound, rfl⟩ := List.exists_cons_of_length_pos (Nat.zero_lt_of_lt hl)
  rw [List.forall_mem_cons] at hf hr
  have hj := hr.1 _ (endsNumber_itemsText l hb level js rest)
  have hs := readItemsWithin_itemsText l hb hf.2 hr.2 rest (Nat.le_of_lt_succ hl)
  refine readItemsWithin_item ?_ hj hs
  exact nextItem_first (l.lineStart_isBlank level) (hf.1.beginsItem l level).append

lemma readMembersWithin_text {m : String × Json} {ms : List (String × Json)}
    (hr : ∀ n ∈ m :: ms, ReadsBack l item level n.2) {bound : List Char}
    (ha : ∀ text, item (l.afterColon ++ text) = item text) (hl : ms.length < bound.length) :
    readMembersWithin item bound true (l.lineStart level ++ ((stringText m.1).toList ++ ':'
      :: (l.afterColon ++ (l.text level m.2 ++ (l.membersText level ms
      ++ (blanks ++ '\x7d' :: rest)))))) = .ok (m :: ms, rest) := by
  obtain ⟨b, bound, rfl⟩ := List.exists_cons_of_length_pos (Nat.zero_lt_of_lt hl)
  rw [List.forall_mem_cons] at hr
  have hj := (ha _).trans (hr.1 _ (endsNumber_membersText l hb level ms rest))
  have hs := readMembersWithin_membersText l hb hr.2 rest ha (Nat.le_of_lt_succ hl)
  exact readMembersWithin_member (nextName_first (l.lineStart_isBlank level) m.1) hj hs

end Loops

lemma length_le_length_itemsText (level : Nat) (js : List Json) :
    js.length ≤ (l.itemsText level js).length := by
  induction js with
  | nil => exact Nat.zero_le _
  | cons j js ih =>
    simp only [Layout.itemsText, List.length_cons, List.length_append]
    omega

lemma length_le_length_membersText (level : Nat) (ms : List (String × Json)) :
    ms.length ≤ (l.membersText level ms).length := by
  induction ms with
  | nil => exact Nat.zero_le _
  | cons m ms ih =>
    simp only [Layout.membersText, List.length_cons, List.length_append]
    omega

lemma readValue_array {n : Nat} {items : List Json}
    (hr : readItems (readValue n) text = .ok (items, rest)) :
    readValue (n + 1) ('[' :: text) = .ok (.array items, rest) := by
  have hs : skipBlank ('[' :: text) = '[' :: text := skipBlank_cons (by decide)
  simp [readValue, hs, hr, bind, Except.bind]

lemma readValue_object {n : Nat} {members : List (String × Json)}
    (hr : readMembers (readValue n) text = .ok (members, rest)) :
    readValue (n + 1) ('\x7b' :: text) = .ok (.object members, rest) := by
  have hs : skipBlank ('\x7b' :: text) = '\x7b' :: text := skipBlank_cons (by decide)
  simp [readValue, hs, hr, bind, Except.bind]

lemma Fits.readsBack (hj : Fits j) {nesting : Nat} (hd : j.depth ≤ nesting) (level : Nat) :
    ReadsBack l (readValue nesting) level j := by
  -- By induction on the value: one level in, the reader may nest one less deep and the text is
  -- indented one level more.
  induction hj generalizing nesting level with
  | null => exact (readsBack_null l level).readValue nesting
  | bool b => exact (readsBack_bool l level b).readValue nesting
  | int hi => exact (readsBack_int l level hi).readValue nesting
  | string s => exact (readsBack_string l level s).readValue nesting
  | @array items hf ih =>
    intro rest _
    obtain ⟨n, rfl⟩ := Nat.exists_eq_add_of_le' (Nat.le_of_add_left_le hd)
    have hi : ∀ k ∈ items, ReadsBack l (readValue n) (level + 1) k := fun k hk =>
      ih k hk (Nat.le_trans (depth_le_depthItems hk) (Nat.le_of_succ_le_succ hd)) (level + 1)
    cases items with
    | nil => exact readValue_array rfl
    | cons k ks =>
      simp only [Layout.text, List.cons_append, List.append_assoc]
      refine readValue_array (readItemsWithin_text l (l.lineStart_isBlank level) hf hi ?_)
      -- The text bounds the number of items, since every item after the first has its comma.
      have hl := length_le_length_itemsText l (level + 1) ks
      simp only [List.length_append, List.length_cons]
      omega
  | @object members hf ih =>
    intro rest _
    obtain ⟨n, rfl⟩ := Nat.exists_eq_add_of_le' (Nat.le_of_add_left_le hd)
    have hi : ∀ m ∈ members, ReadsBack l (readValue n) (level + 1) m.2 := fun m hm =>
      ih m hm (Nat.le_trans (depth_le_depthMembers hm) (Nat.le_of_succ_le_succ hd)) (level + 1)
    cases members with
    | nil => exact readValue_object rfl
    | cons m ms =>
      simp only [Layout.text, List.cons_append, List.append_assoc]
      refine readValue_object (readMembersWithin_text l (l.lineStart_isBlank level) hi
        (fun _ => readValue_append l.afterColon_isBlank n) ?_)
      have hl := length_le_length_membersText l (level + 1) ms
      simp only [List.length_append, List.length_cons]
      omega

end GuardedCalls.Json
