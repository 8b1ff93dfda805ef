/-!
Lists cut along a pattern. A slot takes one element or any number of them, and the slots of a
pattern take the whole list between them, each its stretch in turn.
-/

namespace GuardedCalls.Pattern

inductive Slot (α : Type)
  | one (test : α → Bool)
  | run (test : α → Bool)

variable {α : Type}

inductive Aligned : List (Slot α) → List α → Prop
  | nil : Aligned [] []
  | one {test : α → Bool} {x : α} {slots : List (Slot α)} {xs : List α} :
      test x = true → Aligned slots xs → Aligned (.one test :: slots) (x :: xs)
  | skip {test : α → Bool} {slots : List (Slot α)} {xs : List α} :
      Aligned slots xs → Aligned (.run test :: slots) xs
  | take {test : α → Bool} {x : α} {slots : List (Slot α)} {xs : List α} :
      test x = true → Aligned (.run test :: slots) xs → Aligned (.run test :: slots) (x :: xs)

def emptyRow : List (Slot α) → List Bool
  | [] => [true]
  | .one _ :: slots => false :: emptyRow slots
  | .run _ :: slots => (emptyRow slots).headD false :: emptyRow slots

def consRow (x : α) : List (Slot α) → List Bool → List Bool
  | [], _ => [false]
  | .one test :: slots, row =>
    (test x && row.tail.headD false) :: consRow x slots row.tail
  | .run test :: slots, row =>
    let below := consRow x slots row.tail
    (below.headD false || (test x && row.headD false)) :: below

def row (slots : List (Slot α)) (xs : List α) : List Bool :=
  -- One answer for every tail of the pattern, the longest first.
  xs.foldr (fun x row => consRow x slots row) (emptyRow slots)

def aligns (slots : List (Slot α)) (xs : List α) : Bool :=
  (row slots xs).headD false

theorem emptyRow_cons (slot : Slot α) (slots : List (Slot α)) :
    ∃ b, emptyRow (slot :: slots) = b :: emptyRow slots := by
  cases slot <;> exact ⟨_, rfl⟩

theorem consRow_cons (x : α) (slot : Slot α) (slots : List (Slot α)) (r : List Bool) :
    ∃ b, consRow x (slot :: slots) r = b :: consRow x slots r.tail := by
  cases slot <;> exact ⟨_, rfl⟩

theorem row_cons_slot (slot : Slot α) (slots : List (Slot α)) (xs : List α) :
    ∃ b, row (slot :: slots) xs = b :: row slots xs := by
  induction xs with
  | nil => exact emptyRow_cons slot slots
  | cons x xs ih =>
    obtain ⟨b, hb⟩ := ih
    obtain ⟨c, hc⟩ := consRow_cons x slot slots (row (slot :: slots) xs)
    refine ⟨c, ?_⟩
    rw [hb, List.tail_cons] at hc
    rw [row, List.foldr_cons, ← row, hb, hc]
    rfl

theorem tail_row (slot : Slot α) (slots : List (Slot α)) (xs : List α) :
    (row (slot :: slots) xs).tail = row slots xs := by
  obtain ⟨b, hb⟩ := row_cons_slot slot slots xs
  rw [hb, List.tail_cons]

theorem aligns_nil_cons (x : α) (xs : List α) : aligns [] (x :: xs) = false := rfl

theorem aligns_one_nil (test : α → Bool) (slots : List (Slot α)) :
    aligns (.one test :: slots) [] = false := rfl

theorem aligns_run_nil (test : α → Bool) (slots : List (Slot α)) :
    aligns (.run test :: slots) [] = aligns slots [] := rfl

theorem aligns_one_cons (test : α → Bool) (slots : List (Slot α)) (x : α) (xs : List α) :
    aligns (.one test :: slots) (x :: xs) = (test x && aligns slots xs) := by
  show (test x && (row (.one test :: slots) xs).tail.headD false) = _
  rw [tail_row, aligns]

theorem aligns_run_cons (test : α → Bool) (slots : List (Slot α)) (x : α) (xs : List α) :
    aligns (.run test :: slots) (x :: xs) =
      (aligns slots (x :: xs) || (test x && aligns (.run test :: slots) xs)) := by
  show ((consRow x slots (row (.run test :: slots) xs).tail).headD false || _) = _
  rw [tail_row]
  rfl

theorem aligned_of_aligns (slots : List (Slot α)) (xs : List α) (h : aligns slots xs = true) :
    Aligned slots xs := by
  induction slots generalizing xs with
  | nil =>
    cases xs with
    | nil => exact .nil
    | cons x xs => simp [aligns_nil_cons] at h
  | cons slot slots ih =>
    cases slot with
    | one test =>
      cases xs with
      | nil => simp [aligns_one_nil] at h
      | cons x xs =>
        rw [aligns_one_cons, Bool.and_eq_true] at h
        exact .one h.1 (ih xs h.2)
    | run test =>
      induction xs with
      | nil => exact .skip (ih [] (by rwa [aligns_run_nil] at h))
      | cons x xs ihx =>
        rw [aligns_run_cons, Bool.or_eq_true, Bool.and_eq_true] at h
        rcases h with h | h
        · exact .skip (ih _ h)
        · exact .take h.1 (ihx h.2)

theorem aligns_of_aligned {slots : List (Slot α)} {xs : List α} (h : Aligned slots xs) :
    aligns slots xs = true := by
  induction h with
  | nil => rfl
  | one ht _ ih => rw [aligns_one_cons, ht, ih, Bool.and_self]
  | @skip test slots xs _ ih =>
    cases xs with
    | nil => rw [aligns_run_nil, ih]
    | cons x xs => rw [aligns_run_cons, ih, Bool.true_or]
  | take ht _ ih => rw [aligns_run_cons, ht, ih, Bool.and_self, Bool.or_true]

theorem aligns_iff (slots : List (Slot α)) (xs : List α) :
    aligns slots xs = true ↔ Aligned slots xs :=
  ⟨aligned_of_aligns slots xs, aligns_of_aligned⟩

end GuardedCalls.Pattern
