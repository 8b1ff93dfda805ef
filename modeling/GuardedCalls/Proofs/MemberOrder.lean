import GuardedCalls.Json.Record
import Mathlib.Data.List.Perm.Basic
import Mathlib.Tactic.Lemma
import Mathlib.Tactic.SplitIfs

/-! Values that differ in the order of members. Where the members of an object have different names,
a field is found by its name in any order, and no value lies deeper. -/

namespace GuardedCalls.Json

def names (members : List (String × Json)) : List String :=
  members.map Prod.fst

@[simp] lemma names_nil : names [] = [] := by simp [names]

@[simp] lemma names_cons (m : String × Json) (ms : List (String × Json)) :
    names (m :: ms) = m.1 :: names ms := by
  simp [names]

@[simp] lemma names_append (ms ms' : List (String × Json)) :
    names (ms ++ ms') = names ms ++ names ms' :=
  List.map_append

/-- An order for the members of each object. Members of a repeated name may be dropped, others not. -/
structure Arrangement where
  order : List (String × Json) → List (String × Json)
  subset : ∀ members, order members ⊆ members
  perm : ∀ {members}, (names members).Nodup → (order members).Perm members

mutual
def arranged (a : Arrangement) : Json → Json
  | .array items => .array (arrangedItems a items)
  | .object members => .object (a.order (arrangedMembers a members))
  | .null => .null
  | .bool b => .bool b
  | .number n => .number n
  | .string s => .string s

def arrangedItems (a : Arrangement) : List Json → List Json
  | [] => []
  | j :: js => j.arranged a :: arrangedItems a js

def arrangedMembers (a : Arrangement) : List (String × Json) → List (String × Json)
  | [] => []
  | (name, j) :: ms => (name, j.arranged a) :: arrangedMembers a ms
end

def putMembers (members done : List (String × Json)) : List (String × Json) :=
  members.foldl (fun done m => putMember m.1 m.2 done) done

lemma mem_or_mem_of_mem_putMember {name : String} {value : Json} {m : String × Json} :
    ∀ {members}, m ∈ putMember name value members → m = (name, value) ∨ m ∈ members
  | [], h => .inl (List.mem_singleton.mp h)
  | m' :: ms, h => by
    rw [putMember] at h
    split_ifs at h
    · exact List.mem_cons.mp h
    · exact (List.mem_cons.mp h).imp_right (List.mem_cons_of_mem m')
    · rcases List.mem_cons.mp h with h | h
      · exact .inr (h ▸ List.mem_cons_self)
      · exact (mem_or_mem_of_mem_putMember h).imp_right (List.mem_cons_of_mem m')

lemma putMembers_subset (members done : List (String × Json)) :
    putMembers members done ⊆ members ++ done := by
  induction members generalizing done with
  | nil => exact List.Subset.refl _
  | cons m ms ih =>
    intro m' h
    rcases List.mem_append.mp (ih _ h) with h | h
    · exact List.mem_cons_of_mem m (List.mem_append_left done h)
    · rcases mem_or_mem_of_mem_putMember h with rfl | h
      · exact List.mem_cons_self
      · exact List.mem_cons_of_mem m (List.mem_append_right ms h)

lemma putMember_perm {name : String} {members : List (String × Json)} (hn : name ∉ names members)
    (value : Json) : (putMember name value members).Perm ((name, value) :: members) := by
  induction members with
  | nil => exact .refl _
  | cons m ms ih =>
    obtain ⟨hne, hms⟩ := not_or.mp (mt List.mem_cons.mpr hn)
    rw [putMember, if_neg hne]
    split
    · exact .refl _
    · exact ((ih hms).cons m).trans (.swap _ _ _)

lemma putMembers_perm {members done : List (String × Json)}
    (hn : (names (members ++ done)).Nodup) : (putMembers members done).Perm (members ++ done) := by
  induction members generalizing done with
  | nil => exact .refl _
  | cons m ms ih =>
    have hm : m.1 ∉ names done := fun h => by
      rw [List.cons_append, names_cons, names_append] at hn
      exact (List.nodup_cons.mp hn).1 (List.mem_append_right _ h)
    have hp : (ms ++ putMember m.1 m.2 done).Perm (m :: (ms ++ done)) :=
      ((putMember_perm hm m.2).append_left ms).trans List.perm_middle
    exact (ih ((hp.map Prod.fst).nodup_iff.mpr hn)).trans hp

namespace Arrangement

def asWritten : Arrangement where
  order := id
  subset := List.Subset.refl
  perm _ := .refl _

def byName : Arrangement where
  order members := putMembers members []
  subset members := by
    have hs := putMembers_subset members []
    rwa [List.append_nil] at hs
  perm {members} hn := by
    rw [← List.append_nil members] at hn
    have hp := putMembers_perm hn
    rwa [List.append_nil] at hp

end Arrangement

mutual
lemma arranged_asWritten : ∀ j : Json, j.arranged .asWritten = j
  | .array items => by rw [arranged, arrangedItems_asWritten items]
  | .object members => by
    rw [arranged, arrangedMembers_asWritten members]
    rfl
  | .null => rfl
  | .bool _ => rfl
  | .number _ => rfl
  | .string _ => rfl

lemma arrangedItems_asWritten : ∀ items, arrangedItems .asWritten items = items
  | [] => rfl
  | j :: js => by rw [arrangedItems, arranged_asWritten j, arrangedItems_asWritten js]

lemma arrangedMembers_asWritten : ∀ members, arrangedMembers .asWritten members = members
  | [] => rfl
  | (name, j) :: ms => by rw [arrangedMembers, arranged_asWritten j, arrangedMembers_asWritten ms]
end

mutual
lemma arranged_byName : ∀ j : Json, j.arranged .byName = j.sorted
  | .array items => by rw [arranged, sorted, arrangedItems_byName items]
  | .object members => by
    rw [arranged, sorted, ← putMembers_arrangedMembers members []]
    rfl
  | .null => rfl
  | .bool _ => rfl
  | .number _ => rfl
  | .string _ => rfl

lemma arrangedItems_byName : ∀ items, arrangedItems .byName items = sortedItems items
  | [] => rfl
  | j :: js => by rw [arrangedItems, sortedItems, arranged_byName j, arrangedItems_byName js]

lemma putMembers_arrangedMembers : ∀ members done,
    putMembers (arrangedMembers .byName members) done = sortedMembers members done
  | [], _ => rfl
  | (name, j) :: ms, done => by
    rw [arrangedMembers, sortedMembers, ← putMembers_arrangedMembers ms, arranged_byName j]
    rfl
end

variable {α : Type} (a : Arrangement) {encode : α → Json} {position : Nat} {name : String}
  {value : Json} {members : List (String × Json)}

@[simp] lemma order_singleton (m : String × Json) : a.order [m] = [m] :=
  List.perm_singleton.mp (a.perm (List.pairwise_singleton _ m.1))

lemma filter_order (hn : (names members).Nodup) :
    (a.order members).filter (·.1 = name) = members.filter (·.1 = name) := by
  have hp := (a.perm hn).filter (·.1 = name)
  have hd := hn.sublist ((List.filter_sublist (p := (·.1 = name))).map Prod.fst)
  have hall : ∀ m ∈ members.filter (·.1 = name), m.1 = name := fun m hm => by
    simpa using (List.mem_filter.mp hm).2
  generalize members.filter (·.1 = name) = found at hp hd hall
  -- A list of at most one member has no other order, and two would have the same name.
  match found with
  | [] => exact List.perm_nil.mp hp
  | [m] => exact List.perm_singleton.mp hp
  | m :: m' :: ms =>
    have he : m.1 = m'.1 := (hall m (by simp)).trans (hall m' (by simp)).symm
    simp [he] at hd

@[simp] lemma Record.field_order (hn : (names members).Nodup) :
    (named (a.order members)).field position name = (named members).field position name := by
  rw [field, field, filter_order a hn]

lemma depthMembers_le_iff {d : Nat} :
    depthMembers members ≤ d ↔ ∀ m ∈ members, m.2.depth ≤ d := by
  induction members with
  | nil => simp [depthMembers]
  | cons m ms ih => rw [depthMembers, Nat.max_le, ih, List.forall_mem_cons]

@[simp] lemma depthMembers_append (ms : List (String × Json)) :
    depthMembers (members ++ ms) = max (depthMembers members) (depthMembers ms) := by
  induction members with
  | nil => simp [depthMembers]
  | cons m members ih => rw [List.cons_append, depthMembers, depthMembers, ih, Nat.max_assoc]

lemma depthMembers_order_le (members : List (String × Json)) :
    depthMembers (a.order members) ≤ depthMembers members :=
  depthMembers_le_iff.mpr fun _ hm => depth_le_depthMembers (a.subset members hm)

@[simp] lemma depthMembers_order (hn : (names members).Nodup) :
    depthMembers (a.order members) = depthMembers members := by
  refine Nat.le_antisymm (depthMembers_order_le a members) (depthMembers_le_iff.mpr ?_)
  exact fun m hm => depth_le_depthMembers ((a.perm hn).mem_iff.mpr hm)

mutual
lemma depth_arranged_le : ∀ j : Json, (j.arranged a).depth ≤ j.depth
  | .array items => by
    rw [arranged, depth, depth]
    exact Nat.succ_le_succ (depthItems_arrangedItems_le items)
  | .object members => by
    rw [arranged, depth, depth]
    exact Nat.succ_le_succ (Nat.le_trans (depthMembers_order_le a _)
      (depthMembers_arrangedMembers_le members))
  | .null => Nat.le.refl
  | .bool _ => Nat.le.refl
  | .number _ => Nat.le.refl
  | .string _ => Nat.le.refl

lemma depthItems_arrangedItems_le : ∀ items, depthItems (arrangedItems a items) ≤ depthItems items
  | [] => Nat.le.refl
  | j :: js => by
    have hj := depth_arranged_le j
    have hjs := depthItems_arrangedItems_le js
    rw [arrangedItems, depthItems, depthItems]
    omega

lemma depthMembers_arrangedMembers_le :
    ∀ members, depthMembers (arrangedMembers a members) ≤ depthMembers members
  | [] => Nat.le.refl
  | (name, j) :: ms => by
    have hj := depth_arranged_le j
    have hms := depthMembers_arrangedMembers_le ms
    rw [arrangedMembers, depthMembers, depthMembers]
    omega
end

@[simp] lemma mem_names_optionalMember {other : String} (x : Option α) :
    other ∈ names (optionalMember name encode x) ↔ x.isSome ∧ other = name := by
  cases x <;> simp [optionalMember]

@[simp] lemma nodup_names_optionalMember (x : Option α) :
    (names (optionalMember name encode x)).Nodup := by
  cases x <;> simp [optionalMember]

@[simp] lemma arranged_string (s : String) : (Json.string s).arranged a = .string s := rfl

@[simp] lemma arranged_bool (b : Bool) : (Json.bool b).arranged a = .bool b := rfl

lemma arrangedItems_eq_map (items : List Json) : arrangedItems a items = items.map (arranged a) := by
  induction items with
  | nil => rfl
  | cons j js ih => rw [arrangedItems, ih, List.map_cons]

lemma arrangedMembers_eq_map (members : List (String × Json)) :
    arrangedMembers a members = members.map fun m => (m.1, m.2.arranged a) := by
  induction members with
  | nil => rfl
  | cons m ms ih => rw [arrangedMembers, ih, List.map_cons]

lemma forall_mem_arrangedItems {P : Json → Prop} {items : List Json}
    (h : ∀ j ∈ items, P (j.arranged a)) : ∀ j ∈ arrangedItems a items, P j := by
  rw [arrangedItems_eq_map]
  exact List.forall_mem_map.mpr h

lemma forall_mem_order_arrangedMembers {P : Json → Prop}
    (h : ∀ m ∈ members, P (m.2.arranged a)) :
    ∀ m ∈ a.order (arrangedMembers a members), P m.2 := by
  intro m hm
  have hm := a.subset _ hm
  rw [arrangedMembers_eq_map] at hm
  obtain ⟨n, hn, rfl⟩ := List.mem_map.mp hm
  exact h n hn

@[simp] lemma arranged_array (xs : List α) :
    (Json.array (xs.map encode)).arranged a = .array (xs.map fun x => (encode x).arranged a) := by
  rw [arranged, arrangedItems_eq_map, List.map_map]
  rfl

@[simp] lemma arranged_strings (values : List String) :
    (Json.strings values).arranged a = .strings values :=
  arranged_array a values

@[simp] lemma arranged_object :
    (Json.object members).arranged a = .object (a.order (arrangedMembers a members)) := by
  rw [arranged]

@[simp] lemma arrangedMembers_nil : arrangedMembers a [] = [] := rfl

@[simp] lemma arrangedMembers_cons :
    arrangedMembers a ((name, value) :: members) =
      (name, value.arranged a) :: arrangedMembers a members := by
  rw [arrangedMembers]

@[simp] lemma arrangedMembers_append (ms : List (String × Json)) :
    arrangedMembers a (members ++ ms) = arrangedMembers a members ++ arrangedMembers a ms := by
  simp only [arrangedMembers_eq_map, List.map_append]

@[simp] lemma arrangedMembers_optionalMember (x : Option α) :
    arrangedMembers a (optionalMember name encode x) =
      optionalMember name (fun y => (encode y).arranged a) x := by
  cases x <;> rfl

lemma arranged_ne_null (hv : value ≠ .null) : value.arranged a ≠ .null := by
  cases value with
  | null => exact absurd rfl hv
  | _ => simp [arranged]

end GuardedCalls.Json
