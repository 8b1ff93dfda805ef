import GuardedCalls.Proofs.Brackets
import GuardedCalls.Proofs.Walks

/-! The calls that a search finds and the order in which it lists them: class by class, method by
method and statement by statement, and in an expression by their places in it. -/

namespace GuardedCalls

namespace Expr

def at? : Expr → List Nat → Option Expr
  | e, [] => some e
  | e, i :: place => e.parts[i]?.bind (·.at? place)

def atAll? (es : List Expr) : List Nat → Option Expr
  | [] => none
  | i :: place => es[i]?.bind (·.at? place)

lemma at?_nil (e : Expr) : e.at? [] = some e := rfl

lemma at?_cons (e : Expr) (i : Nat) (place : List Nat) :
    e.at? (i :: place) = atAll? e.parts (i :: place) := rfl

lemma atAll?_cons_zero (e : Expr) (es : List Expr) (place : List Nat) :
    atAll? (e :: es) (0 :: place) = e.at? place := rfl

lemma atAll?_cons_succ (e : Expr) (es : List Expr) (i : Nat) (place : List Nat) :
    atAll? (e :: es) ((i + 1) :: place) = atAll? es (i :: place) := rfl

end Expr

/-- The items are what is at all the places there are, in the lexicographic order of the places: what
is at a place comes before what is below it, and that before what is below its neighbour. -/
def InOrder {α : Type} (at? : List Nat → Option α) (items : List α) : Prop :=
  ∃ places : List (List Nat), places.Pairwise (List.Lex (· < ·)) ∧
    (∀ place, place ∈ places ↔ (at? place).isSome = true) ∧ places.map at? = items.map some

namespace InOrder

variable {e : Expr} {es front back : List Expr}

lemma nil : InOrder (Expr.atAll? []) [] := by
  refine ⟨[], .nil, fun place => ?_, rfl⟩
  cases place <;> simp [Expr.atAll?]

lemma cons (he : InOrder e.at? front) (hes : InOrder (Expr.atAll? es) back) :
    InOrder (Expr.atAll? (e :: es)) (front ++ back) := by
  obtain ⟨ps, hp, hmp, hfront⟩ := he
  obtain ⟨qs, hq, hmq, hback⟩ := hes
  have hne : [] ∉ qs := fun hn => nomatch (hmq []).mp hn
  refine ⟨ps.map (0 :: ·) ++ qs.map (List.modifyHead (· + 1)), ?_, ?_, ?_⟩
  · rw [List.pairwise_append]
    refine ⟨hp.map _ fun _ _ h => .cons h, hq.map _ fun _ _ h => modifyHead_lex h, ?_⟩
    intro p hp q hq
    obtain ⟨p, -, rfl⟩ := List.mem_map.mp hp
    obtain ⟨q, hm, rfl⟩ := List.mem_map.mp hq
    obtain ⟨i, q, rfl⟩ := List.exists_cons_of_ne_nil fun hn => hne (hn ▸ hm)
    exact .rel i.succ_pos
  · rintro (_ | ⟨_ | i, place⟩)
    · simp [Expr.atAll?, hne]
    · rw [Expr.atAll?_cons_zero, ← hmp]
      simp [modifyHead_ne_cons_zero]
    · rw [Expr.atAll?_cons_succ, ← hmq]
      simp [modifyHead_eq_cons_succ_iff]
  · rw [List.map_append, List.map_map, List.map_map, List.map_append, ← hfront, ← hback]
    congr 1
    apply List.map_congr_left
    intro q hm
    obtain ⟨i, q, rfl⟩ := List.exists_cons_of_ne_nil fun hn => hne (hn ▸ hm)
    rfl

lemma root (h : InOrder (Expr.atAll? e.parts) back) : InOrder e.at? (e :: back) := by
  obtain ⟨qs, hq, hmq, hback⟩ := h
  have hcons : ∀ q ∈ qs, ∃ i place, q = i :: place := fun q hm =>
    List.exists_cons_of_ne_nil fun hn => nomatch (hmq []).mp (hn ▸ hm)
  refine ⟨[] :: qs, ?_, ?_, ?_⟩
  · refine List.pairwise_cons.mpr ⟨fun q hm => ?_, hq⟩
    obtain ⟨i, place, rfl⟩ := hcons q hm
    exact .nil
  · rintro (_ | ⟨i, place⟩)
    · simp [Expr.at?_nil]
    · rw [Expr.at?_cons, ← hmq]
      simp
  · rw [List.map_cons, List.map_cons, ← hback]
    congr 1
    apply List.map_congr_left
    intro q hm
    obtain ⟨i, place, rfl⟩ := hcons q hm
    rfl

lemma flatMap (h : ∀ e ∈ es, InOrder e.at? e.subexprs) :
    InOrder (Expr.atAll? es) (es.flatMap Expr.subexprs) := by
  induction es with
  | nil => exact nil
  | cons e es ih =>
    rw [List.flatMap_cons]
    exact (h e List.mem_cons_self).cons (ih fun s hs => h s (List.mem_cons_of_mem e hs))

end InOrder

namespace Expr

lemma inOrder_subexprs (e : Expr) : InOrder e.at? e.subexprs := by
  induction e using parts_induction with
  | step e ih =>
    rw [subexprs_eq]
    exact (InOrder.flatMap ih).root

lemma calls_eq_filterMap (e : Expr) : e.calls = e.subexprs.filterMap call? := by
  induction e using parts_induction with
  | step e ih =>
    have hp : e.parts.flatMap calls = e.parts.flatMap fun s => s.subexprs.filterMap call? :=
      List.flatMap_congr ih
    rw [calls_eq, subexprs_eq, hp, List.filterMap_cons, List.filterMap_flatMap]
    cases e.call? <;> rfl

end Expr

namespace MethodPattern

theorem findCalls_in_source_order (p : MethodPattern) (f : SourceFile) :
    (p.findCalls f = f.classes.flatMap fun c => c.methods.flatMap fun m =>
      m.body.flatMap fun s => s.expr?.toList.flatMap fun e =>
        ((e.subexprs.filterMap Expr.call?).filter p.acceptsCall).map fun call =>
          { scope := c.name ++ "." ++ m.name, call }) ∧
    ∀ e : Expr, InOrder e.at? e.subexprs := by
  refine ⟨?_, Expr.inOrder_subexprs⟩
  simp only [← Expr.calls_eq_filterMap]
  rw [findCalls_eq, SourceFile.sites, SourceFile.sitesBy, List.filter_flatMap]
  refine List.flatMap_congr fun c _ => ?_
  rw [ClassDecl.sitesBy, List.filter_flatMap]
  refine List.flatMap_congr fun m _ => ?_
  rw [Method.flatMap_body, Method.sitesBy, List.filter_map, List.filter_flatMap, List.map_flatMap]
  rfl

end MethodPattern

end GuardedCalls
