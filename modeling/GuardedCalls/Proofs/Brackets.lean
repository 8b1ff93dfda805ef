import GuardedCalls.Proofs.Histories
import Mathlib.Data.List.Nodup

/-! Walks without a stop as brackets. A node has a place in the tree, and what lies between its visit
and its leave are the steps at the places below it and no others. -/

namespace GuardedCalls

variable {σ : Type}

def Node.children : Node → List Node
  | .file f => f.imports.map .importDecl ++ f.classes.map .classDecl
  | .importDecl _ => []
  | .classDecl c => c.methods.map .method
  | .method m => m.body.map .statement
  | .statement s => s.expr?.toList.map .expr
  | .expr e => match e.call? with
    | some c => [.call c]
    | none => e.parts.map .expr
  | .call c => (c.receiver.toList ++ c.arguments).map .expr

def Node.outline : Node → Outline
  | .file f => f.outline
  | .importDecl i => i.outline
  | .classDecl c => c.outline
  | .method m => m.outline
  | .statement s => s.outline
  | .expr e => e.outline
  | .call c => c.outline

/-- A place lists the numbers of the children on the way down, counted from 0. -/
def Node.at? : Node → List Nat → Option Node
  | n, [] => some n
  | n, i :: place => n.children[i]?.bind (·.at? place)

def Outline.at? : Outline → List Nat → Option Node
  | o, [] => some o.node
  | o, i :: place => o.children[i]?.bind (·.at? place)

def Outline.atAll? (os : List Outline) : List Nat → Option Node
  | [] => none
  | i :: place => os[i]?.bind (·.at? place)

lemma Node.outline_eq (n : Node) : n.outline = .mk n (n.children.map Node.outline) := by
  have hf (g : Expr → Node) (hg : ∀ e, (g e).outline = e.outline) (es : List Expr) :
      (es.map g).map Node.outline = es.map Expr.outline := by
    rw [List.map_map]
    exact List.map_congr_left fun e _ => hg e
  cases n with
  | file f => simp [outline, children, SourceFile.outline, Function.comp_def]
  | importDecl i => rfl
  | classDecl c => simp [outline, children, ClassDecl.outline, Function.comp_def]
  | method m => simp [outline, children, Method.outline, Function.comp_def]
  | statement s => simp [outline, children, Statement.outline, Function.comp_def]
  | expr e =>
    rw [outline, Expr.outline_eq, children]
    cases hc : e.call? with
    | none => rw [hf .expr fun _ => rfl]
    | some c =>
      obtain rfl := (Expr.call?_eq_some_iff e c).mp hc
      simp [outline, Call.outline, Expr.receiverOutline_eq, Expr.listOutline_eq]
  | call c =>
    rw [outline, Call.outline, children, hf .expr fun _ => rfl, Expr.receiverOutline_eq,
      Expr.listOutline_eq, List.map_append]

lemma Node.at?_outline (n : Node) (place : List Nat) : n.outline.at? place = n.at? place := by
  induction place generalizing n with
  | nil =>
    rw [n.outline_eq]
    rfl
  | cons i place ih =>
    rw [n.outline_eq, Outline.at?, Node.at?, Outline.children, List.getElem?_map, Option.bind_map]
    congr 1
    funext child
    exact ih child

def Above (p q : List Nat) : Prop :=
  p <+: q ∧ p ≠ q

lemma above_nil_cons (i : Nat) (p : List Nat) : Above [] (i :: p) := by
  simp [Above]

lemma not_above_nil (p : List Nat) : ¬ Above p [] := by
  simp [Above]

lemma above_cons_cons {i j : Nat} {p q : List Nat} :
    Above (i :: p) (j :: q) ↔ i = j ∧ Above p q := by
  simp only [Above, List.cons_prefix_cons, ne_eq, List.cons.injEq]
  grind

lemma modifyHead_prefix_iff (p q : List Nat) :
    p.modifyHead (· + 1) <+: q.modifyHead (· + 1) ↔ p <+: q := by
  cases p <;> cases q <;> simp

lemma modifyHead_lex {p q : List Nat} (hpq : List.Lex (· < ·) p q) :
    List.Lex (· < ·) (p.modifyHead (· + 1)) (q.modifyHead (· + 1)) := by
  cases hpq with
  | nil => exact .nil
  | rel h => exact .rel (Nat.succ_lt_succ h)
  | cons h => exact .cons h

lemma modifyHead_eq_cons_succ_iff {i : Nat} {p q : List Nat} :
    p.modifyHead (· + 1) = (i + 1) :: q ↔ p = i :: q := by
  cases p <;> simp

lemma modifyHead_ne_cons_zero (p q : List Nat) : p.modifyHead (· + 1) ≠ 0 :: q := by
  cases p <;> simp

lemma above_modifyHead_iff {i : Nat} {p q : List Nat} :
    Above (p.modifyHead (· + 1)) ((i + 1) :: q) ↔ Above p (i :: q) := by
  cases p <;> simp [above_nil_cons, above_cons_cons]

def Step.node : Step → Node
  | .visit node _ => node
  | .leave node => node

def Step.isSkip : Step → Bool
  | .visit _ answer => answer = .skipChildren
  | .leave _ => false

@[simp] lemma Step.isSkip_visit (n : Node) (answer : Signal) :
    (Step.visit n answer).isSkip = decide (answer = .skipChildren) := rfl

@[simp] lemma Step.isSkip_leave (n : Node) : (Step.leave n).isSkip = false := rfl

structure Turn where
  place : List Nat
  step : Step

namespace Turn

def visited? (turn : Turn) : Option (List Nat) :=
  match turn.step with
  | .visit .. => some turn.place
  | .leave _ => none

def left? (turn : Turn) : Option (List Nat) :=
  match turn.step with
  | .visit .. => none
  | .leave _ => some turn.place

def move (g : List Nat → List Nat) (turn : Turn) : Turn :=
  { turn with place := g turn.place }

def joined (front back : List Turn) : List Turn :=
  front.map (move (0 :: ·)) ++ back.map (move (List.modifyHead (· + 1)))

def visited (turns : List Turn) : List (List Nat) :=
  turns.filterMap visited?

def left (turns : List Turn) : List (List Nat) :=
  turns.filterMap left?

section

variable (place : List Nat) (node : Node) (answer : Signal) (turns front back : List Turn)

@[simp] lemma visited_nil : visited [] = [] := rfl

@[simp] lemma visited_visit :
    visited (⟨place, .visit node answer⟩ :: turns) = place :: visited turns := rfl

@[simp] lemma visited_leave : visited (⟨place, .leave node⟩ :: turns) = visited turns := rfl

@[simp] lemma visited_append : visited (front ++ back) = visited front ++ visited back :=
  List.filterMap_append

@[simp] lemma left_visit : left (⟨place, .visit node answer⟩ :: turns) = left turns := rfl

@[simp] lemma left_leave : left (⟨place, .leave node⟩ :: turns) = place :: left turns := rfl

@[simp] lemma left_append : left (front ++ back) = left front ++ left back :=
  List.filterMap_append

end

inductive Nested : List Turn → Prop
  | nil : Nested []
  | pair {place : List Nat} {node : Node} {answer : Signal} {inner rest : List Turn} :
      Nested inner → Nested rest → (∀ turn ∈ inner, Above place turn.place) →
      (∀ turn ∈ rest, ¬ place <+: turn.place) →
      Nested (⟨place, .visit node answer⟩ :: (inner ++ ⟨place, .leave node⟩ :: rest))

lemma visited_move (g : List Nat → List Nat) (turns : List Turn) :
    visited (turns.map (move g)) = (visited turns).map g := by
  rw [visited, visited, List.filterMap_map, List.map_filterMap]
  congr 1
  funext turn
  obtain ⟨place, step⟩ := turn
  cases step <;> rfl

lemma visited_joined (front back : List Turn) : visited (joined front back) =
    (visited front).map (0 :: ·) ++ (visited back).map (List.modifyHead (· + 1)) := by
  rw [joined, visited_append, visited_move, visited_move]

lemma map_step_joined (front back : List Turn) :
    (joined front back).map step = front.map step ++ back.map step := by
  rw [joined, List.map_append, List.map_map, List.map_map]
  rfl

namespace Nested

variable {turns front back : List Turn}

lemma move {g : List Nat → List Nat} (hg : ∀ p q, g p <+: g q ↔ p <+: q) (h : Nested turns) :
    Nested (turns.map (Turn.move g)) := by
  induction h with
  | nil => exact .nil
  | @pair place node answer inner rest _ _ hi hr ihi ihr =>
    rw [List.map_cons, List.map_append, List.map_cons]
    refine .pair ihi ihr ?_ ?_
    · intro turn ht
      obtain ⟨old, ho, rfl⟩ := List.mem_map.mp ht
      refine ⟨(hg _ _).mpr (hi old ho).1, fun he => (hi old ho).2 ?_⟩
      have hp : old.place <+: place := (hg _ _).mp (by rw [he]; exact List.prefix_rfl)
      exact (hi old ho).1.eq_of_length_le hp.length_le
    · intro turn ht
      obtain ⟨old, ho, rfl⟩ := List.mem_map.mp ht
      exact fun hp => hr old ho ((hg _ _).mp hp)

lemma append (hf : Nested front) (hb : Nested back)
    (hs : ∀ a ∈ front, ∀ b ∈ back, ¬ a.place <+: b.place) : Nested (front ++ back) := by
  induction hf with
  | nil => exact hb
  | @pair place node answer inner rest hi _ hin hre _ ihr =>
    have hr := ihr fun a ha => hs a (by simp [ha])
    rw [List.cons_append, List.append_assoc, List.cons_append]
    refine .pair hi hr hin fun turn ht => ?_
    rcases List.mem_append.mp ht with ht | ht
    · exact hre turn ht
    · exact hs _ List.mem_cons_self turn ht

lemma visited_perm_left (h : Nested turns) : (visited turns).Perm (left turns) := by
  induction h with
  | nil => exact .nil
  | @pair place node answer inner rest _ _ _ _ ihi ihr =>
    rw [visited_visit, visited_append, visited_leave, left_visit, left_append, left_leave]
    exact ((ihi.append ihr).cons place).trans List.perm_middle.symm

end Nested

end Turn

open Turn (visited left Nested)

def Reached (at? : List Nat → Option Node) (turns : List Turn) (place : List Nat) : Prop :=
  (at? place).isSome = true ∧ ∀ turn ∈ turns, Above turn.place place → turn.step.isSkip = false

lemma reached_joined_zero_iff {o : Outline} {os : List Outline} {front back : List Turn}
    {place : List Nat} (hb : ∀ turn ∈ back, turn.place ≠ []) :
    Reached (Outline.atAll? (o :: os)) (Turn.joined front back) (0 :: place) ↔
      Reached o.at? front place := by
  have hn : ∀ turn ∈ back, ¬ Above (turn.place.modifyHead (· + 1)) (0 :: place) := by
    intro turn ht
    obtain ⟨i, p, hp⟩ := List.exists_cons_of_ne_nil (hb turn ht)
    simp [hp, above_cons_cons]
  simp only [Reached, Turn.joined, List.forall_mem_append, List.forall_mem_map, Turn.move,
    above_cons_cons, true_and]
  exact and_congr_right fun _ => and_iff_left fun turn ht ha => absurd ha (hn turn ht)

lemma reached_joined_succ_iff {o : Outline} {os : List Outline} {front back : List Turn} {i : Nat}
    {place : List Nat} :
    Reached (Outline.atAll? (o :: os)) (Turn.joined front back) ((i + 1) :: place) ↔
      Reached (Outline.atAll? os) back (i :: place) := by
  simp only [Reached, Turn.joined, List.forall_mem_append, List.forall_mem_map, Turn.move,
    above_cons_cons, above_modifyHead_iff]
  simp [Outline.atAll?]

structure Bracketed (at? : List Nat → Option Node) (turns : List Turn) : Prop where
  nested : Nested turns
  node (turn : Turn) : turn ∈ turns → at? turn.place = some turn.step.node
  ordered : (visited turns).Pairwise (List.Lex (· < ·))
  mem_visited_iff (place : List Nat) : place ∈ visited turns ↔ Reached at? turns place

namespace Bracketed

variable {turns front back : List Turn} {o : Outline} {os : List Outline}

lemma nil : Bracketed (Outline.atAll? []) [] where
  nested := .nil
  node _ := nofun
  ordered := .nil
  mem_visited_iff place := by cases place <;> simp [Reached, Outline.atAll?]

lemma skip (n : Node) (os : List Outline) : Bracketed (Outline.mk n os).at?
    [⟨[], .visit n .skipChildren⟩, ⟨[], .leave n⟩] where
  nested := @Nested.pair [] n .skipChildren [] [] .nil .nil nofun nofun
  node turn ht := by
    simp only [List.mem_cons, List.not_mem_nil, or_false] at ht
    rcases ht with rfl | rfl <;> rfl
  ordered := by simp
  mem_visited_iff place := by
    cases place with
    | nil => simp [Reached, Outline.at?, not_above_nil]
    | cons i place => simp [Reached, above_nil_cons]

lemma place_ne_nil (h : Bracketed (Outline.atAll? os) turns) {turn : Turn} (ht : turn ∈ turns) :
    turn.place ≠ [] := by
  intro hn
  have hs := h.node turn ht
  rw [hn] at hs
  exact nomatch hs

lemma nil_notMem_visited (h : Bracketed (Outline.atAll? os) turns) : [] ∉ visited turns := by
  intro hm
  exact nomatch ((h.mem_visited_iff []).mp hm).1

lemma proceed (n : Node) (h : Bracketed (Outline.atAll? os) turns) : Bracketed (Outline.mk n os).at?
    (⟨[], .visit n .proceed⟩ :: (turns ++ [⟨[], .leave n⟩])) where
  nested := by
    refine .pair h.nested .nil (fun turn ht => ?_) nofun
    exact ⟨List.nil_prefix, (h.place_ne_nil ht).symm⟩
  node turn ht := by
    simp only [List.mem_cons, List.mem_append, List.not_mem_nil, or_false] at ht
    rcases ht with rfl | ht | rfl
    · rfl
    · have hn := h.node turn ht
      obtain ⟨i, place, hp⟩ := List.exists_cons_of_ne_nil (h.place_ne_nil ht)
      rw [hp] at hn ⊢
      exact hn
    · rfl
  ordered := by
    rw [Turn.visited_visit, Turn.visited_append, Turn.visited_leave, Turn.visited_nil,
      List.append_nil, List.pairwise_cons]
    refine ⟨fun place hp => ?_, h.ordered⟩
    obtain ⟨i, rest, rfl⟩ := List.exists_cons_of_ne_nil fun hn => h.nil_notMem_visited (hn ▸ hp)
    exact .nil
  mem_visited_iff place := by
    cases place with
    | nil => simp [Reached, Outline.at?, not_above_nil]
    | cons i place =>
      have hm : i :: place ∈ visited (⟨[], .visit n .proceed⟩ :: (turns ++ [⟨[], .leave n⟩])) ↔
          i :: place ∈ visited turns := by simp
      rw [hm, h.mem_visited_iff]
      refine and_congr_right fun _ => ?_
      simp [or_imp, forall_and]

lemma cons (ho : Bracketed o.at? front) (hos : Bracketed (Outline.atAll? os) back) :
    Bracketed (Outline.atAll? (o :: os)) (Turn.joined front back) where
  nested := by
    refine (ho.nested.move fun p q => ?_).append (hos.nested.move modifyHead_prefix_iff) ?_
    · simp
    · intro a ha b hb
      obtain ⟨a, -, rfl⟩ := List.mem_map.mp ha
      obtain ⟨b, hm, rfl⟩ := List.mem_map.mp hb
      obtain ⟨i, place, hp⟩ := List.exists_cons_of_ne_nil (hos.place_ne_nil hm)
      simp [Turn.move, hp]
  node turn ht := by
    rcases List.mem_append.mp ht with ht | ht
    · obtain ⟨old, hm, rfl⟩ := List.mem_map.mp ht
      exact ho.node old hm
    · obtain ⟨old, hm, rfl⟩ := List.mem_map.mp ht
      have hn := hos.node old hm
      obtain ⟨i, place, hp⟩ := List.exists_cons_of_ne_nil (hos.place_ne_nil hm)
      rw [hp] at hn
      simpa [Turn.move, hp, Outline.atAll?] using hn
  ordered := by
    rw [Turn.visited_joined, List.pairwise_append]
    refine ⟨ho.ordered.map _ fun p q hpq => ?_, hos.ordered.map _ fun p q hpq => ?_, ?_⟩
    · exact .cons hpq
    · exact modifyHead_lex hpq
    · intro p hp q hq
      obtain ⟨p, -, rfl⟩ := List.mem_map.mp hp
      obtain ⟨q, hm, rfl⟩ := List.mem_map.mp hq
      obtain ⟨i, q, rfl⟩ := List.exists_cons_of_ne_nil fun hn => hos.nil_notMem_visited (hn ▸ hm)
      exact .rel i.succ_pos
  mem_visited_iff place := by
    rw [Turn.visited_joined, List.mem_append]
    rcases place with _ | ⟨_ | i, place⟩
    · have hr : ¬ Reached (Outline.atAll? (o :: os)) (Turn.joined front back) [] :=
        fun h => absurd h.1 Bool.false_ne_true
      simp [hr, hos.nil_notMem_visited]
    · rw [reached_joined_zero_iff fun turn ht => hos.place_ne_nil ht, ← ho.mem_visited_iff]
      simp [modifyHead_ne_cons_zero]
    · rw [reached_joined_succ_iff, ← hos.mem_visited_iff]
      simp [modifyHead_eq_cons_succ_iff]

lemma nodup_visited {at? : List Nat → Option Node} (h : Bracketed at? turns) :
    (visited turns).Nodup := by
  apply h.ordered.imp
  intro p q hpq he
  subst he
  exact List.lex_irrefl Nat.lt_irrefl p hpq

end Bracketed

mutual
theorem Outline.walk_bracketed {v : Visitor σ} (hv : ∀ n, Returns (v.visit n) (· ≠ .stop)) :
    ∀ (o : Outline) (s : σ) (log : List Step), ∃ s' turns,
      (o.walk (v.noting id)).run (s, log) = (true, s', log ++ turns.map Turn.step) ∧
        Bracketed o.at? turns
  | .mk n children, s, log => by
    cases ha : ((v.visit n).run s).1 with
    | stop => exact absurd ha (hv n s)
    | skipChildren =>
      refine ⟨((v.leave n).run ((v.visit n).run s).2).2, _, ?_, .skip n children⟩
      simp only [Outline.walk, run_bind, Visitor.run_noting_visit, ha, id,
        Visitor.run_noting_leave, run_pure, List.append_assoc]
      rfl
    | proceed =>
      obtain ⟨s', turns, hc, hb⟩ := Outline.walkAll_bracketed hv children
        ((v.visit n).run s).2 (log ++ [.visit n .proceed])
      refine ⟨((v.leave n).run s').2, _, ?_, hb.proceed n⟩
      simp only [Outline.walk, run_bind, Visitor.run_noting_visit, ha, id, hc, ↓reduceIte,
        Visitor.run_noting_leave, run_pure, List.map_cons, List.map_append, List.append_assoc]
      rfl

theorem Outline.walkAll_bracketed {v : Visitor σ} (hv : ∀ n, Returns (v.visit n) (· ≠ .stop)) :
    ∀ (os : List Outline) (s : σ) (log : List Step), ∃ s' turns,
      (Outline.walkAll (v.noting id) os).run (s, log) = (true, s', log ++ turns.map Turn.step) ∧
        Bracketed (Outline.atAll? os) turns
  | [], s, log => ⟨s, [], by rw [List.map_nil, List.append_nil]; rfl, .nil⟩
  | o :: os, s, log => by
    obtain ⟨s₁, front, ho, hf⟩ := Outline.walk_bracketed hv o s log
    obtain ⟨s₂, back, hos, hb⟩ := Outline.walkAll_bracketed hv os s₁ (log ++ front.map Turn.step)
    refine ⟨s₂, _, ?_, hf.cons hb⟩
    simp only [Outline.walkAll, run_bind, ho, ↓reduceIte, hos, Turn.map_step_joined,
      List.append_assoc]
end

/-- The steps have places in the tree: a node that is reached is visited and left once, and any other
not at all; the visits come in the order of the places, each node before those below it. -/
def Node.WellBracketed (n : Node) (steps : List Step) : Prop :=
  ∃ turns : List Turn, steps = turns.map Turn.step ∧ Nested turns ∧
    (∀ turn ∈ turns, n.at? turn.place = some turn.step.node) ∧
    (visited turns).Pairwise (List.Lex (· < ·)) ∧
    ∀ place,
      (Reached n.at? turns place → (visited turns).count place = 1 ∧ (left turns).count place = 1) ∧
      (¬ Reached n.at? turns place → place ∉ visited turns ∧ place ∉ left turns)

lemma Bracketed.wellBracketed {n : Node} {turns : List Turn} (h : Bracketed n.at? turns) :
    n.WellBracketed (turns.map Turn.step) := by
  refine ⟨turns, rfl, h.nested, h.node, h.ordered, fun place => ?_⟩
  have hl := h.nested.visited_perm_left
  constructor
  · intro hr
    have hm := (h.mem_visited_iff place).mpr hr
    have hc := List.count_eq_one_of_mem h.nodup_visited hm
    exact ⟨hc, (hl.count_eq place).symm.trans hc⟩
  · intro hr
    have hm : place ∉ visited turns := fun hm => hr ((h.mem_visited_iff place).mp hm)
    exact ⟨hm, fun hp => hm (hl.mem_iff.mpr hp)⟩

theorem Node.walk_well_bracketed {v : Visitor σ} (hv : ∀ n, Returns (v.visit n) (· ≠ .stop))
    (n : Node) (s : σ) :
    let walked := (n.outline.walk (v.noting id)).run (s, [])
    (n.outline.walk v).run s = (true, walked.2.1) ∧ n.WellBracketed walked.2.2 := by
  intro walked
  obtain ⟨s', turns, hw, hb⟩ := Outline.walk_bracketed hv n.outline s []
  have hwalked : walked = (true, s', turns.map Turn.step) := hw
  have hplain : (n.outline.walk v).run s = (walked.1, walked.2.1) :=
    Outline.walk_part (v.extends_noting id) n.outline (s, [])
  have hat : n.outline.at? = n.at? := funext n.at?_outline
  rw [hat] at hb
  rw [hplain, hwalked]
  exact ⟨rfl, hb.wellBracketed⟩

theorem Node.walk_well_bracketed_first_method :
    let visitor : Visitor Bool :=
      { visit := fun
          | .method _ => do
            let seen ← get
            set true
            return if seen then .proceed else .skipChildren
          | _ => return .proceed }
    let result : Expr := .ident "x" none
    let method (name : String) : Method :=
      { returnType := ⟨"int", none⟩, name, body := [.returns (some result)] }
    let decl : ClassDecl := { name := "C", methods := [method "f", method "g"] }
    (∀ n, Returns (visitor.visit n) (· ≠ .stop)) ∧
      Node.WellBracketed (.classDecl decl)
        [.visit (.classDecl decl) .proceed,
          .visit (.method (method "f")) .skipChildren, .leave (.method (method "f")),
          .visit (.method (method "g")) .proceed,
            .visit (.statement (.returns (some result))) .proceed,
              .visit (.expr result) .proceed, .leave (.expr result),
            .leave (.statement (.returns (some result))),
          .leave (.method (method "g")),
        .leave (.classDecl decl)] := by
  intro visitor result method decl
  have hv : ∀ n, Returns (visitor.visit n) (· ≠ .stop) := by
    intro n s
    cases n with
    | method m => cases s <;> exact nofun
    | _ => exact nofun
  exact ⟨hv, (Node.walk_well_bracketed hv (.classDecl decl) false).2⟩

end GuardedCalls
