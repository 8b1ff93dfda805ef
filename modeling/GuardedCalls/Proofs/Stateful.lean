import Mathlib.Tactic.Lemma

/-! What computations on a state come to when they are run from a given one. -/

namespace GuardedCalls

variable {σ α β ε : Type}

lemma run_pure (a : α) (s : σ) : (pure a : StateM σ α).run s = (a, s) := rfl

lemma run_bind (x : StateM σ α) (next : α → StateM σ β) (s : σ) :
    (x >>= next).run s = (next (x.run s).1).run (x.run s).2 := rfl

lemma run_modify (change : σ → σ) (s : σ) : (modify change : StateM σ Unit).run s = ((), change s) :=
  rfl

lemma run_get (s : σ) : (get : StateM σ σ).run s = (s, s) := rfl

def Returns (x : StateM σ α) (P : α → Prop) : Prop :=
  ∀ s, P (x.run s).1

namespace Returns

variable {x : StateM σ α} {next : α → StateM σ β} {P : α → Prop} {Q : β → Prop}

lemma pure {a : α} (ha : P a) : Returns (Pure.pure a : StateM σ α) P := fun _ => ha

lemma bind (hx : Returns x P) (hn : ∀ a, P a → Returns (next a) Q) : Returns (x >>= next) Q :=
  fun s => hn _ (hx s) (x.run s).2

end Returns

def noted (entries : α → List ε) (x : StateM σ α) : StateM (σ × List ε) α := fun (s, log) =>
  ((x.run s).1, (x.run s).2, log ++ entries (x.run s).1)

lemma run_mapM {act : α → StateM σ β} {result : α → β} {next : σ → α → σ} {xs : List α}
    (hx : ∀ x ∈ xs, ∀ s, (act x).run s = (result x, next s x)) (s : σ) :
    (xs.mapM act).run s = (xs.map result, xs.foldl next s) := by
  induction xs generalizing s with
  | nil => rfl
  | cons x xs ih =>
    have hxs := ih (fun y hy => hx y (List.mem_cons_of_mem x hy))
    rw [List.mapM_cons, run_bind, hx x List.mem_cons_self, run_bind, hxs, run_pure, List.map_cons,
      List.foldl_cons]

end GuardedCalls
