import GuardedCalls.Proofs.Nodes
import GuardedCalls.Proofs.Stateful

/-! The steps of a walk. Where a visitor asks to stop, the walk ends right behind this step, and up to
there it goes the way of the walk that never stops. -/

namespace GuardedCalls

variable {σ τ : Type}

inductive Step
  | visit (node : Node) (answer : Signal)
  | leave (node : Node)
  deriving DecidableEq

namespace Step

def isStop : Step → Bool
  | .visit _ answer => answer = .stop
  | .leave _ => false

def left? : Step → Option Node
  | .visit .. => none
  | .leave node => some node

def upToStop (steps : List Step) : List Step :=
  steps.take (steps.findIdx isStop + 1)

lemma upToStop_cons_of_isStop {step : Step} (hs : step.isStop = true) (steps : List Step) :
    upToStop (step :: steps) = [step] := by
  simp [upToStop, List.findIdx_cons, hs]

lemma upToStop_cons {step : Step} (hs : step.isStop = false) (steps : List Step) :
    upToStop (step :: steps) = step :: upToStop steps := by
  simp [upToStop, List.findIdx_cons, hs]

lemma upToStop_append_of_any {as : List Step} (ha : as.any isStop = true) (bs : List Step) :
    upToStop (as ++ bs) = upToStop as := by
  induction as with
  | nil => simp at ha
  | cons step as ih =>
    cases hs : step.isStop with
    | true => rw [List.cons_append, upToStop_cons_of_isStop hs, upToStop_cons_of_isStop hs]
    | false =>
      rw [List.any_cons, hs, Bool.false_or] at ha
      rw [List.cons_append, upToStop_cons hs, upToStop_cons hs, ih ha]

lemma upToStop_append {as : List Step} (ha : as.any isStop = false) (bs : List Step) :
    upToStop (as ++ bs) = as ++ upToStop bs := by
  induction as with
  | nil => rfl
  | cons step as ih =>
    obtain ⟨hs, ha⟩ := Bool.or_eq_false_iff.mp (List.any_cons ▸ ha)
    rw [List.cons_append, upToStop_cons hs, ih ha, List.cons_append]

lemma upToStop_eq_self {steps : List Step} (hs : steps.any isStop = false) :
    upToStop steps = steps := by
  simpa [upToStop] using upToStop_append hs []

end Step

def Signal.onward : Signal → Signal
  | .stop => .proceed
  | signal => signal

namespace Visitor

def replying (reply : Signal → Signal) (v : Visitor σ) : Visitor σ where
  visit n := return reply (← v.visit n)
  leave := v.leave

def noting (reply : Signal → Signal) (v : Visitor σ) : Visitor (σ × List Step) where
  visit n := return reply (← noted (fun answer => [.visit n answer]) (v.visit n))
  leave n := noted (fun _ => [.leave n]) (v.leave n)

lemma run_noting_visit (reply : Signal → Signal) (v : Visitor σ) (n : Node) (s : σ)
    (log : List Step) : ((v.noting reply).visit n).run (s, log) =
      (reply ((v.visit n).run s).1, ((v.visit n).run s).2,
        log ++ [.visit n ((v.visit n).run s).1]) := rfl

lemma run_noting_leave (reply : Signal → Signal) (v : Visitor σ) (n : Node) (s : σ)
    (log : List Step) : ((v.noting reply).leave n).run (s, log) =
      ((), ((v.leave n).run s).2, log ++ [.leave n]) := rfl

end Visitor

structure Visitor.Extends (part : τ → σ) (v' : Visitor τ) (v : Visitor σ) : Prop where
  visit (n : Node) (t : τ) :
    ((v.visit n).run (part t)) = (((v'.visit n).run t).1, part ((v'.visit n).run t).2)
  leave (n : Node) (t : τ) : ((v.leave n).run (part t)) = ((), part ((v'.leave n).run t).2)

mutual
theorem Outline.walk_part {part : τ → σ} {v' : Visitor τ} {v : Visitor σ} (hv : v'.Extends part v) :
    ∀ (o : Outline) (t : τ),
      (o.walk v).run (part t) = (((o.walk v').run t).1, part ((o.walk v').run t).2)
  | .mk n children, t => by
    have hc := Outline.walkAll_part hv children
    rw [Outline.walk, Outline.walk, run_bind, run_bind, hv.visit]
    cases ((v'.visit n).run t).1 with
    | stop => rfl
    | skipChildren => simp only [run_bind, run_pure, hv.leave]
    | proceed =>
      simp only [run_bind, hc]
      split <;> simp only [run_bind, run_pure, hv.leave]

theorem Outline.walkAll_part {part : τ → σ} {v' : Visitor τ} {v : Visitor σ}
    (hv : v'.Extends part v) : ∀ (os : List Outline) (t : τ),
      (Outline.walkAll v os).run (part t) =
        (((Outline.walkAll v' os).run t).1, part ((Outline.walkAll v' os).run t).2)
  | [], _ => rfl
  | o :: os, t => by
    have ho := Outline.walk_part hv o
    have hos := Outline.walkAll_part hv os
    rw [Outline.walkAll, Outline.walkAll, run_bind, run_bind, ho]
    split <;> simp only [run_pure, hos]
end

lemma Visitor.extends_noting (reply : Signal → Signal) (v : Visitor σ) :
    (v.noting reply).Extends Prod.fst (v.replying reply) where
  visit _ _ := rfl
  leave _ _ := rfl

mutual
theorem Outline.walk_noting_of_proceeds {v : Visitor σ}
    (hv : ∀ n, Returns (v.visit n) (· = .proceed)) : ∀ (o : Outline) (s : σ) (log : List Step),
    ∃ s' steps, (o.walk (v.noting id)).run (s, log) = (true, s', log ++ steps) ∧
      steps.filterMap Step.left? = o.nodesInsideOut
  | .mk n children, s, log => by
    obtain ⟨s', steps, hc, hl⟩ := Outline.walkAll_noting_of_proceeds hv children
      ((v.visit n).run s).2 (log ++ [.visit n .proceed])
    have hn : ((v.visit n).run s).1 = .proceed := hv n s
    refine ⟨((v.leave n).run s').2, .visit n .proceed :: (steps ++ [.leave n]), ?_, ?_⟩
    · simp only [Outline.walk, run_bind, Visitor.run_noting_visit, hn, id, hc, ↓reduceIte,
        Visitor.run_noting_leave, run_pure, List.append_assoc, List.cons_append, List.nil_append]
    · rw [List.filterMap_cons_none rfl, List.filterMap_append, hl, Outline.nodesInsideOut]
      rfl

theorem Outline.walkAll_noting_of_proceeds {v : Visitor σ}
    (hv : ∀ n, Returns (v.visit n) (· = .proceed)) : ∀ (os : List Outline) (s : σ) (log : List Step),
    ∃ s' steps, (Outline.walkAll (v.noting id) os).run (s, log) = (true, s', log ++ steps) ∧
      steps.filterMap Step.left? = Outline.nodesInsideOutOfAll os
  | [], s, log => ⟨s, [], by rw [List.append_nil]; rfl, rfl⟩
  | o :: os, s, log => by
    obtain ⟨s₁, as, ho, ha⟩ := Outline.walk_noting_of_proceeds hv o s log
    obtain ⟨s₂, bs, hos, hb⟩ := Outline.walkAll_noting_of_proceeds hv os s₁ (log ++ as)
    refine ⟨s₂, as ++ bs, ?_, ?_⟩
    · simp only [Outline.walkAll, run_bind, ho, ↓reduceIte, hos, List.append_assoc]
    · rw [List.filterMap_append, ha, hb, Outline.nodesInsideOutOfAll]
end

/-- From every state the first walk takes the steps of the second up to the first stop. -/
def CutsOff (x y : StateM (σ × List Step) Bool) : Prop :=
  ∀ s log, ∃ s' steps, y.run (s, log) = (true, s', log ++ steps) ∧
    (steps.any Step.isStop = true →
      ∃ s'', x.run (s, log) = (false, s'', log ++ Step.upToStop steps)) ∧
    (steps.any Step.isStop = false → x.run (s, log) = (true, s', log ++ steps))

namespace CutsOff

variable {x y x' y' : StateM (σ × List Step) Bool}

lemma pure_true : CutsOff (pure true : StateM (σ × List Step) Bool) (pure true) :=
  fun s _ => ⟨s, [], by rw [List.append_nil]; rfl, nofun, fun _ => by rw [List.append_nil]; rfl⟩

lemma leave (v : Visitor σ) (n : Node) :
    CutsOff (do (v.noting id).leave n; return true)
      (do (v.noting Signal.onward).leave n; return true) :=
  fun s _ => ⟨((v.leave n).run s).2, [.leave n], rfl, nofun, fun _ => rfl⟩

lemma andThen (hx : CutsOff x y) (hx' : CutsOff x' y') :
    CutsOff (do if ← x then x' else return false) (do if ← y then y' else return false) := by
  intro s log
  obtain ⟨s₁, as, hy, hstop, hgo⟩ := hx s log
  obtain ⟨s₂, bs, hy', hstop', hgo'⟩ := hx' s₁ (log ++ as)
  refine ⟨s₂, as ++ bs, ?_, fun h => ?_, fun h => ?_⟩
  · simp only [run_bind, hy, ↓reduceIte, hy', List.append_assoc]
  · cases ha : as.any Step.isStop with
    | true =>
      obtain ⟨s₃, hx⟩ := hstop ha
      refine ⟨s₃, ?_⟩
      rw [Step.upToStop_append_of_any ha]
      simp only [run_bind, hx, run_pure, Bool.false_eq_true, ↓reduceIte]
    | false =>
      rw [List.any_append, ha, Bool.false_or] at h
      obtain ⟨s₃, hx'⟩ := hstop' h
      refine ⟨s₃, ?_⟩
      rw [Step.upToStop_append ha]
      simp only [run_bind, hgo ha, ↓reduceIte, hx', List.append_assoc]
  · obtain ⟨ha, hb⟩ := Bool.or_eq_false_iff.mp (List.any_append ▸ h)
    simp only [run_bind, hgo ha, ↓reduceIte, hgo' hb, List.append_assoc]

lemma behind (hx : CutsOff x y) {step : Step} (hs : step.isStop = false) (s : σ) (log : List Step) :
    ∃ s' steps, y.run (s, log ++ [step]) = (true, s', log ++ steps) ∧
      (steps.any Step.isStop = true →
        ∃ s'', x.run (s, log ++ [step]) = (false, s'', log ++ Step.upToStop steps)) ∧
      (steps.any Step.isStop = false → x.run (s, log ++ [step]) = (true, s', log ++ steps)) := by
  obtain ⟨s', steps, hy, hstop, hgo⟩ := hx s (log ++ [step])
  simp only [List.append_assoc, List.singleton_append] at hy hstop hgo
  refine ⟨s', step :: steps, ?_⟩
  rw [List.any_cons, hs, Bool.false_or, Step.upToStop_cons hs]
  exact ⟨hy, hstop, hgo⟩

end CutsOff

mutual
theorem Outline.cutsOff_walk (v : Visitor σ) : ∀ o : Outline,
    CutsOff (o.walk (v.noting id)) (o.walk (v.noting Signal.onward))
  | .mk n children => by
    have hr := (Outline.cutsOff_walkAll v children).andThen (.leave v n)
    intro s log
    rw [Outline.walk, Outline.walk, run_bind, run_bind, Visitor.run_noting_visit,
      Visitor.run_noting_visit]
    generalize (v.visit n).run s = visited
    obtain ⟨answer, s₁⟩ := visited
    cases answer with
    | stop =>
      -- The walk that goes on takes whatever steps it takes; the other one is at its end.
      obtain ⟨s', steps, hy, -⟩ := hr s₁ (log ++ [.visit n .stop])
      rw [List.append_assoc] at hy
      refine ⟨s', .visit n .stop :: steps, hy, fun _ => ⟨s₁, ?_⟩, fun h => ?_⟩
      · rw [Step.upToStop_cons_of_isStop rfl]
        rfl
      · simp [Step.isStop] at h
    | skipChildren => exact (CutsOff.leave v n).behind rfl s₁ log
    | proceed => exact hr.behind rfl s₁ log

theorem Outline.cutsOff_walkAll (v : Visitor σ) : ∀ os : List Outline,
    CutsOff (Outline.walkAll (v.noting id) os) (Outline.walkAll (v.noting Signal.onward) os)
  | [] => .pure_true
  | o :: os => (Outline.cutsOff_walk v o).andThen (Outline.cutsOff_walkAll v os)
end

theorem Outline.walk_cut_at_stop (v : Visitor σ) (o : Outline) (s : σ) :
    let walked := (o.walk (v.noting id)).run (s, [])
    let onward := (o.walk (v.noting Signal.onward)).run (s, [])
    (o.walk v).run s = (walked.1, walked.2.1) ∧
      (o.walk (v.replying Signal.onward)).run s = (onward.1, onward.2.1) ∧
      walked.2.2 = onward.2.2.take (onward.2.2.findIdx Step.isStop + 1) ∧
      (walked.1 = false ↔ ∃ step ∈ onward.2.2, step.isStop = true) := by
  intro walked onward
  refine ⟨Outline.walk_part (v.extends_noting id) o (s, []),
    Outline.walk_part (v.extends_noting Signal.onward) o (s, []), ?_⟩
  obtain ⟨s', steps, hy, hstop, hgo⟩ := Outline.cutsOff_walk v o s []
  have ho : onward = (true, s', steps) := hy
  rw [ho, ← List.any_eq_true]
  cases hs : steps.any Step.isStop with
  | true =>
    obtain ⟨s'', hx⟩ := hstop hs
    have hw : walked = (false, s'', Step.upToStop steps) := hx
    rw [hw]
    exact ⟨rfl, by simp⟩
  | false =>
    have hw : walked = (true, s', steps) := hgo hs
    rw [hw]
    exact ⟨(Step.upToStop_eq_self hs).symm, by simp⟩

end GuardedCalls
