import GuardedCalls.Proofs.Idempotence
import GuardedCalls.Proofs.Innermost

/-! A run tells of a change exactly if it has made one. Both come down to the same question: whether
the file has an eligible call. -/

namespace GuardedCalls.Recipe

variable {r : Recipe}

lemma exists_isInnermost {e : Expr} (he : ∃ c ∈ e.calls, r.isEligible c = true) :
    ∃ c ∈ e.calls, r.isInnermost c = true := by
  induction e using Expr.parts_induction with
  | step e ih =>
    by_cases hp : ∃ s ∈ e.parts, ∃ c ∈ s.calls, r.isEligible c = true
    · obtain ⟨s, hs, hc⟩ := hp
      obtain ⟨c, hc, hi⟩ := ih s hs hc
      exact ⟨c, Expr.mem_calls_of_mem_parts hs hc, hi⟩
    · -- No part has an eligible call, so the one there is has none inside it.
      have hn : ∀ c ∈ e.parts.flatMap Expr.calls, ¬ r.isEligible c = true := by
        intro c hc he
        obtain ⟨s, hs, hc⟩ := List.mem_flatMap.mp hc
        exact hp ⟨s, hs, c, hc, he⟩
      obtain ⟨c, hc, he⟩ := he
      refine ⟨c, hc, isInnermost_iff.mpr ⟨he, List.any_eq_false.mpr ?_⟩⟩
      rw [Expr.calls_eq] at hc
      rcases List.mem_append.mp hc with hc | hc
      · obtain rfl := (Expr.call?_eq_some_iff e c).mp (Option.mem_toList.mp hc)
        exact hn
      · exact absurd he (hn c hc)

theorem settled_iff_guarded (f : SourceFile) : r.Settled f ↔ (r.run f).report.guarded = 0 := by
  constructor
  · intro hs
    exact (run_of_settled hs).2.1
  · intro hg c hc
    by_contra he
    rw [f.calls_eq] at hc
    obtain ⟨e, hr, hc⟩ := List.mem_flatMap.mp hc
    obtain ⟨d, hd, hi⟩ := exists_isInnermost ⟨c, hc, by simpa using he⟩
    have hm : d ∈ f.calls.filter r.isInnermost := by
      rw [List.mem_filter, f.calls_eq]
      exact ⟨List.mem_flatMap.mpr ⟨e, hr, hd⟩, hi⟩
    rw [run_guarded, List.length_eq_zero_iff] at hg
    simp [hg] at hm

theorem run_changed_iff (r : Recipe) (f : SourceFile) :
    (r.run f).changed = true ↔ (r.run f).file ≠ f := by
  by_cases hs : r.Settled f
  · obtain ⟨hf, hg, hi⟩ := run_of_settled hs
    simp [Run.changed, hf, hg, hi]
  · have hg : (r.run f).report.guarded ≠ 0 := fun h => hs ((settled_iff_guarded f).mpr h)
    have hc : (r.run f).changed = true := by simp [Run.changed, Nat.pos_of_ne_zero hg]
    have hf : (r.run f).file ≠ f := fun h => hs (h ▸ r.settled_run f)
    exact ⟨fun _ => hf, fun _ => hc⟩

end GuardedCalls.Recipe
