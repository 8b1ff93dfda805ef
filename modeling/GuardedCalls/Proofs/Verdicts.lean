import GuardedCalls.Guard.Run
import GuardedCalls.Proofs.Rebuild

/-! What a recipe does with a single call: an accepted call is either guarded or skipped for a
reason, and nothing is done about any other. -/

namespace GuardedCalls

lemma Call.guarded?_mem {c : Call} {x : Expr} (hx : c.guarded? = some x) :
    ∃ s ∈ c.toExpr.parts, x ∈ s.subexprs := by
  have hr : ∀ s, c.receiver = some s → s ∈ c.toExpr.parts := fun s hs => by
    simp [hs]
  rw [Call.guarded?] at hx
  split at hx
  · rename_i inner name arguments signature hc
    refine ⟨_, hr _ hc, Expr.mem_subexprs_of_mem_parts ?_ x.self_mem_subexprs⟩
    simp [Expr.parts, hx]
  · rename_i hc
    obtain rfl := Option.some.inj hx
    exact ⟨_, hr _ hc, Expr.self_mem_subexprs _⟩
  · rename_i hc
    obtain rfl := Option.some.inj hx
    exact ⟨_, hr _ hc, Expr.self_mem_subexprs _⟩
  · simp at hx

namespace Recipe

variable (r : Recipe)

def isEligible (c : Call) : Bool :=
  match r.check c with
  | .eligible _ => r.classpath.contains r.target
  | _ => false

def skipReason? (c : Call) : Option SkipReason :=
  match r.check c with
  | .noMatch => none
  | .skip reason => some reason
  | .eligible _ =>
    if r.classpath.contains r.target then none
    else some (.template (.unresolvedType r.target.text))

def form (qualified : Bool) (c : Call) : Expr :=
  match r.check c with
  | .eligible receiver =>
    if r.classpath.contains r.target then (r.template c qualified).build receiver receiver
    else c.toExpr
  | _ => c.toExpr

def note (p : Progress) (c : Call) : Progress :=
  if r.isEligible c then p.countGuarded
  else match r.skipReason? c with
    | some reason => p.skip c reason
    | none => p

variable {r} {c : Call}

lemma check_eq_eligible_iff {x : Expr} :
    r.check c = .eligible x ↔ r.pattern.acceptsCall c = true ∧
      c.declaringType? = some r.target.text ∧ r.namesTarget c = false ∧ c.guarded? = some x := by
  rw [check]
  cases hd : c.declaringType? with
  | none => simp
  | some declaringType =>
    by_cases ha : r.pattern.acceptsCall c = true <;> by_cases ht : declaringType = r.target.text <;>
      by_cases hn : r.namesTarget c = true <;> cases hg : c.guarded? <;> simp [ha, ht, hn]

lemma declaringType?_of_accepts (ha : r.pattern.acceptsCall c = true) :
    ∃ declaringType, c.declaringType? = some declaringType := by
  cases hs : c.signature with
  | none => simp [MethodPattern.acceptsCall, hs] at ha
  | some signature => exact ⟨signature.declaringType, by rw [Call.declaringType?, hs]; rfl⟩

lemma check_eq_noMatch_iff : r.check c = .noMatch ↔ r.pattern.acceptsCall c = false := by
  by_cases ha : r.pattern.acceptsCall c = true
  · obtain ⟨declaringType, hd⟩ := declaringType?_of_accepts ha
    rw [check, hd]
    by_cases ht : declaringType = r.target.text <;> by_cases hn : r.namesTarget c = true <;>
      cases hg : c.guarded? <;> simp [ha, ht, hn]
  · rw [check]
    cases hd : c.declaringType? <;> simp [ha]

lemma isEligible_iff : r.isEligible c = true ↔
    (∃ x, r.check c = .eligible x) ∧ r.classpath.contains r.target = true := by
  cases hc : r.check c <;> simp [isEligible, hc]

lemma accepts_of_isEligible (h : r.isEligible c = true) : r.pattern.acceptsCall c = true := by
  obtain ⟨⟨x, hx⟩, _⟩ := isEligible_iff.mp h
  exact (check_eq_eligible_iff.mp hx).1

lemma isEligible_of_not_accepts (h : r.pattern.acceptsCall c = false) : r.isEligible c = false := by
  simp [isEligible, check_eq_noMatch_iff.mpr h]

lemma skipReason?_of_not_accepts (h : r.pattern.acceptsCall c = false) : r.skipReason? c = none := by
  simp [skipReason?, check_eq_noMatch_iff.mpr h]

lemma namesTarget_of_isEligible (h : r.isEligible c = true) : r.namesTarget c = false := by
  obtain ⟨⟨x, hx⟩, _⟩ := isEligible_iff.mp h
  exact (check_eq_eligible_iff.mp hx).2.2.1

lemma isSome_skipReason? :
    (r.skipReason? c).isSome = (r.pattern.acceptsCall c && !r.isEligible c) := by
  cases hc : r.check c with
  | noMatch => simp [skipReason?, hc, check_eq_noMatch_iff.mp hc]
  | skip reason =>
    have ha : r.pattern.acceptsCall c = true := by
      by_contra hn
      simp [check_eq_noMatch_iff.mpr (Bool.eq_false_iff.mpr hn)] at hc
    simp [skipReason?, isEligible, hc, ha]
  | eligible x =>
    by_cases hp : r.classpath.contains r.target = true <;>
      simp [skipReason?, isEligible, hc, hp, (check_eq_eligible_iff.mp hc).1]

lemma form_of_not_isEligible (qualified : Bool) (h : r.isEligible c = false) :
    r.form qualified c = c.toExpr := by
  cases hc : r.check c with
  | eligible x =>
    simp only [isEligible, hc] at h
    simp [form, hc, h]
  | _ => simp [form, hc]

lemma form_of_isEligible (qualified : Bool) (h : r.isEligible c = true) :
    ∃ x, c.guarded? = some x ∧ r.form qualified c = (r.template c qualified).build x x := by
  obtain ⟨⟨x, hx⟩, hp⟩ := isEligible_iff.mp h
  exact ⟨x, (check_eq_eligible_iff.mp hx).2.2.2, by simp [form, hx, hp]⟩

lemma apply_template (qualified : Bool) (x : Expr) :
    (r.template c qualified).apply x r.classpath =
      if r.classpath.contains r.target then .ok ((r.template c qualified).build x x)
      else .error (.unresolvedType r.target.text) := by
  by_cases hp : r.classpath.contains r.target = true <;>
    simp only [GuardTemplate.apply, GuardTemplate.resolve, template, hp] <;> rfl

lemma apply_template_of_isEligible (qualified : Bool) (h : r.isEligible c = true) :
    ∃ x, c.guarded? = some x ∧
      (r.template c qualified).apply x r.classpath = .ok (r.form qualified c) := by
  obtain ⟨x, hx, hf⟩ := form_of_isEligible qualified h
  refine ⟨x, hx, ?_⟩
  rw [apply_template, if_pos (isEligible_iff.mp h).2, hf]

variable (r)

lemma replaceCall_run (qualified : Bool) (c : Call) (p : Progress) :
    (r.replaceCall qualified c).run p = (r.form qualified c, r.note p c) := by
  cases hc : r.check c with
  | noMatch | skip => simp [replaceCall, form, note, isEligible, skipReason?, hc]; rfl
  | eligible x =>
    by_cases hp : r.classpath.contains r.target = true <;>
      simp [replaceCall, apply_template, form, note, isEligible, skipReason?, hc, hp] <;> rfl

lemma hooks_onCalls (qualified : Bool) :
    (r.hooks qualified).OnCalls (r.form qualified) r.note where
  call := r.replaceCall_run qualified
  expr _ _ := rfl

end Recipe

end GuardedCalls
