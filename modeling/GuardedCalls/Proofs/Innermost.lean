import GuardedCalls.Proofs.Occurrence
import GuardedCalls.Proofs.Runs

/-! A run replaces the eligible calls that have no eligible call inside them, all at once and as they
stand in the file: a guarded form names the target, and so the calls around it are left alone. -/

namespace GuardedCalls

def Expr.bracketed (chosen : Call → Bool) (old new : Expr) : Expr :=
  if old.call?.any chosen then .paren new else new

mutual
/-- Every chosen call is replaced, and the calls inside it are not looked at. -/
def Expr.replaceCalls (chosen : Call → Bool) (new : Call → Expr) : Expr → Expr
  | .ident name type => .ident name type
  | .select target name type =>
    .select (target.bracketed chosen (target.replaceCalls chosen new)) name type
  | .call receiver name arguments signature =>
    if chosen ⟨receiver, name, arguments, signature⟩ then
      new ⟨receiver, name, arguments, signature⟩
    else
      .call (Expr.replaceInReceiver chosen new receiver) name (Expr.replaceInList chosen new arguments)
        signature
  | .literal value => .literal value
  | .typeTest operand type =>
    .typeTest (operand.bracketed chosen (operand.replaceCalls chosen new)) type
  | .cast type operand => .cast type (operand.bracketed chosen (operand.replaceCalls chosen new))
  | .paren inner => .paren (inner.replaceCalls chosen new)
  | .conditional test yes no type =>
    .conditional (test.bracketed chosen (test.replaceCalls chosen new)) (yes.replaceCalls chosen new)
      (no.replaceCalls chosen new) type
  | .construct type arguments => .construct type (Expr.replaceInList chosen new arguments)
  | .binary left op right type =>
    .binary (left.bracketed chosen (left.replaceCalls chosen new)) op
      (right.bracketed chosen (right.replaceCalls chosen new)) type

def Expr.replaceInReceiver (chosen : Call → Bool) (new : Call → Expr) : Option Expr → Option Expr
  | none => none
  | some receiver => some (receiver.bracketed chosen (receiver.replaceCalls chosen new))

def Expr.replaceInList (chosen : Call → Bool) (new : Call → Expr) : List Expr → List Expr
  | [] => []
  | e :: es => e.replaceCalls chosen new :: Expr.replaceInList chosen new es
end

namespace Expr

variable {chosen : Call → Bool} {new : Call → Expr}

lemma replaceCalls_toExpr_of_chosen {c : Call} (hc : chosen c = true) :
    c.toExpr.replaceCalls chosen new = new c := by
  rw [Call.toExpr, replaceCalls, if_pos hc]

lemma replaceInList_eq (es : List Expr) :
    replaceInList chosen new es = es.map (replaceCalls chosen new) := by
  induction es with
  | nil => rfl
  | cons e es ih => rw [replaceInList, ih, List.map_cons]

lemma replaceCalls_of_not_chosen {e : Expr} (he : e.call?.any chosen = false) :
    e.replaceCalls chosen new =
      e.mapParts (fun s => s.bracketed chosen (s.replaceCalls chosen new)) (replaceCalls chosen new) := by
  cases e with
  | call receiver name arguments signature =>
    have hc : ¬ chosen ⟨receiver, name, arguments, signature⟩ = true := by simpa [call?] using he
    rw [replaceCalls, if_neg hc, replaceInList_eq, mapParts]
    cases receiver <;> rfl
  | construct type arguments => rw [replaceCalls, replaceInList_eq, mapParts]
  | _ => rfl

end Expr

namespace Recipe

variable (r : Recipe)

def isInnermost (c : Call) : Bool :=
  r.isEligible c && !c.callsInside.any r.isEligible

def NamedIn (e : Expr) : Prop :=
  r.target.simpleName.toList <:+: e.source.toList

variable {r} {c : Call} {qualified : Bool}

lemma not_isEligible_of_namedIn (hc : r.NamedIn c.toExpr) : r.isEligible c = false := by
  rw [Bool.eq_false_iff]
  intro he
  have hn := namesTarget_of_isEligible he
  have ho : r.namesTarget c = true := Text.occursIn_iff.mpr hc
  rw [ho] at hn
  exact Bool.noConfusion hn

lemma NamedIn.of_mem_parts {e s : Expr} (hn : r.NamedIn s) (hs : s ∈ e.parts) : r.NamedIn e :=
  List.IsInfix.trans hn (Expr.source_infix_of_mem_parts hs)

lemma NamedIn.rebuildParts {e s : Expr} (hn : r.NamedIn (s.rebuild (r.form qualified)))
    (hs : s ∈ e.parts) : r.NamedIn (e.rebuildParts (r.form qualified)) := by
  rcases Expr.rebuild_mem_parts hs with h | h
  · exact hn.of_mem_parts h
  · have hp : r.NamedIn (.paren (s.rebuild (r.form qualified))) :=
      hn.of_mem_parts (List.mem_singleton_self _)
    exact hp.of_mem_parts h

lemma rebuildParts_eq_self (hc : c.callsInside.any r.isEligible = false) :
    c.rebuildParts (r.form qualified) = c :=
  Call.rebuildParts_eq_self fun d hd =>
    form_of_not_isEligible qualified (by simpa using List.any_eq_false.mp hc d hd)

/-- An eligible call leaves the name of the target in the text of everything around it. -/
lemma namedIn_rebuild (qualified : Bool) {e : Expr} (he : ∃ d ∈ e.calls, r.isEligible d = true) :
    r.NamedIn (e.rebuild (r.form qualified)) := by
  induction e using Expr.call_induction with
  | call c ih =>
    rw [Expr.rebuild_toExpr]
    -- A name that comes from inside keeps the call from being guarded; without one its parts are the
    -- original ones and its own form has the name.
    cases hi : c.callsInside.any r.isEligible with
    | true =>
      obtain ⟨d, hd, he⟩ := List.any_eq_true.mp hi
      obtain ⟨s, hs, hd⟩ := List.mem_flatMap.mp hd
      have hn := (ih s hs ⟨d, hd, he⟩).rebuildParts hs
      rw [Expr.rebuildParts_toExpr] at hn
      rwa [form_of_not_isEligible qualified (not_isEligible_of_namedIn hn)]
    | false =>
      have hc : r.isEligible c = true := by
        obtain ⟨d, hd, he⟩ := he
        rw [Call.calls_toExpr] at hd
        rcases List.mem_cons.mp hd with rfl | hd
        · exact he
        · exact absurd he (List.any_eq_false.mp hi d hd)
      obtain ⟨x, -, hf⟩ := form_of_isEligible qualified hc
      rw [rebuildParts_eq_self hi, hf]
      exact (r.template c qualified).simpleName_infix_build x x
  | other e hn ih =>
    obtain ⟨d, hd, he⟩ := he
    rw [Expr.calls_eq, hn] at hd
    obtain ⟨s, hs, hd⟩ := List.mem_flatMap.mp hd
    rw [Expr.rebuild_of_call?_eq_none _ hn]
    exact (ih s hs ⟨d, hd, he⟩).rebuildParts hs

lemma isEligible_rebuildParts (qualified : Bool) (c : Call) :
    r.isEligible (c.rebuildParts (r.form qualified)) = r.isInnermost c := by
  rw [isInnermost]
  cases hi : c.callsInside.any r.isEligible with
  | true =>
    obtain ⟨d, hd, he⟩ := List.any_eq_true.mp hi
    obtain ⟨s, hs, hd⟩ := List.mem_flatMap.mp hd
    have hn := (namedIn_rebuild qualified ⟨d, hd, he⟩).rebuildParts hs
    rw [Expr.rebuildParts_toExpr] at hn
    rw [not_isEligible_of_namedIn hn, Bool.not_true, Bool.and_false]
  | false => rw [rebuildParts_eq_self hi, Bool.not_false, Bool.and_true]

lemma isInnermost_iff :
    r.isInnermost c = true ↔ r.isEligible c = true ∧ c.callsInside.any r.isEligible = false := by
  rw [isInnermost, Bool.and_eq_true, Bool.not_eq_true']

lemma rebuild_of_isInnermost (hc : r.isInnermost c = true) :
    c.toExpr.rebuild (r.form qualified) = r.form qualified c := by
  rw [Expr.rebuild_toExpr, rebuildParts_eq_self (isInnermost_iff.mp hc).2]

lemma rebuild_of_not_isInnermost {e : Expr} (he : e.call?.any r.isInnermost = false) :
    e.rebuild (r.form qualified) = e.rebuildParts (r.form qualified) := by
  cases hc : e.call? with
  | none => exact Expr.rebuild_of_call?_eq_none _ hc
  | some c =>
    obtain rfl := (Expr.call?_eq_some_iff e c).mp hc
    have hn : r.isInnermost c = false := by simpa using he
    rw [← isEligible_rebuildParts qualified] at hn
    rw [Expr.rebuild_toExpr, form_of_not_isEligible qualified hn]
    rfl

lemma isLoose_form (hc : r.isEligible c = true) : (r.form qualified c).isLoose = true := by
  obtain ⟨x, -, hf⟩ := form_of_isEligible qualified hc
  rw [hf]
  rfl

lemma rebuildOperand_eq (e : Expr) :
    e.rebuildOperand (r.form qualified) =
      e.bracketed r.isInnermost (e.rebuild (r.form qualified)) := by
  rw [Expr.rebuildOperand, Expr.inPlaceOf, Expr.bracketed]
  cases he : e.call?.any r.isInnermost with
  | true =>
    obtain ⟨c, hc, hi⟩ := (Option.any_eq_true _ _).mp he
    obtain rfl := (Expr.call?_eq_some_iff e c).mp hc
    rw [rebuild_of_isInnermost hi, isLoose_form (isInnermost_iff.mp hi).1]
    rfl
  | false =>
    rw [rebuild_of_not_isInnermost he, Expr.rebuildParts, Expr.isLoose_mapParts]
    simp

theorem rebuild_eq_replaceCalls (e : Expr) :
    e.rebuild (r.form qualified) = e.replaceCalls r.isInnermost (r.form qualified) := by
  induction e using Expr.parts_induction with
  | step e ih =>
    cases he : e.call?.any r.isInnermost with
    | true =>
      obtain ⟨c, hc, hi⟩ := (Option.any_eq_true _ _).mp he
      obtain rfl := (Expr.call?_eq_some_iff e c).mp hc
      rw [rebuild_of_isInnermost hi, Expr.replaceCalls_toExpr_of_chosen hi]
    | false =>
      rw [rebuild_of_not_isInnermost he, Expr.replaceCalls_of_not_chosen he]
      refine Expr.mapParts_congr (fun s hs => ?_) ih
      rw [rebuildOperand_eq, ih s hs]

theorem run_guarded (f : SourceFile) :
    (r.run f).report.guarded = (f.calls.filter r.isInnermost).length := by
  have hc := f.sites_perm_insideOut.countP_eq fun site => r.isInnermost site.call
  rw [(r.run_eq f).2, ← List.countP_eq_length_filter, ← f.map_call_sites, List.countP_map]
  simp only [extend, Nat.zero_add, offered, List.countP_map, Function.comp_def,
    CallSite.rebuildParts, isEligible_rebuildParts, hc]

theorem run_replaces_innermost (r : Recipe) (f : SourceFile) :
    (r.run f).report.guarded = (f.calls.filter r.isInnermost).length ∧
    (r.run f).file.package = f.package ∧
    ∃ new : Call → Expr,
      (∀ c, r.isInnermost c = true → ∃ receiver, c.guarded? = some receiver ∧
        (r.template c (f.conflictingImport? r.target).isSome).apply receiver r.classpath =
          .ok (new c)) ∧
      (r.run f).file.classes =
        f.classes.map (ClassDecl.mapExprs (Expr.replaceCalls r.isInnermost new)) := by
  obtain ⟨imports, hf⟩ := r.run_file f
  refine ⟨run_guarded f, by rw [hf]; rfl, r.form (f.conflictingImport? r.target).isSome, ?_, ?_⟩
  · intro c hc
    obtain ⟨⟨x, hx⟩, hp⟩ := isEligible_iff.mp (isInnermost_iff.mp hc).1
    refine ⟨x, (check_eq_eligible_iff.mp hx).2.2.2, ?_⟩
    simp [apply_template, form, hx, hp]
  · rw [hf]
    exact congrArg (fun g => f.classes.map (ClassDecl.mapExprs g)) (funext rebuild_eq_replaceCalls)

end Recipe

end GuardedCalls
