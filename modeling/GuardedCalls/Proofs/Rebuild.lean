import GuardedCalls.Proofs.Nodes
import GuardedCalls.Proofs.Stateful

/-! Folds whose hooks act on calls alone, and give every call a form that does not depend on the
state: the result is a function of the expression, and the state takes in the calls one by one from
the inside out, each with its parts in their new form. -/

namespace GuardedCalls

mutual
def Expr.rebuild (form : Call → Expr) : Expr → Expr
  | .ident name type => .ident name type
  | .select target name type => .select (target.inPlaceOf (target.rebuild form)) name type
  | .call receiver name arguments signature =>
    form ⟨Expr.rebuildReceiver form receiver, name, Expr.rebuildList form arguments, signature⟩
  | .literal value => .literal value
  | .typeTest operand type => .typeTest (operand.inPlaceOf (operand.rebuild form)) type
  | .cast type operand => .cast type (operand.inPlaceOf (operand.rebuild form))
  | .paren inner => .paren (inner.rebuild form)
  | .conditional test yes no type =>
    .conditional (test.inPlaceOf (test.rebuild form)) (yes.rebuild form) (no.rebuild form) type
  | .construct type arguments => .construct type (Expr.rebuildList form arguments)
  | .binary left op right type =>
    .binary (left.inPlaceOf (left.rebuild form)) op (right.inPlaceOf (right.rebuild form)) type

def Expr.rebuildReceiver (form : Call → Expr) : Option Expr → Option Expr
  | none => none
  | some receiver => some (receiver.inPlaceOf (receiver.rebuild form))

def Expr.rebuildList (form : Call → Expr) : List Expr → List Expr
  | [] => []
  | e :: es => e.rebuild form :: Expr.rebuildList form es
end

def Expr.rebuildOperand (form : Call → Expr) (e : Expr) : Expr :=
  e.inPlaceOf (e.rebuild form)

def Expr.rebuildParts (form : Call → Expr) : Expr → Expr :=
  Expr.mapParts (Expr.rebuildOperand form) (Expr.rebuild form)

def Call.rebuildParts (form : Call → Expr) : Call → Call :=
  Call.mapParts (Expr.rebuildOperand form) (Expr.rebuild form)

namespace Expr

variable (form : Call → Expr)

lemma rebuildReceiver_eq (receiver : Option Expr) :
    rebuildReceiver form receiver = receiver.map (rebuildOperand form) := by
  cases receiver <;> rfl

lemma rebuildList_eq (es : List Expr) : rebuildList form es = es.map (rebuild form) := by
  induction es with
  | nil => rfl
  | cons e es ih => rw [rebuildList, ih, List.map_cons]

lemma rebuild_toExpr (c : Call) : c.toExpr.rebuild form = form (c.rebuildParts form) := by
  rw [Call.toExpr, rebuild, rebuildReceiver_eq, rebuildList_eq]
  rfl

lemma rebuildParts_toExpr (c : Call) :
    c.toExpr.rebuildParts form = (c.rebuildParts form).toExpr := rfl

lemma rebuild_of_call?_eq_none {e : Expr} (he : e.call? = none) :
    e.rebuild form = e.rebuildParts form := by
  cases e with
  | call => simp [call?] at he
  | construct type arguments => rw [rebuild, rebuildList_eq, rebuildParts, mapParts]
  | _ => rfl

end Expr

variable {σ : Type}

/-- The hooks give a call its form, take note of it in the state, and leave all other expressions
alone. -/
structure Hooks.OnCalls (h : Hooks σ) (form : Call → Expr) (note : σ → Call → σ) : Prop where
  call (c : Call) (s : σ) : (h.call c).run s = (form c, note s c)
  expr (e : Expr) (s : σ) : (h.expr e).run s = (e, s)

namespace Expr

variable {h : Hooks σ} {form : Call → Expr} {note : σ → Call → σ}

def FoldsBy (h : Hooks σ) (form : Call → Expr) (note : σ → Call → σ) (e : Expr) : Prop :=
  ∀ s, (e.fold h).run s =
    (e.rebuild form, (e.callsInsideOut.map (Call.rebuildParts form)).foldl note s)

lemma foldReceiver_run {receiver : Option Expr}
    (hr : ∀ e ∈ receiver.toList, FoldsBy h form note e) (s : σ) :
    (foldReceiver h receiver).run s = (receiver.map (rebuildOperand form),
      ((receiver.toList.flatMap callsInsideOut).map (Call.rebuildParts form)).foldl note s) := by
  cases receiver with
  | none => rfl
  | some e =>
    have he := hr e (by simp)
    simp only [foldReceiver, run_bind, run_pure, he s]
    simp [rebuildOperand]

lemma foldList_run {es : List Expr} (hes : ∀ e ∈ es, FoldsBy h form note e) (s : σ) :
    (foldList h es).run s = (es.map (rebuild form),
      ((es.flatMap callsInsideOut).map (Call.rebuildParts form)).foldl note s) := by
  induction es generalizing s with
  | nil => rfl
  | cons e es ih =>
    have he := hes e List.mem_cons_self
    have ht := ih fun t hm => hes t (List.mem_cons_of_mem e hm)
    simp only [foldList, run_bind, run_pure, he s, ht, List.map_cons, List.flatMap_cons,
      List.map_append, List.foldl_append]

theorem foldsBy (hh : h.OnCalls form note) (e : Expr) : FoldsBy h form note e := by
  induction e using parts_induction with
  | step e ih =>
    intro s
    rw [callsInsideOut_eq]
    cases e with
    | call receiver name arguments signature =>
      have hr := foldReceiver_run fun e hm => ih e (List.mem_append_left _ hm)
      have ha := foldList_run fun e hm => ih e (List.mem_append_right _ hm)
      simp only [fold, run_bind, hr, ha, hh.call, hh.expr, rebuild, rebuildReceiver_eq, rebuildList_eq]
      simp [parts, call?, Call.rebuildParts, Call.mapParts]
    | construct type arguments =>
      have ha := foldList_run (show ∀ e ∈ arguments, FoldsBy h form note e from ih)
      simp only [fold, run_bind, ha, hh.expr, rebuild, rebuildList_eq]
      simp [parts, call?]
    | _ =>
      simp only [parts, List.mem_cons, List.not_mem_nil, or_false, forall_eq_or_imp, forall_eq,
        FoldsBy] at ih
      simp only [fold, run_bind, ih, hh.expr, rebuild]
      simp [parts, call?]

end Expr

def Statement.mapExpr (g : Expr → Expr) : Statement → Statement
  | .localVariable type name init => .localVariable type name (init.map g)
  | .expression value => .expression (g value)
  | .returns value => .returns (value.map g)
  | .throws exception => .throws (g exception)

def Method.mapExprs (g : Expr → Expr) (m : Method) : Method :=
  { m with body := m.body.map (Statement.mapExpr g) }

def ClassDecl.mapExprs (g : Expr → Expr) (c : ClassDecl) : ClassDecl :=
  { c with methods := c.methods.map (Method.mapExprs g) }

def SourceFile.mapExprs (g : Expr → Expr) (f : SourceFile) : SourceFile :=
  { f with classes := f.classes.map (ClassDecl.mapExprs g) }

section

variable {h : Hooks σ} {form : Call → Expr} {note : σ → Call → σ}

lemma Statement.expr?_mapExpr (g : Expr → Expr) (st : Statement) :
    (st.mapExpr g).expr? = st.expr?.map g := by
  cases st <;> rfl

lemma Method.roots_mapExprs (g : Expr → Expr) (m : Method) :
    (m.mapExprs g).roots = m.roots.map g := by
  simp [Method.roots, Method.mapExprs, List.filterMap_map, List.map_filterMap,
    Statement.expr?_mapExpr]

lemma SourceFile.roots_mapExprs (g : Expr → Expr) (f : SourceFile) :
    (f.mapExprs g).roots = f.roots.map g := by
  simp [SourceFile.roots, SourceFile.mapExprs, ClassDecl.mapExprs, List.flatMap_map,
    List.map_flatMap, Method.roots_mapExprs]

lemma Statement.mapExpr_eq_self {g : Expr → Expr} {st : Statement}
    (hg : ∀ e ∈ st.expr?, g e = e) : st.mapExpr g = st := by
  cases st with
  | localVariable type name init => cases init <;> simp_all [mapExpr, expr?]
  | returns value => cases value <;> simp_all [mapExpr, expr?]
  | expression | throws => simp_all [mapExpr, expr?]

lemma Method.mapExprs_eq_self {g : Expr → Expr} {m : Method} (hg : ∀ e ∈ m.roots, g e = e) :
    m.mapExprs g = m := by
  have hb : m.body.map (Statement.mapExpr g) = m.body.map id :=
    List.map_congr_left fun st hst => Statement.mapExpr_eq_self fun e he =>
      hg e (List.mem_filterMap.mpr ⟨st, hst, he⟩)
  rw [Method.mapExprs, hb, List.map_id]

lemma SourceFile.mapExprs_eq_self {g : Expr → Expr} {f : SourceFile} (hg : ∀ e ∈ f.roots, g e = e) :
    f.mapExprs g = f := by
  have hm : ∀ c ∈ f.classes, c.mapExprs g = c := by
    intro c hc
    have hm : c.methods.map (Method.mapExprs g) = c.methods.map id :=
      List.map_congr_left fun m hm => Method.mapExprs_eq_self fun e he =>
        hg e (List.mem_flatMap.mpr ⟨c, hc, List.mem_flatMap.mpr ⟨m, hm, he⟩⟩)
    rw [ClassDecl.mapExprs, hm, List.map_id]
  have hc : f.classes.map (ClassDecl.mapExprs g) = f.classes.map id := List.map_congr_left hm
  rw [SourceFile.mapExprs, hc, List.map_id]

lemma Statement.fold_run (hh : h.OnCalls form note) (st : Statement) (s : σ) :
    (st.fold h).run s = (st.mapExpr (Expr.rebuild form),
      ((st.expr?.toList.flatMap Expr.callsInsideOut).map (Call.rebuildParts form)).foldl note s) := by
  have he := fun e => Expr.foldsBy hh e s
  cases st with
  | localVariable type name init =>
    cases init with
    | none => rfl
    | some init =>
      simp only [fold, run_bind, run_pure, he init]
      simp [mapExpr, expr?]
  | expression value =>
    simp only [fold, run_bind, run_pure, he value]
    simp [mapExpr, expr?]
  | returns value =>
    cases value with
    | none => rfl
    | some value =>
      simp only [fold, run_bind, run_pure, he value]
      simp [mapExpr, expr?]
  | throws exception =>
    simp only [fold, run_bind, run_pure, he exception]
    simp [mapExpr, expr?]

lemma Statement.foldBlock_run (hh : h.OnCalls form note) (m : Method) (s : σ) :
    (Statement.foldBlock h m.body).run s = ((m.mapExprs (Expr.rebuild form)).body,
      ((m.roots.flatMap Expr.callsInsideOut).map (Call.rebuildParts form)).foldl note s) := by
  rw [Statement.foldBlock, run_mapM fun st _ s => Statement.fold_run hh st s,
    ← Method.flatMap_body, List.map_flatMap, List.foldl_flatMap]
  rfl

end

namespace Expr

lemma inPlaceOf_self (e : Expr) : e.inPlaceOf e = e := by
  simp [inPlaceOf]

lemma inPlaceOf_eq_or (old new : Expr) :
    old.inPlaceOf new = new ∨ old.inPlaceOf new = .paren new := by
  rw [inPlaceOf]
  split
  · exact .inr rfl
  · exact .inl rfl

lemma calls_paren (e : Expr) : (paren e).calls = e.calls := by
  simp [calls_eq (paren e), call?, parts]

variable {form : Call → Expr}

lemma mem_parts_rebuildParts {e s : Expr} (hs : s ∈ (e.rebuildParts form).parts) :
    ∃ t ∈ e.parts, s = t.rebuild form ∨ s = .paren (t.rebuild form) := by
  obtain ⟨t, ht, rfl | rfl⟩ := mem_parts_mapParts hs
  · exact ⟨t, ht, inPlaceOf_eq_or t _⟩
  · exact ⟨t, ht, .inl rfl⟩

lemma rebuild_mem_parts {e s : Expr} (hs : s ∈ e.parts) :
    s.rebuild form ∈ (e.rebuildParts form).parts ∨
      .paren (s.rebuild form) ∈ (e.rebuildParts form).parts := by
  rcases mapParts_mem_parts hs with h | h
  · rcases inPlaceOf_eq_or s (s.rebuild form) with h' | h'
    · exact .inl (h' ▸ h)
    · exact .inr (h' ▸ h)
  · exact .inl h

lemma rebuildParts_eq_self {e : Expr} (he : ∀ s ∈ e.parts, s.rebuild form = s) :
    e.rebuildParts form = e := by
  refine mapParts_eq_self (fun s hs => ?_) he
  rw [rebuildOperand, he s hs, inPlaceOf_self]

lemma rebuild_eq_self {e : Expr} (he : ∀ c ∈ e.calls, form c = c.toExpr) : e.rebuild form = e := by
  induction e using call_induction with
  | call c ih =>
    have hs : ∀ s ∈ c.toExpr.parts, s.rebuild form = s := fun s hs =>
      ih s hs fun d hd => he d (mem_calls_of_mem_parts hs hd)
    have hc : c.rebuildParts form = c := Call.toExpr_injective (rebuildParts_eq_self hs)
    rw [rebuild_toExpr, hc]
    exact he c (mem_calls_toExpr c)
  | other e hn ih =>
    rw [rebuild_of_call?_eq_none form hn]
    exact rebuildParts_eq_self fun s hs => ih s hs fun d hd => he d (mem_calls_of_mem_parts hs hd)

lemma forall_calls_rebuildParts {P : Call → Prop} {e : Expr}
    (he : ∀ s ∈ e.parts, ∀ d ∈ (s.rebuild form).calls, P d) :
    ∀ d ∈ (e.rebuildParts form).parts.flatMap calls, P d := by
  intro d hd
  obtain ⟨s, hs, hd⟩ := List.mem_flatMap.mp hd
  obtain ⟨t, ht, rfl | rfl⟩ := mem_parts_rebuildParts hs
  · exact he t ht d hd
  · exact he t ht d (calls_paren _ ▸ hd)

lemma forall_calls_rebuild {P : Call → Prop}
    (hf : ∀ c, (∀ d ∈ c.callsInside, P d) → ∀ d ∈ (form c).calls, P d) (e : Expr) :
    ∀ d ∈ (e.rebuild form).calls, P d := by
  induction e using call_induction with
  | call c ih =>
    have hi := forall_calls_rebuildParts ih
    rw [rebuildParts_toExpr] at hi
    rw [rebuild_toExpr]
    exact hf _ hi
  | other e hn ih =>
    have hc : (e.rebuildParts form).call? = none := by
      rw [rebuildParts, call?_mapParts, hn, Option.map_none]
    rw [rebuild_of_call?_eq_none form hn, calls_eq, hc]
    exact forall_calls_rebuildParts ih

end Expr

lemma Call.rebuildParts_eq_self {form : Call → Expr} {c : Call}
    (hc : ∀ d ∈ c.callsInside, form d = d.toExpr) : c.rebuildParts form = c := by
  have hs : ∀ s ∈ c.toExpr.parts, s.rebuild form = s := fun s hs =>
    Expr.rebuild_eq_self fun d hd => hc d (List.mem_flatMap.mpr ⟨s, hs, hd⟩)
  exact Call.toExpr_injective (Expr.rebuildParts_eq_self hs)

end GuardedCalls
