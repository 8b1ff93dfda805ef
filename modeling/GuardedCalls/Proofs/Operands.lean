import GuardedCalls.Proofs.Parentheses

/-! Operands in a fold with arbitrary hooks. A loose expression gets parentheses in the place of one
that is not loose, and none in the place of another loose one. So the operands bind tightly enough for
their places as long as the hooks put nothing looser in the place of a loose expression. -/

namespace GuardedCalls

variable {σ : Type}

structure Hooks.KeepsParentheses (h : Hooks σ) : Prop where
  call (c : Call) : c.toExpr.WellParenthesized → Returns (h.call c) Expr.WellParenthesized
  expr (e : Expr) : e.WellParenthesized → Returns (h.expr e) Expr.WellParenthesized

def Hooks.KeepsLevels (h : Hooks σ) : Prop :=
  ∀ e : Expr, e.WellParenthesized → e.isLoose = true → Returns (h.expr e) fun new => e.level ≤ new.level

namespace Expr

lemma level_le_seven (e : Expr) : e.level ≤ 7 := by
  cases e with
  | binary left op right type => cases op <;> simp [level, Operator.level]
  | _ => simp [level]

structure FoldsTo (old new : Expr) : Prop where
  wellParenthesized : new.WellParenthesized
  level_le : old.isLoose = true → old.level ≤ new.level

namespace FoldsTo

variable {old new : Expr}

lemma operand (hn : old.FoldsTo new) : (old.inPlaceOf new).WellParenthesized := by
  rcases inPlaceOf_eq_or old new with h | h <;> rw [h]
  · exact hn.wellParenthesized
  · exact hn.wellParenthesized.paren

lemma level_le_operand (hn : old.FoldsTo new) : old.level ≤ (old.inPlaceOf new).level := by
  -- Parentheses only come in the place of what was tight. For the rest the hooks have to answer.
  cases hl : old.isLoose with
  | false =>
    rw [level_inPlaceOf hl]
    exact old.level_le_seven
  | true =>
    rw [inPlaceOf_of_isLoose hl]
    exact hn.level_le hl

end FoldsTo

lemma returns_expr {h : Hooks σ} (hp : h.KeepsParentheses) (hl : h.KeepsLevels) {old e : Expr}
    (hf : e.operandsFit = true) (he : ∀ s ∈ e.parts, s.WellParenthesized)
    (hk : e.isLoose = old.isLoose) (hv : e.level = old.level) : Returns (h.expr e) old.FoldsTo := by
  have hw : e.WellParenthesized := wellParenthesized_iff.mpr ⟨hf, he⟩
  intro s
  refine ⟨hp.expr e hw s, fun ho => ?_⟩
  rw [← hv]
  exact hl e hw (hk.trans ho) s

lemma returns_foldReceiver {h : Hooks σ} {receiver : Option Expr}
    (hr : ∀ e ∈ receiver.toList, Returns (e.fold h) e.FoldsTo) :
    Returns (foldReceiver h receiver) fun new =>
      (∀ e ∈ new.toList, e.WellParenthesized) ∧
        ((receiver.all fun e => e.level = 7) = true → (new.all fun e => e.level = 7) = true) := by
  cases receiver with
  | none => exact .pure ⟨nofun, fun _ => rfl⟩
  | some e =>
    refine (hr e (by simp)).bind fun new hn => .pure ⟨?_, ?_⟩
    · simpa using hn.operand
    · have ho := hn.level_le_operand
      have hs := level_le_seven (e.inPlaceOf new)
      simp only [Option.all_some, decide_eq_true_eq]
      omega

lemma returns_foldList {h : Hooks σ} {es : List Expr}
    (he : ∀ e ∈ es, Returns (e.fold h) e.FoldsTo) :
    Returns (foldList h es) fun new => ∀ e ∈ new, e.WellParenthesized := by
  induction es with
  | nil => exact .pure nofun
  | cons e es ih =>
    refine (he e List.mem_cons_self).bind fun new hn => ?_
    refine (ih fun t ht => he t (List.mem_cons_of_mem e ht)).bind fun news hns => .pure ?_
    exact List.forall_mem_cons.mpr ⟨hn.wellParenthesized, hns⟩

theorem returns_fold {h : Hooks σ} (hp : h.KeepsParentheses) (hl : h.KeepsLevels) {e : Expr}
    (he : e.WellParenthesized) : Returns (e.fold h) e.FoldsTo := by
  induction e using parts_induction with
  | step e ih =>
    obtain ⟨hf, hs⟩ := wellParenthesized_iff.mp he
    have ih : ∀ s ∈ e.parts, Returns (s.fold h) s.FoldsTo := fun s hm => ih s hm (hs s hm)
    cases e with
    | ident | literal =>
      rw [fold]
      exact returns_expr hp hl rfl (by simp [parts]) rfl rfl
    | select target | typeTest target | cast _ target =>
      rw [fold]
      refine (ih target (by simp [parts])).bind fun new hn => ?_
      have ho := hn.level_le_operand
      have hv := level_le_seven (target.inPlaceOf new)
      refine returns_expr hp hl ?_ (by simpa [parts] using hn.operand) rfl rfl
      simp only [operandsFit, decide_eq_true_eq] at hf ⊢
      omega
    | paren inner =>
      rw [fold]
      refine (ih inner (by simp [parts])).bind fun new hn => ?_
      exact returns_expr hp hl rfl (by simpa [parts] using hn.wellParenthesized) rfl rfl
    | conditional test yes no type =>
      rw [fold]
      refine (ih test (by simp [parts])).bind fun newTest ht => ?_
      refine (ih yes (by simp [parts])).bind fun newYes hy => ?_
      refine (ih no (by simp [parts])).bind fun newNo hn => ?_
      have ho := ht.level_le_operand
      refine returns_expr hp hl ?_ ?_ rfl rfl
      · simp only [operandsFit, decide_eq_true_eq] at hf ⊢
        omega
      · simpa [parts] using ⟨ht.operand, hy.wellParenthesized, hn.wellParenthesized⟩
    | construct type arguments =>
      rw [fold]
      refine (returns_foldList (show ∀ e ∈ arguments, _ from ih)).bind fun new hn => ?_
      exact returns_expr hp hl rfl hn rfl rfl
    | binary left op right type =>
      rw [fold]
      refine (ih left (by simp [parts])).bind fun newLeft hl' => ?_
      refine (ih right (by simp [parts])).bind fun newRight hr => ?_
      have hol := hl'.level_le_operand
      have hor := hr.level_le_operand
      refine returns_expr hp hl ?_ ?_ rfl rfl
      · simp only [operandsFit, Bool.and_eq_true, decide_eq_true_eq] at hf ⊢
        omega
      · simpa [parts] using ⟨hl'.operand, hr.operand⟩
    | call receiver name arguments signature =>
      rw [fold]
      refine (returns_foldReceiver fun e hm => ih e (List.mem_append_left _ hm)).bind
        fun newReceiver hr => ?_
      refine (returns_foldList fun e hm => ih e (List.mem_append_right _ hm)).bind fun new hn => ?_
      have hc : (Call.toExpr ⟨newReceiver, name, new, signature⟩).WellParenthesized :=
        wellParenthesized_iff.mpr ⟨hr.2 hf, fun s hm => (List.mem_append.mp hm).elim (hr.1 s) (hn s)⟩
      refine (hp.call _ hc).bind fun result hw s => ⟨hp.expr result hw s, fun hi => ?_⟩
      exact absurd hi Bool.false_ne_true

theorem fold_wellParenthesized (h : Hooks σ) (hp : h.KeepsParentheses) (hl : h.KeepsLevels) (e : Expr)
    (he : e.WellParenthesized) (s : σ) : ((e.fold h).run s).1.WellParenthesized :=
  (returns_fold hp hl he s).wellParenthesized

theorem fold_wellParenthesized_conditionals :
    let choice : Expr := .conditional (.ident "c" none) (.ident "x" none) (.ident "y" none) none
    let h : Hooks Nat :=
      { call := fun c => do
          modify (· + 1)
          return if c.name = "m" then choice else c.toExpr }
    let m : Expr := .call (some (.ident "s" none)) "m" [] none
    let e : Expr := .binary (.call (some m) "length" [] none) .add m none
    e.WellParenthesized ∧ (e.fold h).run 0 =
        (.binary (.call (some (.paren choice)) "length" [] none) .add (.paren choice) none, 3) ∧
      ((e.fold h).run 0).1.WellParenthesized := by
  intro choice h m e
  have hp : h.KeepsParentheses := by
    refine ⟨fun c hc s => ?_, fun e he s => he⟩
    change (if c.name = "m" then choice else c.toExpr).WellParenthesized
    split
    · decide +kernel
    · exact hc
  have hl : h.KeepsLevels := fun e _ _ _ => Nat.le_refl e.level
  have he : e.WellParenthesized := by decide +kernel
  exact ⟨he, rfl, fold_wellParenthesized h hp hl e he 0⟩

/-- The hooks keep every expression well parenthesised, and put a sum in the place of one cast. It is
the operand of another cast, and stands there without parentheses. -/
theorem fold_not_wellParenthesized :
    let inner : Expr := .cast ⟨"S", none⟩ (.ident "x" none)
    let sum : Expr := .binary (.ident "a" none) .add (.ident "b" none) none
    let h : Hooks Unit := { expr := fun e => pure (if e = inner then sum else e) }
    let e : Expr := .cast ⟨"T", none⟩ inner
    h.KeepsParentheses ∧ e.WellParenthesized ∧
      ((e.fold h).run ()).1 = .cast ⟨"T", none⟩ sum ∧
      ¬ ((e.fold h).run ()).1.WellParenthesized := by
  intro inner sum h e
  refine ⟨⟨fun c hc s => hc, fun e he s => ?_⟩, by decide +kernel, by decide +kernel,
    by decide +kernel⟩
  change (if e = inner then sum else e).WellParenthesized
  split
  · decide +kernel
  · exact he

end Expr

end GuardedCalls
