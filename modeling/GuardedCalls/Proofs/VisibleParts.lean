import GuardedCalls.Proofs.Indentation
import GuardedCalls.Proofs.Occurrence
import GuardedCalls.Proofs.Verdicts

/-! What stands inside an expression stands in its text, however deep: its parts, and the names and
types that these spell. So a guarded form shows the name of its type in every text around it, and
the calls around it are not guarded again. -/

namespace GuardedCalls

namespace Expr

variable {e s : Expr}

lemma source_infix_of_mem_subexprs (hs : s ∈ e.subexprs) :
    s.source.toList <:+: e.source.toList := by
  induction e using parts_induction with
  | step e ih =>
    rw [subexprs_eq] at hs
    rcases List.mem_cons.mp hs with rfl | hs
    · exact List.infix_rfl
    · obtain ⟨u, hu, hs⟩ := List.mem_flatMap.mp hs
      exact (ih u hu hs).trans (source_infix_of_mem_parts hu)

lemma ownSpelling_infix_source {spelling : String} (hs : spelling ∈ e.ownSpellings) :
    spelling.toList <:+: e.source.toList := by
  cases e with
  | ident name type =>
    obtain rfl := List.mem_singleton.mp hs
    exact List.infix_rfl
  | select | typeTest =>
    obtain rfl := List.mem_singleton.mp hs
    simp only [source, String.toList_append]
    exact List.infix_append_right
  | call | cast | construct =>
    obtain rfl := List.mem_singleton.mp hs
    simp only [source, String.toList_append, List.append_assoc]
    exact List.infix_append_of_infix_right List.infix_append_left
  | literal | paren | conditional | binary => simp [ownSpellings] at hs

lemma mem_subexprs_of_paren (hs : .paren s ∈ e.subexprs) : s ∈ e.subexprs := by
  have hp : s ∈ (Expr.paren s).subexprs :=
    mem_subexprs_of_mem_parts (List.mem_singleton_self s) s.self_mem_subexprs
  exact mem_subexprs_trans hp hs

end Expr

lemma GuardTemplate.simpleName_infix_of_mem {t : GuardTemplate} {tested casted e : Expr}
    (h : t.build tested casted ∈ e.subexprs ∨ .paren (t.build tested casted) ∈ e.subexprs) :
    t.target.simpleName.toList <:+: e.source.toList := by
  have hb : t.build tested casted ∈ e.subexprs := h.elim id Expr.mem_subexprs_of_paren
  exact (t.simpleName_infix_build tested casted).trans (Expr.source_infix_of_mem_subexprs hb)

lemma Recipe.check_ne_eligible_of_namesTarget {r : Recipe} {c : Call}
    (h : r.namesTarget c = true) (x : Expr) : r.check c ≠ .eligible x := by
  intro hx
  have hn := (check_eq_eligible_iff.mp hx).2.2.1
  rw [h] at hn
  exact Bool.noConfusion hn

/-- An expression shows all that is inside it: the text of each part at any depth, and the names and
types that the part spells. A guarded form inside it, in either spelling and with or without
parentheses, shows the simple name of the target, which keeps a call from being guarded. -/
theorem Expr.source_shows_parts (e : Expr) :
    (∀ s ∈ e.subexprs, s.source.toList <:+: e.source.toList ∧
      ∀ spelling ∈ s.ownSpellings, spelling.toList <:+: e.source.toList) ∧
    ∀ (r : Recipe) (c : Call) (qualified : Bool) (tested casted : Expr),
      ∃ guarded, (r.template c qualified).instantiate [tested, casted] = .ok guarded ∧
        (guarded ∈ e.subexprs ∨ .paren guarded ∈ e.subexprs →
          r.target.simpleName.toList <:+: e.source.toList ∧
          ∀ d : Call, d.toExpr = e → r.namesTarget d = true ∧ ∀ x, r.check d ≠ .eligible x) := by
  constructor
  · intro s hs
    have hsource := source_infix_of_mem_subexprs hs
    exact ⟨hsource, fun spelling hn => (ownSpelling_infix_source hn).trans hsource⟩
  · intro r c qualified tested casted
    refine ⟨(r.template c qualified).build tested casted, rfl, fun hg => ?_⟩
    have hname := GuardTemplate.simpleName_infix_of_mem hg
    refine ⟨hname, ?_⟩
    rintro d rfl
    have hd : r.namesTarget d = true := Text.occursIn_iff.mpr hname
    exact ⟨hd, Recipe.check_ne_eligible_of_namesTarget hd⟩

theorem Expr.source_shows_parts_argument :
    let recipe : Recipe :=
      { pattern := ⟨"a.Page text()", [.glob ['a'], .glob ['P', 'a', 'g', 'e']], some "text", []⟩
        target := ⟨"a.Page", by decide +kernel⟩ }
    let x : Expr := .ident "x" none
    let guarded := (recipe.template { receiver := some x, name := "text" } true).build x x
    let sum : Expr := .binary (.string "\"") .add (.paren guarded) none
    let box : Expr := .construct ⟨"Box<?>", none⟩ [sum]
    let outer : Call := { receiver := some x, name := "put", arguments := [box] }
    .paren guarded ∈ outer.toExpr.subexprs ∧ box ∈ outer.toExpr.subexprs ∧
      guarded.source.toList <:+: outer.source.toList ∧ "Box<?>".toList <:+: outer.source.toList ∧
      "Page".toList <:+: outer.source.toList ∧ recipe.namesTarget outer = true := by
  intro recipe x guarded sum box outer
  have hg : .paren guarded ∈ outer.toExpr.subexprs := by decide +kernel
  have hb : box ∈ outer.toExpr.subexprs := by decide +kernel
  obtain ⟨hparts, hguards⟩ := source_shows_parts outer.toExpr
  obtain ⟨built, hbuilt, hshown⟩ :=
    hguards recipe { receiver := some x, name := "text" } true x x
  obtain rfl : guarded = built := Except.ok.inj hbuilt
  obtain ⟨hname, hcalls⟩ := hshown (.inr hg)
  have hn : recipe.target.simpleName = "Page" := by decide +kernel
  rw [hn] at hname
  exact ⟨hg, hb, (hparts guarded (mem_subexprs_of_paren hg)).1,
    (hparts box hb).2 "Box<?>" List.mem_cons_self, hname, (hcalls outer rfl).1⟩

end GuardedCalls
