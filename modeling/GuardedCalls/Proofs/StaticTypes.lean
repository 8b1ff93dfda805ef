import GuardedCalls.Proofs.Innermost
import GuardedCalls.Proofs.Offers
import GuardedCalls.Proofs.SourceOrder

/-! Types before and after a run. If the calls that could be guarded are of the type of the fallback,
every place that a run does not do away with holds an expression of the type that was there before. -/

namespace GuardedCalls

namespace Expr

lemma getElem?_parts_mapParts (operand part : Expr → Expr) (e : Expr) (i : Nat) :
    (e.mapParts operand part).parts[i]? = e.parts[i]?.map operand ∨
      (e.mapParts operand part).parts[i]? = e.parts[i]?.map part := by
  cases e with
  | call receiver name arguments signature =>
    cases receiver with
    | none => exact .inr (by simp [mapParts, parts])
    | some receiver =>
      cases i with
      | zero => exact .inl rfl
      | succ i => exact .inr (by simp [mapParts, parts])
  | construct type arguments => exact .inr (by simp [mapParts, parts])
  | paren inner => exact .inr (by cases i <;> rfl)
  | conditional test yes no type =>
    cases i with
    | zero => exact .inl rfl
    | succ i => exact .inr (by rcases i with _ | _ | i <;> rfl)
  | binary left op right type => exact .inl (by rcases i with _ | _ | i <;> rfl)
  | _ => exact .inl (by cases i <;> rfl)

lemma shell_mapParts (operand part : Expr → Expr) (e : Expr) :
    (e.mapParts operand part).shell = e.shell := by
  cases e <;> simp [shell, mapParts, Function.comp_def]

lemma type?_inPlaceOf (old new : Expr) : (old.inPlaceOf new).type? = new.type? := by
  rcases inPlaceOf_eq_or old new with h | h
  · rw [h]
  · rw [h, type?]

lemma type?_rebuild {form : Call → Expr} {e : Expr}
    (hf : ∀ c ∈ e.calls, (form (c.rebuildParts form)).type? = c.toExpr.type?) :
    (e.rebuild form).type? = e.type? := by
  induction e using call_induction with
  | call c _ =>
    rw [rebuild_toExpr]
    exact hf c (mem_calls_toExpr c)
  | other e hn ih =>
    rw [rebuild_of_call?_eq_none form hn, rebuildParts]
    -- only parentheses have their type from a part
    cases e with
    | call => simp [call?] at hn
    | paren inner =>
      have hi : inner ∈ (paren inner).parts := List.mem_singleton_self inner
      exact ih inner hi fun c hc => hf c (mem_calls_of_mem_parts hi hc)
    | _ => rfl

lemma mem_subexprs_of_at? {e s : Expr} {place : List Nat} (h : e.at? place = some s) :
    s ∈ e.subexprs := by
  induction place generalizing e with
  | nil =>
    obtain rfl := Option.some.inj h
    exact e.self_mem_subexprs
  | cons i place ih =>
    obtain ⟨t, ht, h⟩ := Option.bind_eq_some_iff.mp h
    exact mem_subexprs_of_mem_parts (List.mem_of_getElem? ht) (ih h)

end Expr

def SourceFile.root? (f : SourceFile) (i j k : Nat) : Option Expr :=
  f.classes[i]?.bind fun c => c.methods[j]?.bind fun m => m.body[k]?.bind Statement.expr?

namespace SourceFile

variable {f : SourceFile} {i j k : Nat} {root : Expr}

lemma root?_mapExprs (g : Expr → Expr) (f : SourceFile) (i j k : Nat) :
    (f.mapExprs g).root? i j k = (f.root? i j k).map g := by
  simp only [root?, mapExprs, ClassDecl.mapExprs, Method.mapExprs, List.getElem?_map, Option.map_bind,
    Option.bind_map, Function.comp_def, Statement.expr?_mapExpr]

lemma mem_roots_of_root? (h : f.root? i j k = some root) : root ∈ f.roots := by
  obtain ⟨c, hc, h⟩ := Option.bind_eq_some_iff.mp h
  obtain ⟨m, hm, h⟩ := Option.bind_eq_some_iff.mp h
  obtain ⟨s, hs, h⟩ := Option.bind_eq_some_iff.mp h
  refine List.mem_flatMap.mpr ⟨c, List.mem_of_getElem? hc, ?_⟩
  refine List.mem_flatMap.mpr ⟨m, List.mem_of_getElem? hm, ?_⟩
  exact List.mem_filterMap.mpr ⟨s, List.mem_of_getElem? hs, h⟩

lemma mem_calls_of_at? {e : Expr} {place : List Nat} {c : Call} (hr : f.root? i j k = some root)
    (he : root.at? place = some e) (hc : c ∈ e.calls) : c ∈ f.calls := by
  rw [f.calls_eq]
  refine List.mem_flatMap.mpr ⟨root, mem_roots_of_root? hr, ?_⟩
  exact Expr.mem_calls_iff.mpr
    (Expr.mem_subexprs_trans (Expr.mem_calls_iff.mp hc) (Expr.mem_subexprs_of_at? he))

end SourceFile

namespace Recipe

variable {r : Recipe} {qualified : Bool} {e s : Expr} {place : List Nat}

def Keeps (r : Recipe) (e : Expr) (place : List Nat) : Prop :=
  ∀ above c, Above above place → e.at? above = some c.toExpr → r.isInnermost c = false

lemma keeps_nil (r : Recipe) (e : Expr) : r.Keeps e [] :=
  fun above _ ha => absurd ha (not_above_nil above)

lemma keeps_cons_iff {i : Nat} (hs : e.parts[i]? = some s) :
    r.Keeps e (i :: place) ↔ e.call?.any r.isInnermost = false ∧ r.Keeps s place := by
  constructor
  · intro h
    constructor
    · rw [Option.any_eq_false]
      intro c hc
      have hn := h [] c (above_nil_cons i place) (congrArg some ((e.call?_eq_some_iff c).mp hc))
      simp [hn]
    · intro above c ha hc
      apply h (i :: above) c (above_cons_cons.mpr ⟨rfl, ha⟩)
      rw [Expr.at?, hs]
      exact hc
  · rintro ⟨he, h⟩ (_ | ⟨j, above⟩) c ha hc
    · obtain rfl := Option.some.inj hc
      simpa using he
    · obtain ⟨rfl, hp⟩ := above_cons_cons.mp ha
      rw [Expr.at?, hs] at hc
      exact h above c hp hc

lemma rebuildOperand_of_not_isInnermost (he : e.call?.any r.isInnermost = false) :
    e.rebuildOperand (r.form qualified) = e.rebuild (r.form qualified) := by
  rw [rebuildOperand_eq, Expr.bracketed, he]
  rfl

lemma at?_rebuild (qualified : Bool) (hk : r.Keeps e place) (hs : e.at? place = some s) :
    ∃ new, (e.rebuild (r.form qualified)).at? place = some new ∧
      (new = s.rebuild (r.form qualified) ∨ new = s.rebuildOperand (r.form qualified)) := by
  induction place generalizing e with
  | nil =>
    obtain rfl := Option.some.inj hs
    exact ⟨_, rfl, .inl rfl⟩
  | cons i place ih =>
    obtain ⟨t, ht, hs⟩ := Option.bind_eq_some_iff.mp hs
    obtain ⟨he, hk⟩ := (keeps_cons_iff ht).mp hk
    have hp := Expr.getElem?_parts_mapParts (Expr.rebuildOperand (r.form qualified))
      (Expr.rebuild (r.form qualified)) e i
    rw [ht, Option.map_some, Option.map_some] at hp
    rw [rebuild_of_not_isInnermost he, Expr.rebuildParts, Expr.at?]
    rcases hp with hp | hp
    · rw [hp, Option.bind_some]
      cases place with
      | nil =>
        obtain rfl := Option.some.inj hs
        exact ⟨_, rfl, .inr rfl⟩
      | cons j place =>
        obtain ⟨u, hu, -⟩ := Option.bind_eq_some_iff.mp hs
        rw [rebuildOperand_of_not_isInnermost ((keeps_cons_iff hu).mp hk).1]
        exact ih hk hs
    · rw [hp, Option.bind_some]
      exact ih hk hs

lemma type?_form {c : Call} (hc : ∀ s ∈ c.signature, r.pattern.accepts s = true →
    s.declaringType = r.target.text → s.result = .string) :
    (r.form qualified c).type? = c.toExpr.type? := by
  cases he : r.isEligible c with
  | false => rw [form_of_not_isEligible qualified he]
  | true =>
    obtain ⟨x, -, hf⟩ := form_of_isEligible qualified he
    obtain ⟨⟨y, hy⟩, -⟩ := isEligible_iff.mp he
    obtain ⟨ha, hd, -, -⟩ := check_eq_eligible_iff.mp hy
    obtain ⟨s, hs, ha⟩ := (Option.any_eq_true _ _).mp ha
    rw [Call.declaringType?, hs] at hd
    have ht : c.toExpr.type? = some s.result := by rw [Call.toExpr, Expr.type?, hs]; rfl
    rw [hf, ht, hc s hs ha (Option.some.inj hd)]
    rfl

/-- The types of a file at the places that a run keeps. Such a place holds the guarded form of an
innermost eligible call, in parentheses or not, or else the node that was there, with new parts. -/
theorem run_keeps_types (r : Recipe) (f : SourceFile)
    (hf : ∀ c ∈ f.calls, ∀ s ∈ c.signature, r.pattern.accepts s = true →
      s.declaringType = r.target.text → s.result = .string)
    {i j k : Nat} {root e : Expr} {place : List Nat} (hr : f.root? i j k = some root)
    (he : root.at? place = some e) (hk : r.Keeps root place) :
    ∃ newRoot new, (r.run f).file.root? i j k = some newRoot ∧ newRoot.at? place = some new ∧
      new.type? = e.type? ∧ (e.call?.any r.isInnermost = false → new.shell = e.shell) ∧
      ∀ c, e = c.toExpr → r.isInnermost c = true → ∃ receiver guarded, c.guarded? = some receiver ∧
        (r.template c (f.conflictingImport? r.target).isSome).apply receiver r.classpath =
          .ok guarded ∧ (new = guarded ∨ new = .paren guarded) := by
  generalize hq : (f.conflictingImport? r.target).isSome = qualified
  obtain ⟨imports, hfile⟩ := r.run_file f
  rw [hq] at hfile
  have hroot : (r.run f).file.root? i j k = some (root.rebuild (r.form qualified)) := by
    have h := SourceFile.root?_mapExprs (Expr.rebuild (r.form qualified)) f i j k
    rw [hr, Option.map_some] at h
    rw [hfile]
    exact h
  obtain ⟨new, hnew, hform⟩ := at?_rebuild qualified hk he
  refine ⟨_, new, hroot, hnew, ?_, ?_, ?_⟩
  · have ht : (e.rebuild (r.form qualified)).type? = e.type? :=
      Expr.type?_rebuild fun c hc => type?_form (hf c (SourceFile.mem_calls_of_at? hr he hc))
    rcases hform with rfl | rfl
    · exact ht
    · rw [Expr.rebuildOperand, Expr.type?_inPlaceOf, ht]
  · intro hn
    rw [rebuildOperand_of_not_isInnermost hn, or_self] at hform
    rw [hform, rebuild_of_not_isInnermost hn, Expr.rebuildParts, Expr.shell_mapParts]
  · rintro c rfl hc
    obtain ⟨x, hx, happly⟩ := apply_template_of_isEligible qualified (isInnermost_iff.mp hc).1
    refine ⟨x, r.form qualified c, hx, happly, ?_⟩
    rw [Expr.rebuildOperand, rebuild_of_isInnermost hc] at hform
    rcases hform with h | h
    · exact .inl h
    · rw [h]
      exact Expr.inPlaceOf_eq_or _ _

theorem run_keeps_types_operand :
    let recipe : Recipe :=
      { pattern := ⟨"a.B m()", [.glob ['a'], .glob ['B']], some "m", []⟩
        target := ⟨"a.B", by decide⟩ }
    let signature : Signature := { declaringType := "a.B", name := "m", result := .string }
    let call : Call := { receiver := some (.ident "x" none), name := "m", signature }
    let sum : Expr := .binary call.toExpr .add (.literal (.int 1)) (some .string)
    let root : Expr := .call none "print" [sum] none
    let file : SourceFile := { classes := [{ name := "C", methods :=
      [{ returnType := ⟨"void", none⟩, name := "f", body :=
        [.returns none, .expression root] }] }] }
    Recipe.make "a.B m()" "a.B" {} = .ok recipe ∧ recipe.isInnermost call = true ∧
      file.root? 0 0 1 = some root ∧ root.at? [0, 0] = some call.toExpr ∧
      recipe.Keeps root [0, 0] ∧
      ∃ newRoot new, (recipe.run file).file.root? 0 0 1 = some newRoot ∧
        newRoot.at? [0, 0] = some new ∧ new.type? = some .string ∧ new.call? = none := by
  intro recipe signature call sum root file
  have hf : ∀ c ∈ file.calls, ∀ s ∈ c.signature, recipe.pattern.accepts s = true →
      s.declaringType = recipe.target.text → s.result = .string := by decide +kernel
  have hi : recipe.isInnermost call = true := by decide +kernel
  have hsum : recipe.Keeps sum [0] := (keeps_cons_iff rfl).mpr ⟨rfl, recipe.keeps_nil _⟩
  have hk : recipe.Keeps root [0, 0] := (keeps_cons_iff rfl).mpr ⟨by decide +kernel, hsum⟩
  obtain ⟨newRoot, new, hroot, hnew, ht, -, hg⟩ :=
    run_keeps_types recipe file hf (i := 0) (j := 0) (k := 1) rfl rfl hk
  obtain ⟨receiver, guarded, -, hok, hform⟩ := hg call rfl hi
  have hc : guarded.call? = none := by
    obtain rfl := Except.ok.inj hok
    rfl
  refine ⟨rfl, hi, rfl, rfl, hk, newRoot, new, hroot, hnew, ht, ?_⟩
  rcases hform with rfl | rfl
  · exact hc
  · rfl

end Recipe

end GuardedCalls
