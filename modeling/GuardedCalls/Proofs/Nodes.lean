import GuardedCalls.Pattern.Search
import GuardedCalls.Proofs.Parts
import Mathlib.Data.List.Perm.Basic

/-! The nodes of an outline in two orders, each before or each behind those below it, and the
expressions and calls among them. -/

namespace GuardedCalls

mutual
def Outline.nodes : Outline → List Node
  | .mk node children => node :: Outline.nodesOfAll children

def Outline.nodesOfAll : List Outline → List Node
  | [] => []
  | o :: os => o.nodes ++ Outline.nodesOfAll os
end

mutual
def Outline.nodesInsideOut : Outline → List Node
  | .mk node children => Outline.nodesInsideOutOfAll children ++ [node]

def Outline.nodesInsideOutOfAll : List Outline → List Node
  | [] => []
  | o :: os => o.nodesInsideOut ++ Outline.nodesInsideOutOfAll os
end

namespace Outline

lemma nodesOfAll_eq (os : List Outline) : nodesOfAll os = os.flatMap nodes := by
  induction os with
  | nil => rfl
  | cons o os ih => rw [nodesOfAll, ih, List.flatMap_cons]

lemma nodesInsideOutOfAll_eq (os : List Outline) :
    nodesInsideOutOfAll os = os.flatMap nodesInsideOut := by
  induction os with
  | nil => rfl
  | cons o os ih => rw [nodesInsideOutOfAll, ih, List.flatMap_cons]

@[simp] lemma nodes_mk (node : Node) (children : List Outline) :
    (mk node children).nodes = node :: children.flatMap nodes := by
  rw [nodes, nodesOfAll_eq]

@[simp] lemma nodesInsideOut_mk (node : Node) (children : List Outline) :
    (mk node children).nodesInsideOut = children.flatMap nodesInsideOut ++ [node] := by
  rw [nodesInsideOut, nodesInsideOutOfAll_eq]

end Outline

mutual
theorem Outline.nodes_perm_insideOut : ∀ o : Outline, o.nodes.Perm o.nodesInsideOut
  | .mk node children => by
    rw [Outline.nodes, Outline.nodesInsideOut]
    exact ((Outline.nodesOfAll_perm_insideOut children).cons node).trans
      (List.perm_append_singleton _ _).symm

theorem Outline.nodesOfAll_perm_insideOut : ∀ os : List Outline,
    (Outline.nodesOfAll os).Perm (Outline.nodesInsideOutOfAll os)
  | [] => .nil
  | o :: os => (Outline.nodes_perm_insideOut o).append (Outline.nodesOfAll_perm_insideOut os)
end

namespace Node

def expr? : Node → Option Expr
  | .expr e => some e
  | _ => none

def call? : Node → Option Call
  | .call c => some c
  | _ => none

@[simp] lemma expr?_expr (e : Expr) : (expr e).expr? = some e := rfl
@[simp] lemma expr?_call (c : Call) : (call c).expr? = none := rfl
@[simp] lemma call?_expr (e : Expr) : (expr e).call? = none := rfl
@[simp] lemma call?_call (c : Call) : (call c).call? = some c := rfl

end Node

namespace Expr

def subexprs (e : Expr) : List Expr :=
  e.outline.nodes.filterMap Node.expr?

def calls (e : Expr) : List Call :=
  e.outline.nodes.filterMap Node.call?

def callsInsideOut (e : Expr) : List Call :=
  e.outline.nodesInsideOut.filterMap Node.call?

lemma receiverOutline_eq (receiver : Option Expr) :
    receiverOutline receiver = receiver.toList.map outline := by
  cases receiver <;> rfl

lemma listOutline_eq (es : List Expr) : listOutline es = es.map outline := by
  induction es with
  | nil => rfl
  | cons e es ih => rw [listOutline, ih, List.map_cons]

lemma outline_eq (e : Expr) :
    e.outline = .mk (.expr e) (match e.call? with
      | some c => [.mk (.call c) (e.parts.map outline)]
      | none => e.parts.map outline) := by
  cases e <;> simp [outline, call?, parts, receiverOutline_eq, listOutline_eq]

lemma subexprs_eq (e : Expr) : e.subexprs = e :: e.parts.flatMap subexprs := by
  rw [subexprs, outline_eq]
  cases e.call? <;> simp [List.flatMap_map, List.filterMap_cons, List.filterMap_flatMap] <;> rfl

lemma calls_eq (e : Expr) : e.calls = e.call?.toList ++ e.parts.flatMap calls := by
  rw [calls, outline_eq]
  cases e.call? <;> simp [List.flatMap_map, List.filterMap_cons, List.filterMap_flatMap] <;> rfl

lemma callsInsideOut_eq (e : Expr) :
    e.callsInsideOut = e.parts.flatMap callsInsideOut ++ e.call?.toList := by
  rw [callsInsideOut, outline_eq]
  cases e.call? <;> simp [List.flatMap_map, List.filterMap_cons, List.filterMap_flatMap] <;> rfl

lemma calls_perm_insideOut (e : Expr) : e.calls.Perm e.callsInsideOut :=
  e.outline.nodes_perm_insideOut.filterMap _

lemma self_mem_subexprs (e : Expr) : e ∈ e.subexprs := by
  rw [subexprs_eq]
  exact List.mem_cons_self

lemma mem_subexprs_of_mem_parts {e s t : Expr} (hs : s ∈ e.parts) (ht : t ∈ s.subexprs) :
    t ∈ e.subexprs := by
  rw [subexprs_eq]
  exact List.mem_cons_of_mem e (List.mem_flatMap.mpr ⟨s, hs, ht⟩)

lemma mem_subexprs_trans {e s t : Expr} (ht : t ∈ s.subexprs) (hs : s ∈ e.subexprs) :
    t ∈ e.subexprs := by
  induction e using parts_induction with
  | step e ih =>
    rw [subexprs_eq] at hs
    rcases List.mem_cons.mp hs with rfl | h
    · exact ht
    · obtain ⟨u, hu, hs⟩ := List.mem_flatMap.mp h
      exact mem_subexprs_of_mem_parts hu (ih u hu hs)

lemma mem_calls_iff {e : Expr} {c : Call} : c ∈ e.calls ↔ c.toExpr ∈ e.subexprs := by
  induction e using parts_induction with
  | step e ih =>
    rw [calls_eq, subexprs_eq, List.mem_append, List.mem_cons, Option.mem_toList,
      call?_eq_some_iff, List.mem_flatMap, List.mem_flatMap]
    exact or_congr eq_comm (exists_congr fun s => and_congr_right fun hs => ih s hs)

lemma mem_calls_of_mem_parts {e s : Expr} {c : Call} (hs : s ∈ e.parts) (hc : c ∈ s.calls) :
    c ∈ e.calls :=
  mem_calls_iff.mpr (mem_subexprs_of_mem_parts hs (mem_calls_iff.mp hc))

lemma mem_calls_toExpr (c : Call) : c ∈ c.toExpr.calls :=
  mem_calls_iff.mpr c.toExpr.self_mem_subexprs

end Expr

def Call.callsInside (c : Call) : List Call :=
  c.toExpr.parts.flatMap Expr.calls

lemma Call.calls_toExpr (c : Call) : c.toExpr.calls = c :: c.callsInside := by
  rw [Expr.calls_eq, Expr.call?_toExpr, Call.callsInside]
  rfl

lemma Expr.mem_calls_of_mem_callsInside {e : Expr} {c d : Call} (hc : c ∈ e.calls)
    (hd : d ∈ c.callsInside) : d ∈ e.calls := by
  have hi : d ∈ c.toExpr.calls := by
    rw [Call.calls_toExpr]
    exact List.mem_cons_of_mem c hd
  exact mem_calls_iff.mpr (mem_subexprs_trans (mem_calls_iff.mp hi) (mem_calls_iff.mp hc))

def Method.roots (m : Method) : List Expr :=
  m.body.filterMap Statement.expr?

def Method.sitesBy (calls : Expr → List Call) (className : String) (m : Method) : List CallSite :=
  (m.roots.flatMap calls).map (CallSite.mk (className ++ "." ++ m.name))

def ClassDecl.sitesBy (calls : Expr → List Call) (c : ClassDecl) : List CallSite :=
  c.methods.flatMap (Method.sitesBy calls c.name)

namespace SourceFile

def roots (f : SourceFile) : List Expr :=
  f.classes.flatMap fun c => c.methods.flatMap Method.roots

def exprs (f : SourceFile) : List Expr :=
  f.outline.nodes.filterMap Node.expr?

def calls (f : SourceFile) : List Call :=
  f.outline.nodes.filterMap Node.call?

def sitesBy (calls : Expr → List Call) (f : SourceFile) : List CallSite :=
  f.classes.flatMap (ClassDecl.sitesBy calls)

def sites (f : SourceFile) : List CallSite :=
  f.sitesBy Expr.calls

def sitesInsideOut (f : SourceFile) : List CallSite :=
  f.sitesBy Expr.callsInsideOut

end SourceFile

lemma Method.flatMap_body {α : Type} (g : Expr → List α) (m : Method) :
    (m.body.flatMap fun s => s.expr?.toList.flatMap g) = m.roots.flatMap g := by
  rw [Method.roots, List.filterMap_eq_flatMap_toList, List.flatMap_assoc]

namespace SourceFile

lemma filterMap_nodes {α : Type} (look : Node → Option α) (f : SourceFile)
    (hf : ∀ g, look (.file g) = none) (hi : ∀ i, look (.importDecl i) = none)
    (hc : ∀ c, look (.classDecl c) = none) (hm : ∀ m, look (.method m) = none)
    (hs : ∀ s, look (.statement s) = none) :
    f.outline.nodes.filterMap look = f.roots.flatMap fun e => e.outline.nodes.filterMap look := by
  simp [outline, roots, Import.outline, ClassDecl.outline, Method.outline, Statement.outline,
    List.flatMap_map, List.filterMap_flatMap, List.flatMap_assoc, hf, hi, hc, hm, hs,
    Method.flatMap_body]

lemma exprs_eq (f : SourceFile) : f.exprs = f.roots.flatMap Expr.subexprs := by
  rw [exprs, filterMap_nodes _ _ (fun _ => rfl) (fun _ => rfl) (fun _ => rfl) (fun _ => rfl)
    fun _ => rfl]
  rfl

lemma calls_eq (f : SourceFile) : f.calls = f.roots.flatMap Expr.calls := by
  rw [calls, filterMap_nodes _ _ (fun _ => rfl) (fun _ => rfl) (fun _ => rfl) (fun _ => rfl)
    fun _ => rfl]
  rfl

lemma map_call_sites (f : SourceFile) : f.sites.map CallSite.call = f.calls := by
  simp [calls_eq, sites, sitesBy, ClassDecl.sitesBy, Method.sitesBy, roots, List.map_flatMap,
    List.flatMap_assoc, Function.comp_def]

lemma sites_perm_insideOut (f : SourceFile) : f.sites.Perm f.sitesInsideOut := by
  refine List.Perm.flatMap_left _ fun c _ => List.Perm.flatMap_left _ fun m _ => .map _ ?_
  exact List.Perm.flatMap_left _ fun e _ => e.calls_perm_insideOut

lemma call_mem_of_mem_sitesInsideOut (f : SourceFile) {site : CallSite}
    (hs : site ∈ f.sitesInsideOut) : site.call ∈ f.calls := by
  rw [← f.map_call_sites]
  exact List.mem_map_of_mem (f.sites_perm_insideOut.mem_iff.mpr hs)

lemma mem_calls_of_mem_callsInside (f : SourceFile) {c d : Call} (hc : c ∈ f.calls)
    (hd : d ∈ c.callsInside) : d ∈ f.calls := by
  rw [calls_eq] at hc ⊢
  obtain ⟨e, he, hc⟩ := List.mem_flatMap.mp hc
  exact List.mem_flatMap.mpr ⟨e, he, Expr.mem_calls_of_mem_callsInside hc hd⟩

end SourceFile

end GuardedCalls
