import GuardedCalls.Proofs.Nodes
import GuardedCalls.Proofs.Stateful

/-! The two walks of a search. The one that stops at the first accepted call tells whether there is
one, and the one that goes on finds all of them, each with its class and method. -/

namespace GuardedCalls

variable (p : MethodPattern)

namespace MethodPattern

def acceptsNode (n : Node) : Bool :=
  n.call?.any p.acceptsCall

lemma detector_visit (n : Node) (b : Bool) :
    (p.detector.visit n).run b = if p.acceptsNode n then (.stop, true) else (.proceed, b) := by
  cases n with
  | call c =>
    by_cases hc : p.acceptsCall c = true <;> simp [detector, acceptsNode, hc] <;> rfl
  | _ => rfl

lemma detector_leave (n : Node) (b : Bool) : (p.detector.leave n).run b = ((), b) := rfl

end MethodPattern

mutual
theorem Outline.walk_detector : ∀ (o : Outline) (b : Bool),
    (o.walk p.detector).run b = if o.nodes.any p.acceptsNode then (false, true) else (true, b)
  | .mk n children, b => by
    have hc := Outline.walkAll_detector children b
    rw [Outline.walk, run_bind, MethodPattern.detector_visit, Outline.nodes, List.any_cons]
    by_cases hn : p.acceptsNode n = true
    · simp only [hn, ↓reduceIte, Bool.true_or, run_pure]
    · by_cases ha : (Outline.nodesOfAll children).any p.acceptsNode = true
      · simp only [hn, ha, hc, Bool.false_or, ↓reduceIte, run_bind, run_pure, Bool.false_eq_true]
      · simp only [hn, ha, hc, Bool.false_or, ↓reduceIte, run_bind, run_pure,
          MethodPattern.detector_leave, Bool.false_eq_true]

theorem Outline.walkAll_detector : ∀ (os : List Outline) (b : Bool),
    (Outline.walkAll p.detector os).run b =
      if (Outline.nodesOfAll os).any p.acceptsNode then (false, true) else (true, b)
  | [], _ => rfl
  | o :: os, b => by
    have ho := Outline.walk_detector o b
    have hos := Outline.walkAll_detector os b
    rw [Outline.walkAll, run_bind, ho, Outline.nodesOfAll, List.any_append]
    by_cases ha : o.nodes.any p.acceptsNode = true
    · simp only [ha, ↓reduceIte, Bool.true_or, run_pure, Bool.false_eq_true]
    · simp only [ha, ↓reduceIte, Bool.false_or, Bool.false_eq_true, hos]
end

lemma MethodPattern.occursIn_iff {f : SourceFile} :
    p.occursIn f = true ↔ ∃ c ∈ f.calls, p.acceptsCall c = true := by
  have ho : p.occursIn f = f.outline.nodes.any p.acceptsNode := by
    change ((f.outline.walk p.detector).run false).2 = _
    rw [Outline.walk_detector]
    split <;> simp_all
  rw [ho, SourceFile.calls]
  simp [MethodPattern.acceptsNode, Option.any_eq_true]
  grind

def Node.keepsScope : Node → Bool
  | .statement _ | .expr _ | .call _ => true
  | .file _ | .importDecl _ | .classDecl _ | .method _ => false

namespace MethodPattern

def Finding.add (s : Finding) (calls : List Call) : Finding :=
  { s with sites := ((calls.filter p.acceptsCall).map (CallSite.mk s.scope.name)).reverse ++ s.sites }

lemma Finding.add_append (s : Finding) (as bs : List Call) :
    Finding.add p s (as ++ bs) = Finding.add p (Finding.add p s as) bs := by
  simp [Finding.add]

lemma finder_visit {n : Node} (hn : n.keepsScope = true) (s : Finding) :
    (p.finder.visit n).run s = (.proceed, Finding.add p s n.call?.toList) := by
  cases n with
  | call c => by_cases hc : p.acceptsCall c = true <;> simp [finder, Finding.add, hc] <;> rfl
  | statement | expr => rfl
  | _ => simp [Node.keepsScope] at hn

lemma finder_leave {n : Node} (hn : n.keepsScope = true) (s : Finding) :
    (p.finder.leave n).run s = ((), s) := by
  cases n with
  | call | statement | expr => rfl
  | _ => simp [Node.keepsScope] at hn

end MethodPattern

mutual
theorem Outline.walk_finder : ∀ (o : Outline) (s : MethodPattern.Finding),
    (∀ n ∈ o.nodes, n.keepsScope = true) →
    (o.walk p.finder).run s = (true, .add p s (o.nodes.filterMap Node.call?))
  | .mk n children, s, ho => by
    have hn : n.keepsScope = true := ho n List.mem_cons_self
    have hc := fun s => Outline.walkAll_finder children s fun m hm => ho m (List.mem_cons_of_mem n hm)
    have hl : (n :: Outline.nodesOfAll children).filterMap Node.call? =
        n.call?.toList ++ (Outline.nodesOfAll children).filterMap Node.call? := by
      cases hn : n.call? <;> simp [hn]
    rw [Outline.walk, run_bind, p.finder_visit hn, Outline.nodes, hl, MethodPattern.Finding.add_append]
    simp only [run_bind, hc, p.finder_leave hn, run_pure, ↓reduceIte]

theorem Outline.walkAll_finder : ∀ (os : List Outline) (s : MethodPattern.Finding),
    (∀ n ∈ Outline.nodesOfAll os, n.keepsScope = true) →
    (Outline.walkAll p.finder os).run s = (true, .add p s ((Outline.nodesOfAll os).filterMap Node.call?))
  | [], _, _ => rfl
  | o :: os, s, hos => by
    have ho := Outline.walk_finder o s fun n hn => hos n (List.mem_append_left _ hn)
    have ht := fun s => Outline.walkAll_finder os s fun n hn => hos n (List.mem_append_right _ hn)
    rw [Outline.walkAll, run_bind, ho, Outline.nodesOfAll, List.filterMap_append,
      MethodPattern.Finding.add_append]
    simp only [ht, ↓reduceIte]
end

lemma Expr.keepsScope_of_mem_outline (e : Expr) : ∀ n ∈ e.outline.nodes, n.keepsScope = true := by
  induction e using Expr.parts_induction with
  | step e ih =>
    intro n hn
    rw [Expr.outline_eq] at hn
    cases hc : e.call? <;> rw [hc] at hn <;>
      simp only [Outline.nodes_mk, List.flatMap_map, List.flatMap_cons, List.flatMap_nil,
        List.append_nil, List.mem_cons, List.mem_flatMap] at hn
    · obtain rfl | ⟨s, hs, hn⟩ := hn
      · rfl
      · exact ih s hs n hn
    · obtain rfl | rfl | ⟨s, hs, hn⟩ := hn
      · rfl
      · rfl
      · exact ih s hs n hn

lemma Statement.keepsScope_of_mem_outline (st : Statement) :
    ∀ n ∈ st.outline.nodes, n.keepsScope = true := by
  intro n hn
  simp only [Statement.outline, Outline.nodes_mk, List.mem_cons, List.flatMap_map,
    List.mem_flatMap] at hn
  obtain rfl | ⟨e, _, hn⟩ := hn
  · rfl
  · exact e.keepsScope_of_mem_outline n hn

lemma Method.calls_outline (m : Method) :
    (Outline.nodesOfAll (m.body.map Statement.outline)).filterMap Node.call? =
      m.roots.flatMap Expr.calls := by
  simp only [Outline.nodesOfAll_eq, List.flatMap_map, List.filterMap_flatMap, ← m.flatMap_body]
  congr 1
  funext st
  rw [Statement.outline, Outline.nodes_mk, List.filterMap_cons_none rfl, List.flatMap_map,
    List.filterMap_flatMap]
  rfl

namespace MethodPattern

def finds (site : CallSite) : Bool :=
  p.acceptsCall site.call

lemma walk_method (m : Method) (className : String) (sites : List CallSite) :
    (m.outline.walk p.finder).run ⟨⟨some className, none⟩, sites⟩ = (true, ⟨⟨some className, none⟩,
      ((m.sitesBy Expr.calls className).filter p.finds).reverse ++ sites⟩) := by
  have hb := fun s => Outline.walkAll_finder p (m.body.map Statement.outline) s (by
    intro n hn
    rw [Outline.nodesOfAll_eq, List.flatMap_map] at hn
    obtain ⟨st, _, hn⟩ := List.mem_flatMap.mp hn
    exact st.keepsScope_of_mem_outline n hn)
  have hv : (p.finder.visit (.method m)).run ⟨⟨some className, none⟩, sites⟩ =
      (.proceed, ⟨⟨some className, some m.name⟩, sites⟩) := rfl
  have hl : ∀ sites, (p.finder.leave (.method m)).run ⟨⟨some className, some m.name⟩, sites⟩ =
      ((), ⟨⟨some className, none⟩, sites⟩) := fun _ => rfl
  simp only [Method.outline, Outline.walk, run_bind, hv, hb, Method.calls_outline, Finding.add, hl,
    run_pure, ↓reduceIte, Method.sitesBy, List.filter_map]
  rfl

lemma walkAll_methods (ms : List Method) (className : String) (sites : List CallSite) :
    (Outline.walkAll p.finder (ms.map Method.outline)).run ⟨⟨some className, none⟩, sites⟩ =
      (true, ⟨⟨some className, none⟩,
        ((ms.flatMap (Method.sitesBy Expr.calls className)).filter p.finds).reverse ++ sites⟩) := by
  induction ms generalizing sites with
  | nil => rfl
  | cons m ms ih =>
    rw [List.map_cons, Outline.walkAll, run_bind, walk_method]
    simp only [↓reduceIte, ih, List.flatMap_cons, List.filter_append, List.reverse_append,
      List.append_assoc]

lemma walk_classDecl (c : ClassDecl) (sites : List CallSite) :
    (c.outline.walk p.finder).run ⟨{}, sites⟩ =
      (true, ⟨{}, ((c.sitesBy Expr.calls).filter p.finds).reverse ++ sites⟩) := by
  have hv : (p.finder.visit (.classDecl c)).run ⟨{}, sites⟩ =
      (.proceed, ⟨⟨some c.name, none⟩, sites⟩) := rfl
  have hl : ∀ s, (p.finder.leave (.classDecl c)).run s = ((), { s with scope := {} }) := fun _ => rfl
  simp only [ClassDecl.outline, Outline.walk, run_bind, hv, walkAll_methods, hl, run_pure, ↓reduceIte]
  rfl

lemma walkAll_classes (cs : List ClassDecl) (sites : List CallSite) :
    (Outline.walkAll p.finder (cs.map ClassDecl.outline)).run ⟨{}, sites⟩ =
      (true, ⟨{}, ((cs.flatMap (ClassDecl.sitesBy Expr.calls)).filter p.finds).reverse ++ sites⟩) := by
  induction cs generalizing sites with
  | nil => rfl
  | cons c cs ih =>
    rw [List.map_cons, Outline.walkAll, run_bind, walk_classDecl]
    simp only [↓reduceIte, ih, List.flatMap_cons, List.filter_append, List.reverse_append,
      List.append_assoc]

lemma walkAll_imports (is : List Import) (os : List Outline) (s : Finding) :
    (Outline.walkAll p.finder (is.map Import.outline ++ os)).run s =
      (Outline.walkAll p.finder os).run s := by
  induction is with
  | nil => rfl
  | cons i is ih =>
    rw [List.map_cons, List.cons_append, Outline.walkAll, run_bind]
    exact ih

theorem findCalls_eq (f : SourceFile) : p.findCalls f = f.sites.filter p.finds := by
  change ((f.outline.walk p.finder).run {}).2.sites.reverse = _
  have hv : (p.finder.visit (.file f)).run {} = (.proceed, ⟨{}, []⟩) := rfl
  have hl : ∀ s, (p.finder.leave (.file f)).run s = ((), s) := fun _ => rfl
  simp only [SourceFile.outline, Outline.walk, run_bind, hv, walkAll_imports, walkAll_classes, hl,
    run_pure, ↓reduceIte, List.append_nil, List.reverse_reverse]
  rfl

lemma occursIn_iff_findCalls {f : SourceFile} : p.occursIn f = true ↔ p.findCalls f ≠ [] := by
  rw [occursIn_iff, findCalls_eq, ← f.map_call_sites, ne_eq, List.filter_eq_nil_iff]
  simp [finds]

end MethodPattern

end GuardedCalls
