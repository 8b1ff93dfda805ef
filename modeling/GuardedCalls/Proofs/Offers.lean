import GuardedCalls.Proofs.Histories
import GuardedCalls.Proofs.Rebuild
import Mathlib.Data.List.Forall2

/-! What a fold offers to its hooks: the nodes of the file it is given, each once and behind those
below it. The hooks decide what becomes of a node, and have no say in which node is next. -/

namespace GuardedCalls

variable {σ α β : Type}

def Expr.shell (e : Expr) : Expr :=
  e.mapParts (fun _ => default) fun _ => default

namespace Node

def hasHook : Node → Bool
  | .importDecl _ | .statement _ => false
  | .file _ | .classDecl _ | .method _ | .expr _ | .call _ => true

/-- A node with other parts. In the place of a call there can be any expression, for the hook for
calls has been there before. -/
inductive OfferedAs : Node → Node → Prop
  | file (f : SourceFile) (classes : List ClassDecl) :
      OfferedAs (.file f) (.file { f with classes })
  | classDecl (c : ClassDecl) (methods : List Method) :
      OfferedAs (.classDecl c) (.classDecl { c with methods })
  | method (m : Method) (body : List Statement) : OfferedAs (.method m) (.method { m with body })
  | expr {e new : Expr} (h : e.call? = none → new.shell = e.shell) :
      OfferedAs (.expr e) (.expr new)
  | call {c new : Call} (h : new.toExpr.shell = c.toExpr.shell) : OfferedAs (.call c) (.call new)

lemma OfferedAs.name_call? {n m : Node} (h : n.OfferedAs m) :
    m.call?.map Call.name = n.call?.map Call.name := by
  cases h with
  | call h =>
    have hn := (Expr.call.inj h).2.1
    exact congrArg some hn
  | _ => rfl

lemma OfferedAs.map_expr? {n m : Node} (h : n.OfferedAs m) :
    m.expr?.map (fun _ => ()) = n.expr?.map fun _ => () := by
  cases h <;> rfl

end Node

namespace Outline

def hooked (o : Outline) : List Node :=
  o.nodesInsideOut.filter Node.hasHook

@[simp] lemma hooked_mk (n : Node) (children : List Outline) :
    (mk n children).hooked = children.flatMap hooked ++ [n].filter Node.hasHook := by
  rw [hooked, nodesInsideOut_mk, List.filter_append, List.filter_flatMap]
  rfl

end Outline

lemma Expr.hooked_toExpr (c : Call) : c.toExpr.outline.hooked =
    (c.toExpr.parts.flatMap fun s => s.outline.hooked) ++ [.call c, .expr c.toExpr] := by
  rw [Expr.outline_eq]
  simp [List.flatMap_map, List.filter_cons, Node.hasHook]

lemma Expr.hooked_of_call?_eq_none {e : Expr} (he : e.call? = none) :
    e.outline.hooked = (e.parts.flatMap fun s => s.outline.hooked) ++ [.expr e] := by
  rw [Expr.outline_eq, he]
  simp [List.flatMap_map, Node.hasHook]

def Hooks.noting (h : Hooks σ) : Hooks (σ × List Node) where
  enterFile f := noted (fun _ => []) (h.enterFile f)
  file f := noted (fun _ => [.file f]) (h.file f)
  enterClass c := noted (fun _ => []) (h.enterClass c)
  classDecl c := noted (fun _ => [.classDecl c]) (h.classDecl c)
  enterMethod m := noted (fun _ => []) (h.enterMethod m)
  method m := noted (fun _ => [.method m]) (h.method m)
  call c := noted (fun _ => [.call c]) (h.call c)
  expr e := noted (fun _ => [.expr e]) (h.expr e)

def Offers (x : StateM σ α) (x' : StateM (σ × List Node) α) (nodes : List Node) : Prop :=
  ∀ s log, ∃ offers, x'.run (s, log) = ((x.run s).1, (x.run s).2, log ++ offers) ∧
    List.Forall₂ Node.OfferedAs nodes offers

namespace Offers

variable {x : StateM σ α} {x' : StateM (σ × List Node) α} {next : α → StateM σ β}
  {next' : α → StateM (σ × List Node) β} {P : α → Prop} {nodes more : List Node}

lemma pure (a : α) : Offers (Pure.pure a : StateM σ α) (Pure.pure a) [] :=
  fun _ log => ⟨[], by rw [List.append_nil]; rfl, .nil⟩

lemma nothing (x : StateM σ α) : Offers x (noted (fun _ => []) x) [] :=
  fun _ _ => ⟨[], rfl, .nil⟩

lemma one {n m : Node} (h : n.OfferedAs m) (x : StateM σ α) : Offers x (noted (fun _ => [m]) x) [n] :=
  fun _ _ => ⟨[m], rfl, .cons h .nil⟩

lemma bind_of (hx : Offers x x' nodes) (hr : Returns x P)
    (hn : ∀ a, P a → Offers (next a) (next' a) more) :
    Offers (x >>= next) (x' >>= next') (nodes ++ more) := by
  intro s log
  obtain ⟨offers, ho, hf⟩ := hx s log
  obtain ⟨offers', ho', hf'⟩ := hn _ (hr s) (x.run s).2 (log ++ offers)
  refine ⟨offers ++ offers', ?_, List.rel_append hf hf'⟩
  rw [run_bind, ho, ho', List.append_assoc]
  rfl

lemma bind (hx : Offers x x' nodes) (hn : ∀ a, Offers (next a) (next' a) more) :
    Offers (x >>= next) (x' >>= next') (nodes ++ more) :=
  hx.bind_of (P := fun _ => True) (fun _ => trivial) fun a _ => hn a

lemma mapM {act : α → StateM σ β} {act' : α → StateM (σ × List Node) β} {nodes : α → List Node}
    {xs : List α} (hx : ∀ x ∈ xs, Offers (act x) (act' x) (nodes x)) :
    Offers (xs.mapM act) (xs.mapM act') (xs.flatMap nodes) := by
  induction xs with
  | nil => exact .pure []
  | cons x xs ih =>
    rw [List.mapM_cons, List.mapM_cons, List.flatMap_cons]
    refine (hx x List.mem_cons_self).bind fun b => ?_
    have ht := (ih fun y hy => hx y (List.mem_cons_of_mem x hy)).bind fun bs => .pure (b :: bs)
    rwa [List.append_nil] at ht

end Offers

namespace Expr

variable {h : Hooks σ}

lemma offers_foldReceiver {receiver : Option Expr}
    (hr : ∀ e ∈ receiver.toList, Offers (e.fold h) (e.fold h.noting) e.outline.hooked) :
    Offers (foldReceiver h receiver) (foldReceiver h.noting receiver)
      (receiver.toList.flatMap fun s => s.outline.hooked) := by
  cases receiver with
  | none => exact .pure none
  | some e => exact (hr e (by simp)).bind fun new => .pure (some (e.inPlaceOf new))

lemma offers_foldList {es : List Expr}
    (he : ∀ e ∈ es, Offers (e.fold h) (e.fold h.noting) e.outline.hooked) :
    Offers (foldList h es) (foldList h.noting es) (es.flatMap fun s => s.outline.hooked) := by
  induction es with
  | nil => exact .pure []
  | cons e es ih =>
    rw [foldList, foldList, List.flatMap_cons]
    refine (he e List.mem_cons_self).bind fun new => ?_
    have ht := (ih fun t ht => he t (List.mem_cons_of_mem e ht)).bind fun news => .pure (new :: news)
    rwa [List.append_nil] at ht

lemma isSome_foldReceiver (receiver : Option Expr) :
    Returns (foldReceiver h receiver) fun new => new.isSome = receiver.isSome := by
  cases receiver <;> exact fun _ => rfl

lemma length_foldList (es : List Expr) :
    Returns (foldList h es) fun new => new.length = es.length := by
  induction es with
  | nil => exact fun _ => rfl
  | cons e es ih => exact fun s => congrArg (· + 1) (ih ((e.fold h).run s).2)

lemma shell_call {receiver newReceiver : Option Expr} {arguments new : List Expr}
    (hr : newReceiver.isSome = receiver.isSome) (ha : new.length = arguments.length)
    (name : String) (signature : Option Signature) :
    (Call.mk newReceiver name new signature).toExpr.shell =
      (Call.mk receiver name arguments signature).toExpr.shell := by
  have hm : newReceiver.map (fun _ => (default : Expr)) = receiver.map fun _ => default := by
    cases receiver <;> cases newReceiver <;> simp_all
  simp only [shell, Call.toExpr, mapParts, hm, List.map_const', ha]

variable (h) in
lemma offers_call {c new : Call} (hs : new.toExpr.shell = c.toExpr.shell) :
    Offers (h.call new) (h.noting.call new) [.call c] :=
  .one (.call hs) (h.call new)

variable (h) in
lemma offers_expr {e new : Expr} (hs : e.call? = none → new.shell = e.shell) :
    Offers (h.expr new) (h.noting.expr new) [.expr e] :=
  .one (.expr hs) (h.expr new)

lemma offers_fold (h : Hooks σ) (e : Expr) : Offers (e.fold h) (e.fold h.noting) e.outline.hooked := by
  induction e using parts_induction with
  | step e ih =>
    cases e with
    | call receiver name arguments signature =>
      have ho := hooked_toExpr ⟨receiver, name, arguments, signature⟩
      rw [parts_toExpr, List.flatMap_append, List.append_assoc] at ho
      refine ho ▸ ?_
      refine (offers_foldReceiver fun e hm => ih e (List.mem_append_left _ hm)).bind_of
        (isSome_foldReceiver receiver) fun newReceiver hr => ?_
      refine (offers_foldList fun e hm => ih e (List.mem_append_right _ hm)).bind_of
        (length_foldList arguments) fun new ha => ?_
      -- What the hook for calls returns is offered next, and nothing is known about it.
      refine (offers_call h (shell_call hr ha name signature)).bind fun result => ?_
      exact offers_expr h fun hc => absurd hc (Option.some_ne_none _)
    | construct type arguments =>
      rw [hooked_of_call?_eq_none rfl]
      refine (offers_foldList (show ∀ e ∈ arguments, _ from ih)).bind_of
        (length_foldList arguments) fun new ha => offers_expr h fun _ => ?_
      rw [shell, shell, mapParts, mapParts, List.map_const', List.map_const', ha]
    | ident | literal => exact offers_expr h fun _ => rfl
    | select target | typeTest target | cast _ target | paren target =>
      rw [hooked_of_call?_eq_none rfl, parts, List.flatMap_singleton]
      exact (ih target (by simp [parts])).bind fun new => offers_expr h fun _ => rfl
    | conditional test yes no type =>
      rw [hooked_of_call?_eq_none rfl, parts, List.flatMap_cons, List.flatMap_cons,
        List.flatMap_singleton, List.append_assoc, List.append_assoc]
      refine (ih test (by simp [parts])).bind fun newTest => ?_
      refine (ih yes (by simp [parts])).bind fun newYes => ?_
      exact (ih no (by simp [parts])).bind fun newNo => offers_expr h fun _ => rfl
    | binary left op right type =>
      rw [hooked_of_call?_eq_none rfl, parts, List.flatMap_cons, List.flatMap_singleton,
        List.append_assoc]
      refine (ih left (by simp [parts])).bind fun newLeft => ?_
      exact (ih right (by simp [parts])).bind fun newRight => offers_expr h fun _ => rfl

end Expr

lemma Statement.offers_fold (h : Hooks σ) (st : Statement) :
    Offers (st.fold h) (st.fold h.noting) st.outline.hooked := by
  have ho : st.outline.hooked = st.expr?.toList.flatMap fun e => e.outline.hooked := by
    simp [Statement.outline, List.flatMap_map, Node.hasHook]
  rw [ho]
  cases st with
  | localVariable type name init =>
    cases init with
    | none => exact .pure _
    | some init => exact (init.offers_fold h).bind fun new => .pure _
  | expression value => exact (value.offers_fold h).bind fun new => .pure _
  | returns value =>
    cases value with
    | none => exact .pure _
    | some value => exact (value.offers_fold h).bind fun new => .pure _
  | throws exception => exact (exception.offers_fold h).bind fun new => .pure _

lemma Method.offers_fold (h : Hooks σ) (m : Method) :
    Offers (m.fold h) (m.fold h.noting) m.outline.hooked := by
  rw [Method.outline, Outline.hooked_mk, List.flatMap_map]
  refine (Offers.nothing (h.enterMethod m)).bind fun _ => ?_
  refine (Offers.mapM fun st _ => Statement.offers_fold h st).bind fun body => ?_
  exact .one (.method m body) _

lemma ClassDecl.offers_fold (h : Hooks σ) (c : ClassDecl) :
    Offers (c.fold h) (c.fold h.noting) c.outline.hooked := by
  rw [ClassDecl.outline, Outline.hooked_mk, List.flatMap_map]
  refine (Offers.nothing (h.enterClass c)).bind fun _ => ?_
  refine (Offers.mapM fun m _ => Method.offers_fold h m).bind fun methods => ?_
  exact .one (.classDecl c methods) _

lemma SourceFile.offers_fold (h : Hooks σ) (f : SourceFile) :
    Offers (f.fold h) (f.fold h.noting) f.outline.hooked := by
  have ho : f.outline.hooked = (f.classes.flatMap fun c => c.outline.hooked) ++ [.file f] := by
    simp [SourceFile.outline, Import.outline, List.flatMap_map, List.filter_cons, Node.hasHook]
  rw [ho]
  refine (Offers.nothing (h.enterFile f)).bind fun _ => ?_
  refine (Offers.mapM fun c _ => ClassDecl.offers_fold h c).bind fun classes => ?_
  exact .one (.file f classes) _

lemma map_filterMap_of_offered {look : Node → Option α} {key : α → β}
    (hk : ∀ {n m : Node}, n.OfferedAs m → (look m).map key = (look n).map key)
    {nodes offers : List Node} (h : List.Forall₂ Node.OfferedAs nodes offers) :
    (offers.filterMap look).map key = (nodes.filterMap look).map key := by
  rw [List.map_filterMap, List.map_filterMap]
  induction h with
  | nil => rfl
  | cons hn _ ih => rw [List.filterMap_cons, List.filterMap_cons, hk hn, ih]

lemma Outline.filterMap_hooked (look : Node → Option α) (o : Outline)
    (hl : ∀ n, n.hasHook = false → look n = none) :
    o.hooked.filterMap look = o.nodesInsideOut.filterMap look := by
  rw [hooked, List.filterMap_filter]
  congr 1
  funext n
  cases hn : n.hasHook with
  | false => simp [hl n hn]
  | true => rfl

lemma Hooks.default_onCalls : ({} : Hooks σ).OnCalls Call.toExpr fun s _ => s where
  call _ _ := rfl
  expr _ _ := rfl

lemma Method.fold_default (m : Method) (s : σ) : (m.fold ({} : Hooks σ)).run s = (m, s) := by
  have hm : m.mapExprs (Expr.rebuild Call.toExpr) = m :=
    Method.mapExprs_eq_self fun e _ => Expr.rebuild_eq_self fun _ _ => rfl
  have hb := Statement.foldBlock_run Hooks.default_onCalls m s
  rw [hm, List.foldl_fixed] at hb
  simp only [Method.fold, run_bind, run_pure, hb]

lemma ClassDecl.fold_default (c : ClassDecl) (s : σ) : (c.fold ({} : Hooks σ)).run s = (c, s) := by
  have hm := run_mapM (fun m (_ : m ∈ c.methods) (s : σ) => m.fold_default s) s
  rw [List.map_id', List.foldl_fixed] at hm
  simp only [ClassDecl.fold, run_bind, run_pure, hm]

lemma SourceFile.fold_default (f : SourceFile) (s : σ) :
    (f.fold ({} : Hooks σ)).run s = (f, s) := by
  have hc := run_mapM (fun c (_ : c ∈ f.classes) (s : σ) => c.fold_default s) s
  rw [List.map_id', List.foldl_fixed] at hc
  simp only [SourceFile.fold, run_bind, run_pure, hc]

/-- A fold offers the nodes of a file to its hooks one by one, each once and from the inside out,
whatever the hooks make of them. These are the nodes that a walk leaves, in the same order, except that
there are no hooks for imports and statements. -/
theorem SourceFile.fold_offers_each_node (h : Hooks σ) (f : SourceFile) (s : σ) :
    let folded := (f.fold h.noting).run (s, [])
    (f.fold h).run s = (folded.1, folded.2.1) ∧
      List.Forall₂ Node.OfferedAs (f.outline.nodesInsideOut.filter Node.hasHook) folded.2.2 ∧
      (∀ (τ : Type) (v : Visitor τ) (t : τ), (∀ n, Returns (v.visit n) (· = .proceed)) →
        let walked := (f.outline.walk (v.noting id)).run (t, [])
        (folded.2.2.filterMap Node.call?).map Call.name =
          ((walked.2.2.filterMap Step.left?).filterMap Node.call?).map Call.name) ∧
      (folded.2.2.filterMap Node.expr?).length = f.exprs.length ∧
      (f.fold ({} : Hooks σ)).run s = (f, s) := by
  intro folded
  obtain ⟨offers, ho, hf⟩ := f.offers_fold h s []
  have hr : folded = (((f.fold h).run s).1, ((f.fold h).run s).2, offers) := ho
  have hn : (offers.filterMap Node.call?).map Call.name =
      (f.outline.nodesInsideOut.filterMap Node.call?).map Call.name := by
    rw [map_filterMap_of_offered Node.OfferedAs.name_call? hf]
    refine congrArg (List.map Call.name) (Outline.filterMap_hooked _ _ ?_)
    intro n
    cases n <;> simp [Node.hasHook, Node.call?]
  have he : (offers.filterMap Node.expr?).length = f.exprs.length := by
    have hl := congrArg List.length (map_filterMap_of_offered Node.OfferedAs.map_expr? hf)
    have hh := Outline.filterMap_hooked Node.expr? f.outline fun n => by
      cases n <;> simp [Node.hasHook, Node.expr?]
    rw [List.length_map, List.length_map] at hl
    calc (offers.filterMap Node.expr?).length
      _ = (f.outline.nodesInsideOut.filterMap Node.expr?).length := by rw [hl, hh]
      _ = f.exprs.length := (f.outline.nodes_perm_insideOut.symm.filterMap _).length_eq
  rw [hr]
  refine ⟨rfl, hf, fun τ v t hv => ?_, he, f.fold_default s⟩
  obtain ⟨t', steps, hw, hl⟩ := Outline.walk_noting_of_proceeds hv f.outline t []
  rw [hw, hn]
  exact congrArg (fun nodes => (nodes.filterMap Node.call?).map Call.name) hl.symm

theorem SourceFile.fold_offers_each_node_dropped :
    let call (receiver : Expr) (name : String) (arguments : List Expr) : Expr :=
      .call (some receiver) name arguments none
    let chain := call (call (.ident "x" none) "m" [call (.ident "y" none) "k" []]) "n" []
    let file : SourceFile := { classes := [{ name := "D", methods :=
      [{ returnType := ⟨"String", none⟩, name := "f", body := [.returns (some chain)] }] }] }
    let h : Hooks Nat :=
      { call := fun c => do
          modify (· + 1)
          return if c.name = "m" then .ident "z" none else c.toExpr }
    let folded := (file.fold h.noting).run (0, [])
    let walked := (file.outline.walk (({} : Visitor Unit).noting id)).run ((), [])
    folded.1.sites.map (fun site => site.call.toExpr) = [call (.ident "z" none) "n" []] ∧
      (folded.2.2.filterMap Node.call?).map Call.name = ["k", "m", "n"] ∧
      ((walked.2.2.filterMap Step.left?).filterMap Node.call?).map Call.name = ["k", "m", "n"] ∧
      (folded.2.2.filterMap Node.expr?).length = 5 ∧
      (file.fold ({} : Hooks Nat)).run 0 = (file, 0) := by
  intro call chain file h folded walked
  obtain ⟨-, -, hw, he, hd⟩ := fold_offers_each_node h file 0
  have hn := hw Unit {} () fun _ _ => rfl
  have hk : (folded.2.2.filterMap Node.call?).map Call.name = ["k", "m", "n"] := by decide +kernel
  exact ⟨by decide +kernel, hk, hn.symm.trans hk, he.trans (by decide +kernel), hd⟩

end GuardedCalls
