import GuardedCalls.Java.SourceFile

/-!
The parts of a source file as a tree of nodes, children in the order of the text, and walks over
it. A call is a node of its own inside the expression that it is.
-/

namespace GuardedCalls

inductive Node
  | file (file : SourceFile)
  | importDecl (decl : Import)
  | classDecl (decl : ClassDecl)
  | method (method : Method)
  | statement (statement : Statement)
  | expr (expr : Expr)
  | call (call : Call)
  deriving DecidableEq

inductive Outline
  | mk (node : Node) (children : List Outline)

def Outline.node : Outline → Node
  | .mk node _ => node

def Outline.children : Outline → List Outline
  | .mk _ children => children

mutual
def Expr.outline : Expr → Outline
  | .ident name type => .mk (.expr (.ident name type)) []
  | .select target name type => .mk (.expr (.select target name type)) [target.outline]
  | .call receiver name arguments signature =>
    .mk (.expr (.call receiver name arguments signature))
      [.mk (.call ⟨receiver, name, arguments, signature⟩)
        (Expr.receiverOutline receiver ++ Expr.listOutline arguments)]
  | .literal value => .mk (.expr (.literal value)) []
  | .typeTest operand type => .mk (.expr (.typeTest operand type)) [operand.outline]
  | .cast type operand => .mk (.expr (.cast type operand)) [operand.outline]
  | .paren inner => .mk (.expr (.paren inner)) [inner.outline]
  | .conditional test yes no type =>
    .mk (.expr (.conditional test yes no type)) [test.outline, yes.outline, no.outline]
  | .construct type arguments =>
    .mk (.expr (.construct type arguments)) (Expr.listOutline arguments)
  | .binary left op right type =>
    .mk (.expr (.binary left op right type)) [left.outline, right.outline]

def Expr.receiverOutline : Option Expr → List Outline
  | none => []
  | some receiver => [receiver.outline]

def Expr.listOutline : List Expr → List Outline
  | [] => []
  | e :: es => e.outline :: Expr.listOutline es
end

def Call.outline (c : Call) : Outline :=
  .mk (.call c) (Expr.receiverOutline c.receiver ++ Expr.listOutline c.arguments)

def Statement.outline (s : Statement) : Outline :=
  .mk (.statement s) (s.expr?.toList.map Expr.outline)

def Method.outline (m : Method) : Outline :=
  .mk (.method m) (m.body.map Statement.outline)

def ClassDecl.outline (c : ClassDecl) : Outline :=
  .mk (.classDecl c) (c.methods.map Method.outline)

def Import.outline (i : Import) : Outline :=
  .mk (.importDecl i) []

def SourceFile.outline (f : SourceFile) : Outline :=
  .mk (.file f) (f.imports.map Import.outline ++ f.classes.map ClassDecl.outline)

inductive Signal
  | proceed
  | skipChildren
  | stop
  deriving DecidableEq

structure Visitor (σ : Type) where
  visit : Node → StateM σ Signal := fun _ => pure .proceed
  leave : Node → StateM σ Unit := fun _ => pure ()

mutual
/-- Visits the nodes in the order of the text. After a stop nothing is visited or left any more,
and the result is `false`. -/
def Outline.walk {σ : Type} (v : Visitor σ) : Outline → StateM σ Bool
  | .mk node children => do
    match ← v.visit node with
    | .stop => return false
    | .skipChildren =>
      v.leave node
      return true
    | .proceed =>
      if ← Outline.walkAll v children then
        v.leave node
        return true
      else return false

def Outline.walkAll {σ : Type} (v : Visitor σ) : List Outline → StateM σ Bool
  | [] => return true
  | o :: os => do
    if ← o.walk v then Outline.walkAll v os else return false
end

end GuardedCalls
