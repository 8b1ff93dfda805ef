import GuardedCalls.Java.SourceFile

/-!
Rebuilding a source file from the inside out. Every expression of the file is offered to the hooks
once, after the expressions inside it; what a hook returns is not offered again.
-/

namespace GuardedCalls

structure Hooks (σ : Type) where
  enterFile : SourceFile → StateM σ Unit := fun _ => pure ()
  file : SourceFile → StateM σ SourceFile := pure
  enterClass : ClassDecl → StateM σ Unit := fun _ => pure ()
  classDecl : ClassDecl → StateM σ ClassDecl := pure
  enterMethod : Method → StateM σ Unit := fun _ => pure ()
  method : Method → StateM σ Method := pure
  call : Call → StateM σ Expr := fun c => pure c.toExpr
  expr : Expr → StateM σ Expr := pure

def Expr.inPlaceOf (old new : Expr) : Expr :=
  if !old.isLoose && new.isLoose then .paren new else new

variable {σ : Type}

mutual
def Expr.fold (h : Hooks σ) : Expr → StateM σ Expr
  | .ident name type => h.expr (.ident name type)
  | .select target name type => do
    let new ← target.fold h
    h.expr (.select (target.inPlaceOf new) name type)
  | .call receiver name arguments signature => do
    let receiver ← Expr.foldReceiver h receiver
    let arguments ← Expr.foldList h arguments
    let new ← h.call ⟨receiver, name, arguments, signature⟩
    h.expr new
  | .literal value => h.expr (.literal value)
  | .typeTest operand type => do
    let new ← operand.fold h
    h.expr (.typeTest (operand.inPlaceOf new) type)
  | .cast type operand => do
    let new ← operand.fold h
    h.expr (.cast type (operand.inPlaceOf new))
  | .paren inner => do
    let inner ← inner.fold h
    h.expr (.paren inner)
  | .conditional test yes no type => do
    let new ← test.fold h
    let yes ← yes.fold h
    let no ← no.fold h
    h.expr (.conditional (test.inPlaceOf new) yes no type)
  | .construct type arguments => do
    let arguments ← Expr.foldList h arguments
    h.expr (.construct type arguments)
  | .binary left op right type => do
    let newLeft ← left.fold h
    let newRight ← right.fold h
    h.expr (.binary (left.inPlaceOf newLeft) op (right.inPlaceOf newRight) type)

def Expr.foldReceiver (h : Hooks σ) : Option Expr → StateM σ (Option Expr)
  | none => return none
  | some receiver => do
    let new ← receiver.fold h
    return some (receiver.inPlaceOf new)

def Expr.foldList (h : Hooks σ) : List Expr → StateM σ (List Expr)
  | [] => return []
  | e :: es => do
    let e ← e.fold h
    let es ← Expr.foldList h es
    return e :: es
end

def Statement.fold (h : Hooks σ) : Statement → StateM σ Statement
  | .localVariable type name none => return .localVariable type name none
  | .localVariable type name (some init) => return .localVariable type name (some (← init.fold h))
  | .expression value => return .expression (← value.fold h)
  | .returns none => return .returns none
  | .returns (some value) => return .returns (some (← value.fold h))
  | .throws exception => return .throws (← exception.fold h)

def Statement.foldBlock (h : Hooks σ) (block : List Statement) : StateM σ (List Statement) :=
  block.mapM (·.fold h)

def Method.fold (h : Hooks σ) (m : Method) : StateM σ Method := do
  h.enterMethod m
  let body ← Statement.foldBlock h m.body
  h.method { m with body }

def ClassDecl.fold (h : Hooks σ) (c : ClassDecl) : StateM σ ClassDecl := do
  h.enterClass c
  let methods ← c.methods.mapM (·.fold h)
  h.classDecl { c with methods }

def SourceFile.fold (h : Hooks σ) (f : SourceFile) : StateM σ SourceFile := do
  h.enterFile f
  let classes ← f.classes.mapM (·.fold h)
  h.file { f with classes }

end GuardedCalls
