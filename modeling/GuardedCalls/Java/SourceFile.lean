import GuardedCalls.Java.Expr

/-!
Statements, declarations and source files.
-/

namespace GuardedCalls

inductive Statement
  | localVariable (type : TypeRef) (name : String) (init : Option Expr)
  | expression (value : Expr)
  | returns (value : Option Expr)
  | throws (exception : Expr)
  deriving DecidableEq

structure Parameter where
  type : TypeRef
  name : String
  deriving DecidableEq

structure Method where
  modifiers : List String := []
  returnType : TypeRef
  name : String
  parameters : List Parameter := []
  body : List Statement := []
  deriving DecidableEq

structure ClassDecl where
  modifiers : List String := []
  name : String
  methods : List Method := []
  deriving DecidableEq

/-- `path` leaves out the star of an import on demand. -/
structure Import where
  path : String
  isStatic : Bool := false
  isWildcard : Bool := false
  deriving DecidableEq

structure SourceFile where
  package : Option String := none
  imports : List Import := []
  classes : List ClassDecl := []
  deriving DecidableEq

def Statement.expr? : Statement → Option Expr
  | .localVariable _ _ init => init
  | .expression value => some value
  | .returns value => value
  | .throws exception => some exception

end GuardedCalls
