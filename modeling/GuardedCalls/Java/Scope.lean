/-!
Where in a source file a walk or a fold is.
-/

namespace GuardedCalls

structure Scope where
  className : Option String := none
  methodName : Option String := none

namespace Scope

def enterClass (_ : Scope) (name : String) : Scope :=
  ⟨some name, none⟩

def enterMethod (s : Scope) (name : String) : Scope :=
  { s with methodName := some name }

def leaveMethod (s : Scope) : Scope :=
  { s with methodName := none }

def name : Scope → String
  | ⟨some c, some m⟩ => c ++ "." ++ m
  | ⟨some c, none⟩ => c
  | ⟨none, some m⟩ => m
  | ⟨none, none⟩ => "<unit>"

end Scope

end GuardedCalls
