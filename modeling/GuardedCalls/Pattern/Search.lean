import GuardedCalls.Java.Outline
import GuardedCalls.Java.Scope
import GuardedCalls.Pattern.MethodPattern

/-!
The calls of a source file that a pattern accepts.
-/

namespace GuardedCalls

structure CallSite where
  scope : String
  call : Call
  deriving DecidableEq

namespace MethodPattern

structure Finding where
  scope : Scope := {}
  sites : List CallSite := []

def finder (p : MethodPattern) : Visitor Finding where
  visit
    | .classDecl c => do
      modify fun s => { s with scope := s.scope.enterClass c.name }
      return .proceed
    | .method m => do
      modify fun s => { s with scope := s.scope.enterMethod m.name }
      return .proceed
    | .call c => do
      if p.acceptsCall c then
        modify fun s => { s with sites := ⟨s.scope.name, c⟩ :: s.sites }
      return .proceed
    | _ => return .proceed
  leave
    | .classDecl _ => modify fun s => { s with scope := {} }
    | .method _ => modify fun s => { s with scope := s.scope.leaveMethod }
    | _ => return ()

def findCalls (p : MethodPattern) (f : SourceFile) : List CallSite :=
  (f.outline.walk p.finder {}).2.sites.reverse

def detector (p : MethodPattern) : Visitor Bool where
  visit
    | .call c => do
      if p.acceptsCall c then
        set true
        return .stop
      else return .proceed
    | _ => return .proceed

def occursIn (p : MethodPattern) (f : SourceFile) : Bool :=
  (f.outline.walk p.detector false).2

end MethodPattern

end GuardedCalls
