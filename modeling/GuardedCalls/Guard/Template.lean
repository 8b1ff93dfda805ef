import GuardedCalls.Java.Expr
import GuardedCalls.Java.TypeName

/-!
The guarded form of a call: a type test of one expression, the call on a cast of another, and a
fixed text where the test fails.
-/

namespace GuardedCalls

structure GuardTemplate where
  target : TypeName
  call : Call
  qualified : Bool := false

namespace GuardTemplate

inductive Error
  | unresolvedType (name : String)
  | slotArity (actual : Nat)

def Error.message : Error → String
  | .unresolvedType name => "type '" ++ name ++ "' cannot be resolved on the classpath"
  | .slotArity actual => "template expects 2 bindings, got " ++ toString actual

def fallback : String := "not provided"

def typeText (t : GuardTemplate) : String :=
  if t.qualified then t.target.text else t.target.simpleName

def typeRef (t : GuardTemplate) : TypeRef :=
  ⟨t.typeText, some (.classType t.target.text)⟩

def build (t : GuardTemplate) (tested casted : Expr) : Expr :=
  .conditional (.typeTest tested.asOperand t.typeRef)
    (.call (some (.paren (.cast t.typeRef casted.asOperand))) t.call.name t.call.arguments
      t.call.signature)
    (.string fallback) (some .string)

def instantiate (t : GuardTemplate) : List Expr → Except Error Expr
  | [tested, casted] => .ok (t.build tested casted)
  | bindings => .error (.slotArity bindings.length)

def resolve (t : GuardTemplate) (classpath : Classpath) : Except Error Unit :=
  if classpath.contains t.target then .ok () else .error (.unresolvedType t.target.text)

def apply (t : GuardTemplate) (receiver : Expr) (classpath : Classpath) : Except Error Expr := do
  t.resolve classpath
  t.instantiate [receiver, receiver]

end GuardTemplate

end GuardedCalls
