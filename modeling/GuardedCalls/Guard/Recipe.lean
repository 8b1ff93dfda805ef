import GuardedCalls.Java.TypeName
import GuardedCalls.Pattern.MethodPattern

/-!
A recipe: the calls to guard and the type to guard them with.
-/

namespace GuardedCalls

inductive RecipeOption
  | methodPattern
  | typeName
  deriving DecidableEq

def RecipeOption.key : RecipeOption → String
  | .methodPattern => "methodPattern"
  | .typeName => "fullyQualifiedTypeName"

structure Recipe where
  pattern : MethodPattern
  target : TypeName
  classpath : Classpath := {}

namespace Recipe

def name : String := "replace-method-call-with-ternary"

def displayName : String := "Replace method call with ternary"

def description : String :=
  "Replace calls declared on a type with an instanceof check, a cast, "
    ++ "and a \"not provided\" fallback."

inductive Error
  | pattern (error : MethodPattern.Error)
  | typeName (error : TypeName.Error)

def Error.option : Error → RecipeOption
  | .pattern _ => .methodPattern
  | .typeName _ => .typeName

def Error.message : Error → String
  | .pattern error => error.message
  | .typeName error => error.message

def make (pattern typeName : String) (classpath : Classpath) : Except Error Recipe := do
  let pattern ← (MethodPattern.parse pattern).mapError .pattern
  let target ← (TypeName.parse typeName).mapError .typeName
  return { pattern, target, classpath }

end Recipe

end GuardedCalls
