/-!
Resolved types, which are erased, and types as a source file spells them.
-/

namespace GuardedCalls

inductive Primitive
  | boolean
  | byte
  | char
  | short
  | int
  | long
  | float
  | double
  | void
  deriving DecidableEq

def Primitive.all : List Primitive :=
  [.boolean, .byte, .char, .short, .int, .long, .float, .double, .void]

def Primitive.keyword : Primitive → String
  | .boolean => "boolean"
  | .byte => "byte"
  | .char => "char"
  | .short => "short"
  | .int => "int"
  | .long => "long"
  | .float => "float"
  | .double => "double"
  | .void => "void"

inductive ErasedType
  | classType (name : String)
  | primitive (primitive : Primitive)
  | array (element : ErasedType)
  | unknown
  deriving DecidableEq

namespace ErasedType

def string : ErasedType :=
  .classType "java.lang.String"

def className? : ErasedType → Option String
  | .classType name => some name
  | _ => none

def name : ErasedType → String
  | .classType name => name
  | .primitive p => p.keyword
  | .array element => element.name ++ "[]"
  | .unknown => "?"

end ErasedType

structure Signature where
  declaringType : String
  name : String
  parameters : List ErasedType := []
  result : ErasedType
  deriving DecidableEq

structure TypeRef where
  name : String
  type : Option ErasedType := none
  deriving DecidableEq

end GuardedCalls
