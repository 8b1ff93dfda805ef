import GuardedCalls.Java.SourceFile
import GuardedCalls.Json.Basic
import GuardedCalls.Json.Record

/-!
The JSON form of types, expressions and source files. What is unknown or absent is left out, except
that empty lists and false flags are written.
-/

namespace GuardedCalls

open Json (optionalMember)

def Primitive.toJson (p : Primitive) : Json :=
  .string p.keyword

def ErasedType.toJson : ErasedType → Json
  | .classType name => .object [("kind", .string "class"), ("fqn", .string name)]
  | .primitive p => .object [("kind", .string "primitive"), ("primitive", p.toJson)]
  | .array element => .object [("kind", .string "array"), ("element", element.toJson)]
  | .unknown => .object [("kind", .string "unknown")]

def TypeRef.toJson (t : TypeRef) : Json :=
  .object (("name", .string t.name) :: optionalMember "ty" ErasedType.toJson t.type)

def Signature.toJson (s : Signature) : Json :=
  .object [("declaring_type", .string s.declaringType), ("name", .string s.name),
    ("parameter_types", .array (s.parameters.map ErasedType.toJson)),
    ("return_type", s.result.toJson)]

def Literal.toJson : Literal → Json
  | .string value => .object [("string", .string value)]
  | .int value => .object [("int", .int value.toInt)]
  | .bool value => .object [("bool", .bool value)]
  | .char value => .object [("char", .string (String.ofList [value]))]
  | .null => .string "null"

def Operator.name : Operator → String
  | .add => "add"
  | .sub => "sub"
  | .equal => "equal"
  | .notEqual => "not_equal"
  | .and => "and"
  | .or => "or"

def Operator.toJson (op : Operator) : Json :=
  .string op.name

mutual
def Expr.toJson : Expr → Json
  | .ident name type =>
    .object [("identifier",
      .object (("name", .string name) :: optionalMember "ty" ErasedType.toJson type))]
  | .select target name type =>
    .object [("field_access",
      .object (("target", target.toJson) :: ("name", .string name)
        :: optionalMember "ty" ErasedType.toJson type))]
  | .call receiver name arguments signature =>
    .object [("method_invocation",
      .object (Expr.receiverMember receiver ++ ("name", .string name)
        :: ("arguments", .array (Expr.listToJson arguments))
        :: optionalMember "method_type" Signature.toJson signature))]
  | .literal value => .object [("literal", value.toJson)]
  | .typeTest operand type =>
    .object [("instance_of", .object [("expression", operand.toJson), ("class", type.toJson)])]
  | .cast type operand =>
    .object [("type_cast", .object [("class", type.toJson), ("expression", operand.toJson)])]
  | .paren inner => .object [("parenthesized", .object [("expression", inner.toJson)])]
  | .conditional test yes no type =>
    .object [("ternary",
      .object (("condition", test.toJson) :: ("then_part", yes.toJson) :: ("else_part", no.toJson)
        :: optionalMember "ty" ErasedType.toJson type))]
  | .construct type arguments =>
    .object [("new_class",
      .object [("class", type.toJson), ("arguments", .array (Expr.listToJson arguments))])]
  | .binary left op right type =>
    .object [("binary",
      .object (("left", left.toJson) :: ("op", op.toJson) :: ("right", right.toJson)
        :: optionalMember "ty" ErasedType.toJson type))]

def Expr.receiverMember : Option Expr → List (String × Json)
  | none => []
  | some receiver => [("receiver", receiver.toJson)]

def Expr.listToJson : List Expr → List Json
  | [] => []
  | e :: es => e.toJson :: Expr.listToJson es
end

def Call.toJson (c : Call) : Json :=
  .object (optionalMember "receiver" Expr.toJson c.receiver ++ ("name", .string c.name)
    :: ("arguments", .array (c.arguments.map Expr.toJson))
    :: optionalMember "method_type" Signature.toJson c.signature)

def Statement.toJson : Statement → Json
  | .localVariable type name init =>
    .object [("local_var", .object (("ty", type.toJson) :: ("name", .string name)
      :: optionalMember "init" Expr.toJson init))]
  | .expression value => .object [("expr", .object [("expression", value.toJson)])]
  | .returns value => .object [("return", .object (optionalMember "value" Expr.toJson value))]
  | .throws exception => .object [("throw", .object [("exception", exception.toJson)])]

def Parameter.toJson (p : Parameter) : Json :=
  .object [("ty", p.type.toJson), ("name", .string p.name)]

def Method.toJson (m : Method) : Json :=
  .object [("modifiers", .strings m.modifiers), ("return_type", m.returnType.toJson),
    ("name", .string m.name), ("params", .array (m.parameters.map Parameter.toJson)),
    ("body", .array (m.body.map Statement.toJson))]

def ClassDecl.toJson (c : ClassDecl) : Json :=
  .object [("modifiers", .strings c.modifiers), ("name", .string c.name),
    ("methods", .array (c.methods.map Method.toJson))]

def Import.toJson (i : Import) : Json :=
  .object [("path", .string i.path), ("is_static", .bool i.isStatic),
    ("is_wildcard", .bool i.isWildcard)]

def SourceFile.toJson (f : SourceFile) : Json :=
  .object (optionalMember "package" Json.string f.package
    ++ [("imports", .array (f.imports.map Import.toJson)),
      ("types", .array (f.classes.map ClassDecl.toJson))])

end GuardedCalls
