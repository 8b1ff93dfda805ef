import GuardedCalls.Java.SourceFile
import GuardedCalls.Json.Record

/-!
Reading types, expressions and source files back from JSON.
-/

namespace GuardedCalls

open Json (record? choice? nameChoice? string? bool? list?)

/-- Where a JSON value stands: handed over by itself, or inside a document. A document is more
lenient: the body of a statement may be an array, and the kind of a type may be its number. -/
inductive Context
  | value
  | document
  deriving DecidableEq

def Primitive.ofName? (name : String) : Option Primitive :=
  Primitive.all.find? (·.keyword = name)

def Primitive.ofJson? (j : Json) : Option Primitive :=
  j.nameChoice? >>= Primitive.ofName?

def Operator.ofName? : String → Option Operator
  | "add" => some .add
  | "sub" => some .sub
  | "equal" => some .equal
  | "not_equal" => some .notEqual
  | "and" => some .and
  | "or" => some .or
  | _ => none

def Operator.ofJson? (j : Json) : Option Operator :=
  j.nameChoice? >>= Operator.ofName?

inductive ErasedType.Kind
  | classType
  | primitive
  | array
  | unknown

def ErasedType.Kind.ofJson? (context : Context) : Json → Option ErasedType.Kind
  | .string "class" => some .classType
  | .string "primitive" => some .primitive
  | .string "array" => some .array
  | .string "unknown" => some .unknown
  | .number (.int i) =>
    if context = .document then
      match i with
      | 0 => some .classType
      | 1 => some .primitive
      | 2 => some .array
      | 3 => some .unknown
      | _ => none
    else none
  | _ => none

def ErasedType.tagged? (context : Context) : Json → Option (ErasedType.Kind × Json.Record)
  | .object members => do
    let kind ← (Json.Record.named members).required 0 "kind" (ErasedType.Kind.ofJson? context)
    return (kind, .named members)
  | .array (tag :: fields) => do
    let kind ← ErasedType.Kind.ofJson? context tag
    return (kind, .listed fields)
  | _ => none

def Json.Record.hasArity (arity : Nat) : Json.Record → Bool
  | .named _ => true
  | .listed items => items.length = arity

def Primitive.ofFieldJson? : Json → Option Primitive
  | .object [(name, .object [])] => Primitive.ofName? name
  | j => Primitive.ofJson? j

def ErasedType.ofJsonWithin? : (bound : Nat) → Context → Json → Option ErasedType
  | 0, _, _ => none
  | bound + 1, context, j => do
    let (kind, fields) ← ErasedType.tagged? context j
    match kind with
    | .classType =>
      if fields.hasArity 1 then return .classType (← fields.required 0 "fqn" string?) else none
    | .primitive =>
      if fields.hasArity 1 then
        return .primitive (← fields.required 0 "primitive" Primitive.ofFieldJson?)
      else none
    | .array =>
      if fields.hasArity 1 then
        return .array (← fields.required 0 "element" (ErasedType.ofJsonWithin? bound .document))
      else none
    | .unknown => if fields.hasArity 0 then some .unknown else none

def ErasedType.ofJson? (context : Context) (j : Json) : Option ErasedType :=
  ErasedType.ofJsonWithin? (j.depth + 1) context j

def TypeRef.ofJson? (context : Context) (j : Json) : Option TypeRef := do
  let r ← j.record? 2
  return {
    name := ← r.required 0 "name" string?
    type := ← r.optional 1 "ty" (ErasedType.ofJson? context) }

def Signature.ofJson? (context : Context) (j : Json) : Option Signature := do
  let r ← j.record? 4
  return {
    declaringType := ← r.required 0 "declaring_type" string?
    name := ← r.required 1 "name" string?
    parameters := ← r.withDefault 2 "parameter_types" [] (list? (ErasedType.ofJson? context))
    result := ← r.required 3 "return_type" (ErasedType.ofJson? context) }

def int64? (j : Json) : Option Int64 := do
  let i ← j.int?
  if -0x8000000000000000 ≤ i ∧ i < 0x8000000000000000 then some (Int64.ofInt i) else none

def char? : Json → Option Char
  | .string s =>
    match s.toList with
    | [c] => some c
    | _ => none
  | _ => none

def Literal.ofJson? (j : Json) : Option Literal :=
  match j.nameChoice? with
  | some "null" => some .null
  | _ => do
    let (name, value) ← j.choice?
    match name with
    | "string" => return .string (← value.string?)
    | "int" => return .int (← int64? value)
    | "bool" => return .bool (← value.bool?)
    | "char" => return .char (← char? value)
    | _ => none

def Call.ofJsonWith? (context : Context) (expr : Json → Option Expr) (j : Json) :
    Option Call := do
  let r ← j.record? 4
  return {
    receiver := ← r.optional 0 "receiver" expr
    name := ← r.required 1 "name" string?
    arguments := ← r.withDefault 2 "arguments" [] (list? expr)
    signature := ← r.optional 3 "method_type" (Signature.ofJson? context) }

def Expr.ofChoice? (context : Context) (expr : Json → Option Expr) (name : String) (j : Json) :
    Option Expr :=
  let type := ErasedType.ofJson? context
  let typeRef := TypeRef.ofJson? context
  match name with
  | "identifier" => do
    let r ← j.record? 2
    return .ident (← r.required 0 "name" string?) (← r.optional 1 "ty" type)
  | "field_access" => do
    let r ← j.record? 3
    return .select (← r.required 0 "target" expr) (← r.required 1 "name" string?)
      (← r.optional 2 "ty" type)
  | "method_invocation" => do
    return (← Call.ofJsonWith? context expr j).toExpr
  | "literal" => do
    return .literal (← Literal.ofJson? j)
  | "instance_of" => do
    let r ← j.record? 2
    return .typeTest (← r.required 0 "expression" expr) (← r.required 1 "class" typeRef)
  | "type_cast" => do
    let r ← j.record? 2
    return .cast (← r.required 0 "class" typeRef) (← r.required 1 "expression" expr)
  | "parenthesized" => do
    let r ← j.record? 1
    return .paren (← r.required 0 "expression" expr)
  | "ternary" => do
    let r ← j.record? 4
    return .conditional (← r.required 0 "condition" expr) (← r.required 1 "then_part" expr)
      (← r.required 2 "else_part" expr) (← r.optional 3 "ty" type)
  | "new_class" => do
    let r ← j.record? 2
    return .construct (← r.required 0 "class" typeRef)
      (← r.withDefault 1 "arguments" [] (list? expr))
  | "binary" => do
    let r ← j.record? 4
    return .binary (← r.required 0 "left" expr) (← r.required 1 "op" Operator.ofJson?)
      (← r.required 2 "right" expr) (← r.optional 3 "ty" type)
  | _ => none

def Expr.ofJsonWithin? : (bound : Nat) → Context → Json → Option Expr
  | 0, _, _ => none
  | bound + 1, context, j => do
    let (name, value) ← j.choice?
    Expr.ofChoice? context (Expr.ofJsonWithin? bound context) name value

def Expr.ofJson? (context : Context) (j : Json) : Option Expr :=
  Expr.ofJsonWithin? (j.depth + 1) context j

def Call.ofJson? (context : Context) (j : Json) : Option Call :=
  Call.ofJsonWith? context (Expr.ofJson? context) j

def Statement.body? (context : Context) (arity : Nat) : Json → Option Json.Record
  | .object members => some (.named members)
  | j => if context = .document then j.record? arity else none

def Statement.ofJson? (context : Context) (j : Json) : Option Statement := do
  let expr := Expr.ofJson? context
  let (name, value) ← j.choice?
  match name with
  | "local_var" =>
    let r ← Statement.body? context 3 value
    return .localVariable (← r.required 0 "ty" (TypeRef.ofJson? context))
      (← r.required 1 "name" string?) (← r.optional 2 "init" expr)
  | "expr" =>
    let r ← Statement.body? context 1 value
    return .expression (← r.required 0 "expression" expr)
  | "return" =>
    let r ← Statement.body? context 1 value
    return .returns (← r.optional 0 "value" expr)
  | "throw" =>
    let r ← Statement.body? context 1 value
    return .throws (← r.required 0 "exception" expr)
  | _ => none

def Parameter.ofJson? (context : Context) (j : Json) : Option Parameter := do
  let r ← j.record? 2
  return {
    type := ← r.required 0 "ty" (TypeRef.ofJson? context)
    name := ← r.required 1 "name" string? }

def Method.ofJson? (context : Context) (j : Json) : Option Method := do
  let r ← j.record? 5
  return {
    modifiers := ← r.withDefault 0 "modifiers" [] (list? string?)
    returnType := ← r.required 1 "return_type" (TypeRef.ofJson? context)
    name := ← r.required 2 "name" string?
    parameters := ← r.withDefault 3 "params" [] (list? (Parameter.ofJson? context))
    body := ← r.withDefault 4 "body" [] (list? (Statement.ofJson? context)) }

def ClassDecl.ofJson? (context : Context) (j : Json) : Option ClassDecl := do
  let r ← j.record? 3
  return {
    modifiers := ← r.withDefault 0 "modifiers" [] (list? string?)
    name := ← r.required 1 "name" string?
    methods := ← r.withDefault 2 "methods" [] (list? (Method.ofJson? context)) }

def Import.ofJson? (j : Json) : Option Import := do
  let r ← j.record? 3
  return {
    path := ← r.required 0 "path" string?
    isStatic := ← r.withDefault 1 "is_static" false bool?
    isWildcard := ← r.withDefault 2 "is_wildcard" false bool? }

def SourceFile.ofJson? (context : Context) (j : Json) : Option SourceFile := do
  let r ← j.record? 3
  return {
    package := ← r.optional 0 "package" string?
    imports := ← r.withDefault 1 "imports" [] (list? Import.ofJson?)
    classes := ← r.withDefault 2 "types" [] (list? (ClassDecl.ofJson? context)) }

end GuardedCalls
