import GuardedCalls.Java.Page
import GuardedCalls.Java.SourceFile

/-!
Source text: one canonical spelling for every expression, statement and declaration.
-/

namespace GuardedCalls

def escapeIn (quote c : Char) : List Char :=
  if c = '\\' then ['\\', '\\']
  else if c = '\n' then ['\\', 'n']
  else if c = '\r' then ['\\', 'r']
  else if c = '\t' then ['\\', 't']
  else if c = quote then ['\\', c]
  else [c]

def escape (quote : Char) (s : List Char) : List Char :=
  s.flatMap (escapeIn quote)

def quote (mark : Char) (s : List Char) : String :=
  String.ofList (mark :: (escape mark s ++ [mark]))

def Literal.source : Literal → String
  | .string value => quote '"' value.toList
  | .int value => toString value.toInt
  | .bool value => if value then "true" else "false"
  | .char value => quote '\'' [value]
  | .null => "null"

mutual
def Expr.source : Expr → String
  | .ident name _ => name
  | .select target name _ => target.source ++ "." ++ name
  | .call receiver name arguments _ =>
    Expr.receiverSource receiver ++ name ++ "(" ++ Expr.listSource arguments ++ ")"
  | .literal value => value.source
  | .typeTest operand type => operand.source ++ " instanceof " ++ type.name
  | .cast type operand => "(" ++ type.name ++ ") " ++ operand.source
  | .paren inner => "(" ++ inner.source ++ ")"
  | .conditional test yes no _ => test.source ++ " ? " ++ yes.source ++ " : " ++ no.source
  | .construct type arguments => "new " ++ type.name ++ "(" ++ Expr.listSource arguments ++ ")"
  | .binary left op right _ => left.source ++ " " ++ op.token ++ " " ++ right.source

def Expr.receiverSource : Option Expr → String
  | none => ""
  | some receiver => receiver.source ++ "."

def Expr.listSource : List Expr → String
  | [] => ""
  | [e] => e.source
  | e :: f :: es => e.source ++ ", " ++ Expr.listSource (f :: es)
end

def Call.source (c : Call) : String :=
  c.toExpr.source

def Statement.inner : Statement → String
  | .localVariable type name none => type.name ++ " " ++ name
  | .localVariable type name (some init) => type.name ++ " " ++ name ++ " = " ++ init.source
  | .expression value => value.source
  | .returns none => "return"
  | .returns (some value) => "return " ++ value.source
  | .throws exception => "throw " ++ exception.source

def Statement.render (s : Statement) (p : Page) : Page :=
  (p.startLine.write (s.inner ++ ";")).endLine

def Parameter.source (p : Parameter) : String :=
  p.type.name ++ " " ++ p.name

def modifiersSource (modifiers : List String) : String :=
  String.join (modifiers.map (· ++ " "))

def Method.header (m : Method) : String :=
  modifiersSource m.modifiers ++ m.returnType.name ++ " " ++ m.name ++ "("
    ++ String.intercalate ", " (m.parameters.map Parameter.source) ++ ") \x7b"

def Method.render (m : Method) (p : Page) : Page :=
  let p := (p.startLine.write m.header).endLine.indent
  let p := m.body.foldl (fun p s => s.render p) p
  (p.dedent.startLine.write "\x7d").endLine

def ClassDecl.header (c : ClassDecl) : String :=
  modifiersSource c.modifiers ++ "class " ++ c.name ++ " \x7b"

def ClassDecl.render (c : ClassDecl) (p : Page) : Page :=
  let p := (p.startLine.write c.header).endLine.indent
  let p := c.methods.foldl (fun p m => m.render p.endLine) p
  (p.dedent.startLine.write "\x7d").endLine

def Statement.source (s : Statement) : String :=
  (s.render {}).text

def Method.source (m : Method) : String :=
  (m.render {}).text

def ClassDecl.source (c : ClassDecl) : String :=
  (c.render {}).text

def Import.source (i : Import) : String :=
  "import " ++ (if i.isStatic then "static " else "") ++ i.path
    ++ (if i.isWildcard then ".*" else "") ++ ";"

def SourceFile.source (f : SourceFile) : String :=
  (match f.package with
    | some package => "package " ++ package ++ ";\n\n"
    | none => "")
  ++ String.join (f.imports.map (·.source ++ "\n"))
  ++ (if f.imports.isEmpty then "" else "\n")
  ++ String.intercalate "\n" (f.classes.map ClassDecl.source)

end GuardedCalls
