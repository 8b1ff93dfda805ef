import GuardedCalls.Java.Expr
import GuardedCalls.Pattern.TypePattern
import GuardedCalls.Text.Uppercase

/-!
Patterns for methods: an owner, a method name and a list of arguments, such as
`java.util..* get(int, ..)`.
-/

namespace GuardedCalls

open Text (pieces trim trimEnd cutFirst cutLast dropSuffix? isBlank isUppercase)
open Pattern (Cause Slot aligns)

structure ElementPattern where
  base : List Char
  pattern : TypePattern
  dimensions : Nat
  deriving DecidableEq

namespace ElementPattern

def dropBrackets : Nat → List Char → Option (List Char)
  | 0, name => some name
  | n + 1, name => dropBrackets n name >>= dropSuffix? ['[', ']']

/-- A plain capitalised name also stands for the type of that name in `java.lang`. -/
def isImplicit (p : ElementPattern) : Bool :=
  !p.base.contains '.' && !p.base.contains '*' && p.base.head?.any isUppercase

def matchesText (p : ElementPattern) (name : List Char) : Bool :=
  match dropBrackets p.dimensions name with
  | none => false
  | some element =>
    p.pattern.matchesText element
      || (p.isImplicit && element = "java.lang.".toList ++ p.base)

def stripBrackets : (bound : Nat) → List Char → List Char × Nat
  | 0, text => (text, 0)
  | bound + 1, text =>
    match dropSuffix? ['[', ']'] text with
    | none => (text, 0)
    | some rest =>
      let (base, dimensions) := stripBrackets bound (trimEnd rest)
      (base, dimensions + 1)

def parse (text : List Char) : Except Cause ElementPattern := do
  let (base, dimensions) := stripBrackets text.length text
  return { base, pattern := ← TypePattern.parse base, dimensions }

end ElementPattern

inductive ArgumentPattern
  | run
  | any
  | element (pattern : ElementPattern)
  deriving DecidableEq

namespace ArgumentPattern

def slot : ArgumentPattern → Slot (List Char)
  | .run => .run fun _ => true
  | .any => .one fun _ => true
  | .element pattern => .one pattern.matchesText

def parseItems : (afterRun : Bool) → List (List Char) → Except Cause (List ArgumentPattern)
  | _, [] => .ok []
  | afterRun, item :: rest =>
    let item := trim item
    if item.isEmpty then .error .emptyArgument
    else if item = ['.', '.'] then
      if afterRun then .error .consecutiveRuns
      else return .run :: (← parseItems true rest)
    else if item = ['*'] then return .any :: (← parseItems false rest)
    else do
      let pattern ← ElementPattern.parse item
      return .element pattern :: (← parseItems false rest)

def parseList (text : List Char) : Except Cause (List ArgumentPattern) :=
  let text := trim text
  if text.isEmpty then .ok [] else parseItems false (pieces ',' text)

end ArgumentPattern

/-- `method` is `none` for any name. -/
structure MethodPattern where
  text : String
  owner : TypePattern
  method : Option String
  arguments : List ArgumentPattern
  deriving DecidableEq

namespace MethodPattern

structure Error where
  pattern : String
  cause : Cause

def Error.message (e : Error) : String :=
  let about (what : String) := "method pattern '" ++ e.pattern ++ "' " ++ what
  match e.cause with
  | .empty => "method pattern is empty"
  | .missingMethodName => about "must name an owner type and a method"
  | .missingParentheses => about "has no argument list"
  | .unbalancedParentheses => about "has unbalanced parentheses"
  | .invalidMethodName name => about ("has invalid method name '" ++ name ++ "'")
  | .emptySegment => about "has an empty type segment"
  | .invalidSegment segment => about ("has invalid type segment '" ++ segment ++ "'")
  | .consecutiveRuns => about "has consecutive '..' wildcards"
  | .emptyArgument => about "has an empty argument"

def splitHead (head : List Char) : List Char × List Char :=
  match cutFirst (· = '#') head with
  | some (owner, method) => (trim owner, trim method)
  | none =>
    match cutLast isBlank head with
    | some (owner, method) => (trim owner, trim method)
    | none => ([], trim head)

def parseMethodName (name : List Char) : Except Cause (Option String) :=
  if name = ['*'] then .ok none
  else if isIdentifier name then .ok (some (String.ofList name))
  else .error (.invalidMethodName (String.ofList name))

def splitArguments (text : List Char) : Except Cause (List Char × List Char) :=
  let opens := text.count '('
  let closes := text.count ')'
  if opens = 0 ∧ closes = 0 then .error .missingParentheses
  else if opens ≠ 1 ∨ closes ≠ 1 ∨ text.getLast? ≠ some ')' then .error .unbalancedParentheses
  else
    match cutFirst (· = '(') text with
    | some (head, arguments) => .ok (head, arguments.dropLast)
    | none => .error .missingParentheses

def parseTrimmed (text : List Char) : Except Cause MethodPattern := do
  if text.isEmpty then .error .empty
  let (head, arguments) ← splitArguments text
  let (owner, method) := splitHead (trim head)
  if owner.isEmpty || method.isEmpty then .error .missingMethodName
  let method ← parseMethodName method
  let owner ← TypePattern.parse owner
  let arguments ← ArgumentPattern.parseList arguments
  return { text := String.ofList text, owner, method, arguments }

def parse (s : String) : Except Error MethodPattern :=
  let text := trim s.toList
  (parseTrimmed text).mapError fun cause => ⟨String.ofList text, cause⟩

def acceptsName (p : MethodPattern) (name : String) : Bool :=
  p.method.all (· = name)

def acceptsArguments (p : MethodPattern) (parameters : List ErasedType) : Bool :=
  aligns (p.arguments.map ArgumentPattern.slot) (parameters.map (·.name.toList))

def accepts (p : MethodPattern) (s : Signature) : Bool :=
  p.acceptsName s.name && p.owner.matchesText s.declaringType.toList
    && p.acceptsArguments s.parameters

def acceptsCall (p : MethodPattern) (c : Call) : Bool :=
  c.signature.any p.accepts

end MethodPattern

end GuardedCalls
