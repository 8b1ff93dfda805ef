import GuardedCalls.Text.Alphabetic
import GuardedCalls.Text.Blank
import GuardedCalls.Text.Numeric
import GuardedCalls.Text.Pieces

/-!
Identifiers and full names of types.
-/

namespace GuardedCalls

open Text (pieces trim cutLast isAlphabetic isNumeric)

def isIdentifierStart (c : Char) : Bool :=
  isAlphabetic c || c = '_' || c = '$'

def isIdentifierPart (c : Char) : Bool :=
  isAlphabetic c || isNumeric c || c = '_' || c = '$'

def isIdentifier : List Char → Bool
  | [] => false
  | c :: s => isIdentifierStart c && s.all isIdentifierPart

structure TypeName where
  text : String
  segments_isIdentifier : ∀ segment ∈ pieces '.' text.toList, isIdentifier segment = true

namespace TypeName

inductive Error
  | empty
  | emptySegment (name : String)
  | invalidSegment (name segment : String)

def Error.message : Error → String
  | .empty => "type name is empty"
  | .emptySegment name => "type name '" ++ name ++ "' has an empty segment"
  | .invalidSegment name segment =>
    "type name '" ++ name ++ "' has invalid segment '" ++ segment ++ "'"

def parse (s : String) : Except Error TypeName :=
  let text := trim s.toList
  if text.isEmpty then .error .empty
  else
    match h : (pieces '.' text).find? fun segment => !isIdentifier segment with
    | some [] => .error (.emptySegment (String.ofList text))
    | some segment => .error (.invalidSegment (String.ofList text) (String.ofList segment))
    | none => .ok ⟨String.ofList text, by simpa using h⟩

def simpleName (n : TypeName) : String :=
  match cutLast (· = '.') n.text.toList with
  | some (_, simple) => String.ofList simple
  | none => n.text

def package? (n : TypeName) : Option String :=
  (cutLast (· = '.') n.text.toList).map fun (package, _) => String.ofList package

end TypeName

/-- The types that generated code may name; `none` puts no limit. -/
structure Classpath where
  types : Option (List String) := none

def Classpath.contains (c : Classpath) (n : TypeName) : Bool :=
  match c.types with
  | none => true
  | some types => types.contains n.text

end GuardedCalls
