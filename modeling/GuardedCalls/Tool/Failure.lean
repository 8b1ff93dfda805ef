import GuardedCalls.Guard.Recipe
import GuardedCalls.Json.Basic
import GuardedCalls.Json.Fault

/-!
The ways in which a command fails.
-/

namespace GuardedCalls

inductive Failure
  | invalidArguments (message : String) (details : Option Json)
  | invalidOption (option message : String)
  | fileNotFound (path : String)
  | malformedInput (path message : String)
  | notApplied (message : String) (file : Option String)
  | internal (message : String)

namespace Failure

def message : Failure → String
  | .invalidArguments message _ => "invalid arguments: " ++ message
  | .invalidOption option message => "invalid recipe option '" ++ option ++ "': " ++ message
  | .fileNotFound path => "file not found: " ++ path
  | .malformedInput path message => "malformed input tree in " ++ path ++ ": " ++ message
  | .notApplied message _ => "apply error: " ++ message
  | .internal message => "internal error: " ++ message

def code : Failure → UInt8
  | .invalidArguments .. => 2
  | .invalidOption .. => 2
  | .fileNotFound _ => 3
  | .malformedInput .. => 2
  | .notApplied .. => 4
  | .internal _ => 10

def details? : Failure → Option Json
  | .invalidArguments _ details => details
  | .invalidOption option _ => some (.object [("option", .string option)])
  | .fileNotFound path => some (.object [("path", .string path)])
  | .malformedInput path _ => some (.object [("path", .string path)])
  | .notApplied _ file => file.map fun file => .object [("file", .string file)]
  | .internal _ => none

def ofRecipe (error : Recipe.Error) : Failure :=
  .invalidOption error.option.key error.message

def ofTransfer (reason : String) : Failure :=
  .internal ("IO error: " ++ reason)

def ofJson (reason : String) : Failure :=
  .internal ("JSON error: " ++ Json.placedMessage reason)

end Failure

end GuardedCalls
