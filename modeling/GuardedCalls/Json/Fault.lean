import GuardedCalls.Text.Pieces

/-!
What can be wrong with a document, and where.
-/

namespace GuardedCalls.Json

inductive Cause
  | endInValue
  | endInArray
  | endInObject
  | endInString
  | noColon
  | noItemEnd
  | noMemberEnd
  | badKeyword
  | noValue
  | badEscape
  | badNumber
  | hugeNumber
  | rawControl
  | noName
  | loneSurrogate
  | halfSurrogate
  | trailingComma
  | trailingText
  | tooDeep
  | unexpected (found expected : String)
  | unknownMember (name : String) (known : List String)
  | repeatedMember (name : String)

def Cause.isSyntax : Cause → Bool
  | .unexpected .. => false
  | .unknownMember .. => false
  | .repeatedMember .. => false
  | _ => true

def Cause.message : Cause → String
  | .endInValue => "EOF while parsing a value"
  | .endInArray => "EOF while parsing a list"
  | .endInObject => "EOF while parsing an object"
  | .endInString => "EOF while parsing a string"
  | .noColon => "expected `:`"
  | .noItemEnd => "expected `,` or `]`"
  | .noMemberEnd => "expected `,` or `\x7d`"
  | .badKeyword => "expected ident"
  | .noValue => "expected value"
  | .badEscape => "invalid escape"
  | .badNumber => "invalid number"
  | .hugeNumber => "number out of range"
  | .rawControl => "control character (\\u0000-\\u001F) found while parsing a string"
  | .noName => "key must be a string"
  | .loneSurrogate => "lone leading surrogate in hex escape"
  | .halfSurrogate => "unexpected end of hex escape"
  | .trailingComma => "trailing comma"
  | .trailingText => "trailing characters"
  | .tooDeep => "recursion limit exceeded"
  | .unexpected found expected => "invalid type: " ++ found ++ ", expected " ++ expected
  | .unknownMember name known =>
    "unknown field `" ++ name ++ "`, expected one of "
      ++ String.intercalate ", " (known.map fun k => "`" ++ k ++ "`")
  | .repeatedMember name => "duplicate field `" ++ name ++ "`"

/-- A cause and its place: so many bytes behind the beginning of a text that ends the document. -/
structure Fault where
  cause : Cause
  rest : List Char
  ahead : Nat

structure Place where
  line : Nat
  column : Nat

def Place.next (p : Place) (c : Char) : Place :=
  if c = '\n' then ⟨p.line + 1, 0⟩ else ⟨p.line, p.column + c.utf8Size⟩

def Place.advance (p : Place) : (bytes : Nat) → List Char → Place
  | _, [] => p
  | bytes, c :: text =>
    if c.utf8Size ≤ bytes then (p.next c).advance (bytes - c.utf8Size) text
    else ⟨p.line, p.column + bytes⟩

def Fault.place (fault : Fault) (text : List Char) : Place :=
  let start := (text.take (text.length - fault.rest.length)).foldl Place.next ⟨1, 0⟩
  start.advance fault.ahead fault.rest

def Place.ending (p : Place) : String :=
  if p.line = 0 then "" else " at line " ++ toString p.line ++ " column " ++ toString p.column

def Fault.message (fault : Fault) (text : String) : String :=
  fault.cause.message ++ (fault.place text.toList).ending

def wordOfDigits? (digits : List Char) : Option Nat :=
  let n := Nat.ofDigitChars 10 digits 0
  if digits.isEmpty || !digits.all Char.isDigit || 0x10000000000000000 ≤ n then none else some n

def cutPlace? (message : List Char) : Option (List Char × Place) := do
  let (before, after) ← Text.cutLastWord " at line ".toList message
  let line ← wordOfDigits? (after.takeWhile Char.isDigit)
  let column ← Text.dropStart? " column ".toList (after.dropWhile Char.isDigit)
  return (before, ⟨line, ← wordOfDigits? column⟩)

def placedMessage (message : String) : String :=
  match cutPlace? message.toList with
  | some (before, place) => String.ofList before ++ place.ending
  | none => message

end GuardedCalls.Json
