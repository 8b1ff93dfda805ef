import GuardedCalls.Json.Basic
import GuardedCalls.Json.Shortest

/-!
The two written forms of a JSON value: on one line without blanks, and with one member or item a
line, indented by two spaces for each level.
-/

namespace GuardedCalls.Json

def hexDigit (n : Nat) : Char :=
  if n < 10 then Char.ofNat (0x30 + n) else Char.ofNat (0x57 + n)

def escapeChar (c : Char) : List Char :=
  if c = '"' then ['\\', '"']
  else if c = '\\' then ['\\', '\\']
  else if c = '\x08' then ['\\', 'b']
  else if c = '\x0c' then ['\\', 'f']
  else if c = '\n' then ['\\', 'n']
  else if c = '\r' then ['\\', 'r']
  else if c = '\t' then ['\\', 't']
  else if c.toNat < 0x20 then
    ['\\', 'u', '0', '0', hexDigit (c.toNat / 16), hexDigit (c.toNat % 16)]
  else [c]

def stringText (s : String) : String :=
  String.ofList ('"' :: (s.toList.flatMap escapeChar ++ ['"']))

def Number.text : Number → String
  | .int i => toString i
  | .float x => floatText x

def boolText (b : Bool) : String :=
  if b then "true" else "false"

mutual
def compact : Json → String
  | .null => "null"
  | .bool b => boolText b
  | .number n => n.text
  | .string s => stringText s
  | .array [] => "[]"
  | .array (j :: js) => "[" ++ j.compact ++ compactItems js ++ "]"
  | .object [] => "\x7b\x7d"
  | .object ((name, j) :: ms) =>
    "\x7b" ++ stringText name ++ ":" ++ j.compact ++ compactMembers ms ++ "\x7d"

def compactItems : List Json → String
  | [] => ""
  | j :: js => "," ++ j.compact ++ compactItems js

def compactMembers : List (String × Json) → String
  | [] => ""
  | (name, j) :: ms => "," ++ stringText name ++ ":" ++ j.compact ++ compactMembers ms
end

def lineStart (level : Nat) : String :=
  String.ofList ('\n' :: List.replicate (2 * level) ' ')

mutual
def prettyAt (level : Nat) : Json → String
  | .null => "null"
  | .bool b => boolText b
  | .number n => n.text
  | .string s => stringText s
  | .array [] => "[]"
  | .array (j :: js) =>
    "[" ++ lineStart (level + 1) ++ prettyAt (level + 1) j ++ prettyItems (level + 1) js
      ++ lineStart level ++ "]"
  | .object [] => "\x7b\x7d"
  | .object ((name, j) :: ms) =>
    "\x7b" ++ lineStart (level + 1) ++ stringText name ++ ": " ++ prettyAt (level + 1) j
      ++ prettyMembers (level + 1) ms ++ lineStart level ++ "\x7d"

def prettyItems (level : Nat) : List Json → String
  | [] => ""
  | j :: js => "," ++ lineStart level ++ prettyAt level j ++ prettyItems level js

def prettyMembers (level : Nat) : List (String × Json) → String
  | [] => ""
  | (name, j) :: ms =>
    "," ++ lineStart level ++ stringText name ++ ": " ++ prettyAt level j ++ prettyMembers level ms
end

def pretty (j : Json) : String :=
  j.prettyAt 0

end GuardedCalls.Json
