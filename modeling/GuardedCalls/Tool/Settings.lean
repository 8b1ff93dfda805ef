import GuardedCalls.Json.Record
import GuardedCalls.Json.Shortest
import GuardedCalls.Json.ValueReader
import GuardedCalls.Text.Quoted
import GuardedCalls.Tool.Failure

/-!
The options of a recipe as a settings file or the command line gives them. A file is an object with
the options by name, or an array with the options in their order; the first fault in the order of
the text is the one that is reported.
-/

namespace GuardedCalls

open Json (Fault Reader skipBlank readKeyword readStringBody readNumber readItems nextItem nextName
  readColon readEnd)

structure Settings where
  methodPattern : Option String := none
  typeName : Option String := none
  classpath : Option (List String) := none
  deriving DecidableEq

namespace Settings

def overlay (lower upper : Settings) : Settings where
  methodPattern := upper.methodPattern <|> lower.methodPattern
  typeName := upper.typeName <|> lower.typeName
  classpath := upper.classpath <|> lower.classpath

def missing (option : RecipeOption) : Failure :=
  let flag := match option with
    | .methodPattern => "--method-pattern"
    | .typeName => "--type"
  .invalidArguments
    ("missing required option '" ++ option.key ++ "' (use " ++ flag ++ " or a config file)")
    (some (.object [("option", .string option.key)]))

/-- Missing options are noticed before malformed ones. -/
def build (s : Settings) : Except Failure Recipe :=
  match s.methodPattern, s.typeName with
  | none, _ => .error (missing .methodPattern)
  | some _, none => .error (missing .typeName)
  | some pattern, some typeName =>
    (Recipe.make pattern typeName ⟨s.classpath⟩).mapError Failure.ofRecipe

def describeNumber : Json.Number → String
  | .int i => "integer `" ++ toString i ++ "`"
  | .float x => "floating point `" ++ Json.floatText x ++ "`"

def unexpected {α : Type} (expected : String) : Reader α
  | [] => .error ⟨.endInValue, [], 1⟩
  | c :: text =>
    let found {β : Type} (read : Reader β) (describe : β → String) : Except Fault (α × List Char) :=
      do
        let (x, rest) ← read text
        .error ⟨.unexpected (describe x) expected, rest, 0⟩
    if c = 'n' then found (readKeyword () ['u', 'l', 'l']) fun _ => "null"
    else if c = 't' then found (readKeyword () ['r', 'u', 'e']) fun _ => "boolean `true`"
    else if c = 'f' then found (readKeyword () ['a', 'l', 's', 'e']) fun _ => "boolean `false`"
    else if c = '-' then found (readNumber true) describeNumber
    else if c.isDigit then do
      let (n, rest) ← readNumber false (c :: text)
      .error ⟨.unexpected (describeNumber n) expected, rest, 0⟩
    else if c = '"' then found readStringBody fun s => "string " ++ Text.quoted s
    else if c = '[' then .error ⟨.unexpected "sequence" expected, c :: text, 0⟩
    else if c = '\x7b' then .error ⟨.unexpected "map" expected, c :: text, 0⟩
    else .error ⟨.noValue, c :: text, 1⟩

def readString : Reader String := fun text =>
  match skipBlank text with
  | '"' :: rest => readStringBody rest
  | text => unexpected "a string" text

def readStrings : Reader (List String) := fun text =>
  match skipBlank text with
  | '[' :: rest => readItems readString rest
  | text => unexpected "a sequence" text

def readNullable {α : Type} (read : Reader α) : Reader (Option α) := fun text =>
  match skipBlank text with
  | 'n' :: rest => readKeyword none ['u', 'l', 'l'] rest
  | text => do
    let (x, rest) ← read text
    .ok (some x, rest)

inductive Key
  | methodPattern
  | typeName
  | classpath
  deriving DecidableEq

def Key.all : List Key :=
  [.methodPattern, .typeName, .classpath]

def Key.name : Key → String
  | .methodPattern => RecipeOption.key .methodPattern
  | .typeName => RecipeOption.key .typeName
  | .classpath => "classpath"

def readOption (s : Settings) : Key → Reader Settings
  | .methodPattern, text => do
    let (x, rest) ← readNullable readString text
    .ok ({ s with methodPattern := x }, rest)
  | .typeName, text => do
    let (x, rest) ← readNullable readString text
    .ok ({ s with typeName := x }, rest)
  | .classpath, text => do
    let (x, rest) ← readNullable readStrings text
    .ok ({ s with classpath := x }, rest)

def afterName (text : List Char) : List Char :=
  match skipBlank text with
  | '\x7d' :: rest => rest
  | text => text

def readMembersWithin (bound : List Char) (seen : List Key) (s : Settings) : Reader Settings :=
  fun text => do
  match bound, ← nextName seen.isEmpty text with
  | _, (none, rest) => .ok (s, rest)
  | [], (some _, rest) => .error ⟨.endInObject, rest, 1⟩
  | _ :: bound, (some name, rest) =>
    match Key.all.find? (·.name = name) with
    | none => .error ⟨.unknownMember name (Key.all.map Key.name), afterName rest, 0⟩
    | some key =>
      if key ∈ seen then .error ⟨.repeatedMember name, afterName rest, 0⟩
      else
        let rest ← readColon rest
        let (s, rest) ← readOption s key rest
        readMembersWithin bound (key :: seen) s rest

def closeArray (text : List Char) : Except Fault (List Char) :=
  match skipBlank text with
  | [] => .error ⟨.endInArray, [], 1⟩
  | ']' :: rest => .ok rest
  | ',' :: rest =>
    match skipBlank rest with
    | ']' :: rest => .error ⟨.trailingComma, ']' :: rest, 1⟩
    | rest => .error ⟨.trailingText, rest, 1⟩
  | rest => .error ⟨.trailingText, rest, 1⟩

def readListed (first : Bool) (s : Settings) : List Key → Reader Settings
  | [], text => do
    let rest ← closeArray text
    .ok (s, rest)
  | key :: keys, text => do
    match ← nextItem first text with
    | (false, rest) => .ok (s, rest)
    | (true, start) =>
      let (s, rest) ← readOption s key start
      readListed false s keys rest

def readWhole : Reader Settings := fun text =>
  match skipBlank text with
  | '\x7b' :: rest => readMembersWithin rest [] {} rest
  | '[' :: rest => readListed true {} Key.all rest
  | text => unexpected "struct RecipeConfig" text

def read (text : String) : Except Fault Settings := do
  let (s, rest) ← readWhole text.toList
  readEnd rest
  return s

def toJson (s : Settings) : Json :=
  .object (Json.optionalMember Key.methodPattern.name Json.string s.methodPattern
    ++ Json.optionalMember Key.typeName.name Json.string s.typeName
    ++ Json.optionalMember Key.classpath.name Json.strings s.classpath)

end Settings

end GuardedCalls
