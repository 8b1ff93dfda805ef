import GuardedCalls.Tool.Commands

/-!
The arguments of the command line. Words are read from left to right on three levels: the program,
a command, and for `run` the recipe. An option belongs to the level that it stands on; the general
options belong to every level. The first word that is wrong decides, and so does a word that asks
for help or the version; but the value of an option that stands apart from it is looked at only
when the next word of the same level is taken, or after the levels below.
-/

namespace GuardedCalls

inductive Halt
  | usage
  | version
  | help
  deriving DecidableEq

inductive Arity
  | flag
  | single (allowed : String → Bool)
  | repeated
  | halting (halt : Halt)

structure OptionSpec where
  name : String
  arity : Arity

inductive LogLevel
  | trace
  | debug
  | info
  | warn
  | error
  deriving DecidableEq

def LogLevel.ofName? : String → Option LogLevel
  | "trace" => some .trace
  | "debug" => some .debug
  | "info" => some .info
  | "warn" => some .warn
  | "error" => some .error
  | _ => none

def LogLevel.admits : LogLevel → Level → Bool
  | .trace, _ => true
  | .debug, _ => true
  | .info, level => level ≠ .debug
  | .warn, level => level = .warn
  | .error, _ => false

def OutputFormat.ofName? : String → Option OutputFormat
  | "json" => some .json
  | "source" => some .source
  | _ => none

namespace OptionSpec

def general : List OptionSpec :=
  [⟨"log-level", .single fun s => (LogLevel.ofName? s).isSome⟩, ⟨"log-json", .flag⟩,
    ⟨"compact", .flag⟩, ⟨"help", .halting .help⟩]

def program : List OptionSpec :=
  ⟨"version", .halting .version⟩ :: general

def search : List OptionSpec :=
  ⟨"method-pattern", .single fun _ => true⟩ :: general

def recipe : List OptionSpec :=
  [⟨"method-pattern", .single fun _ => true⟩, ⟨"type", .single fun _ => true⟩,
    ⟨"config", .single (!·.isEmpty)⟩, ⟨"classpath", .repeated⟩,
    ⟨"format", .single fun s => (OutputFormat.ofName? s).isSome⟩] ++ general

end OptionSpec

/-- The options of one level in their order, the last one apart while its value is still to be
looked at, and the one word that is no option. -/
structure Words where
  options : List (String × String) := []
  pending : Option (OptionSpec × String) := none
  operand : Option String := none

namespace Words

def has (w : Words) (name : String) : Bool :=
  w.options.any (·.1 = name)

def get? (w : Words) (name : String) : Option String :=
  (w.options.find? (·.1 = name)).map (·.2)

def getAll (w : Words) (name : String) : List String :=
  (w.options.filter (·.1 = name)).map (·.2)

def accepts (w : Words) (spec : OptionSpec) (value : String) : Bool :=
  match spec.arity with
  | .single allowed => allowed value && !w.has spec.name
  | .repeated => true
  | _ => !w.has spec.name

def settle (w : Words) : Except Halt Words :=
  match w.pending with
  | none => .ok w
  | some (spec, value) =>
    if w.accepts spec value then
      .ok { w with options := w.options ++ [(spec.name, value)], pending := none }
    else .error .usage

def defer (w : Words) (spec : OptionSpec) (value : String) : Except Halt Words := do
  return { ← w.settle with pending := some (spec, value) }

def addOption (w : Words) (spec : OptionSpec) (value : String) : Except Halt Words := do
  (← w.defer spec value).settle

def addOperand (w : Words) (word : String) : Except Halt Words := do
  let w ← w.settle
  if w.operand.isNone then .ok { w with operand := some word } else .error .usage

end Words

def isDashed (word : String) : Bool :=
  word.startsWith "-" && word ≠ "-"

def splitOption (word : String) : String × Option String :=
  match Text.cutFirst (· = '=') (word.toList.drop 2) with
  | some (name, value) => (String.ofList name, some (String.ofList value))
  | none => (String.ofList (word.toList.drop 2), none)

def shortHalt (specs : List OptionSpec) (word : String) : Halt :=
  match word.toList with
  | _ :: 'h' :: _ => .help
  | _ :: 'V' :: _ => if specs.any (·.name = "version") then .version else .usage
  | _ => .usage

/-- Reads the words of one level. With `nested` the first word that is no option names the next
level, and is given back with the words after it. A last option may be left pending. -/
def readWords (specs : List OptionSpec) (nested : Bool) (w : Words) :
    List String → Except Halt (Words × Option (String × List String))
  | [] => .ok (w, none)
  | word :: rest =>
    if word = "--" then
      if nested && !rest.isEmpty then .error .usage
      else do return (← rest.foldlM Words.addOperand w, none)
    else if word.startsWith "--" then
      let (name, attached) := splitOption word
      match specs.find? (·.name = name) with
      | none => .error .usage
      | some spec =>
        match spec.arity, attached with
        | .halting halt, none => do
          let _ ← w.settle
          .error halt
        | .halting _, some _ => .error .usage
        | .flag, none => do
          let w ← w.addOption spec ""
          readWords specs nested w rest
        | .flag, some _ => .error .usage
        | _, some value => do
          let w ← w.addOption spec value
          readWords specs nested w rest
        | _, none =>
          match rest with
          | [] => .error .usage
          | value :: rest =>
            if isDashed value then .error .usage
            else do
              let w ← w.defer spec value
              readWords specs nested w rest
    else if isDashed word then do
      let _ ← w.settle
      .error (shortHalt specs word)
    else if nested then .ok (w, some (word, rest))
    else do
      let w ← w.addOperand word
      readWords specs nested w rest

inductive Topic
  | program
  | recipes
  | leaf
  deriving DecidableEq

def Topic.next? : Topic → String → Option Topic
  | .program, name =>
    if name = "run" then some .recipes
    else if name = "search" || name = "help" then some .leaf
    else none
  | .recipes, name => if name = Recipe.name || name = "help" then some .leaf else none
  | .leaf, _ => none

def Topic.help (t : Topic) (names : List String) : Halt :=
  if (names.foldlM Topic.next? t).isSome then .help else .usage

inductive Command
  | run (flags : Settings) (config : Option String) (format : OutputFormat) (input : String)
  | search (pattern : String) (input : String)

structure Invocation where
  compact : Bool
  logLevel : LogLevel
  logJson : Bool
  command : Command

namespace Invocation

def theOperand (w : Words) : Except Halt String :=
  match w.operand with
  | some input => .ok input
  | none => .error .usage

def recipeCommand (w : Words) : Except Halt Command := do
  let input ← theOperand w
  let classpath := w.getAll "classpath"
  return .run
    { methodPattern := w.get? "method-pattern"
      typeName := w.get? "type"
      classpath := if classpath.isEmpty then none else some classpath }
    (w.get? "config") ((w.get? "format" >>= OutputFormat.ofName?).getD .json) input

def searchCommand (w : Words) : Except Halt Command := do
  let input ← theOperand w
  match w.get? "method-pattern" with
  | some pattern => return .search pattern input
  | none => .error .usage

/-- The general options of all levels; of a repeated one the innermost counts. -/
def ofLevels (levels : List Words) (command : Command) : Invocation where
  compact := levels.any (·.has "compact")
  logLevel := ((levels.reverse.findSome? (·.get? "log-level")) >>= LogLevel.ofName?).getD .warn
  logJson := levels.any (·.has "log-json")
  command

def parse (args : List String) : Except Halt Invocation := do
  match ← readWords OptionSpec.program true {} args with
  | (_, some ("help", rest)) => .error (Topic.program.help rest)
  | (top, some ("search", rest)) =>
    let (w, _) ← readWords OptionSpec.search false {} rest
    let w ← w.settle
    return ofLevels [← top.settle, w] (← searchCommand w)
  | (top, some ("run", rest)) =>
    match ← readWords OptionSpec.general true {} rest with
    | (_, some ("help", rest)) => .error (Topic.recipes.help rest)
    | (middle, some (name, rest)) =>
      if name = Recipe.name then
        let (w, _) ← readWords OptionSpec.recipe false {} rest
        let w ← w.settle
        return ofLevels [← top.settle, ← middle.settle, w] (← recipeCommand w)
      else .error .usage
    | (_, none) => .error .usage
  | _ => .error .usage

end Invocation

end GuardedCalls
