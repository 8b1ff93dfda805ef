import GuardedCalls.Tool.Arguments
import GuardedCalls.Tool.FileTree

/-!
One run of the program: from arguments, files and standard input to an exit code and output.
-/

namespace GuardedCalls

structure Environment where
  file : String → FileRead
  input : ByteArray := .empty
  writable : Bool := true

structure Exit where
  code : UInt8
  output : String
  log : List String := []

def programVersion : String := "tugj 0.1.0\n"

def decodeText (source : String) (content : ByteArray) : Except Failure String :=
  match String.fromUTF8? content with
  | some text => .ok text
  | none => .error (.internal ("failed to read " ++ source
      ++ ": stream did not contain valid UTF-8"))

namespace Environment

def readFile (e : Environment) (path : String) : Except Failure String :=
  let failed (reason : String) : Except Failure String :=
    .error (.internal ("failed to read " ++ path ++ ": " ++ reason))
  match e.file path with
  | .missing => .error (.fileNotFound path)
  | .directory => failed "Is a directory (os error 21)"
  | .notDirectory => failed "Not a directory (os error 20)"
  | .nameTooLong => failed "File name too long (os error 36)"
  | .unreadable reason => failed reason
  | .bytes content => decodeText path content

def readDocuments (e : Environment) (input : String) : Except Failure Documents := do
  let text ← if input = "-" then decodeText "stdin" e.input else e.readFile input
  Documents.parse input text

def readSettings (e : Environment) (path : String) : Except Failure Settings := do
  let text ← e.readFile path
  (Settings.read text).mapError fun fault =>
    .invalidArguments ("invalid recipe config " ++ path ++ ": " ++ fault.message text) none

end Environment

abbrev Done := String × List Event

/-- Carries out a command. Settings are checked before the input is read. -/
def Command.execute (e : Environment) (compact : Bool) : Command → Except Failure Done
  | .run flags config format input => do
    let base ← match config with
      | some path => e.readSettings path
      | none => .ok {}
    let recipe ← (base.overlay flags).build
    let documents ← e.readDocuments input
    let runs := documents.files.map recipe.run
    return ((runOutput format runs documents.labels).text compact, runs.flatMap (·.events))
  | .search pattern input => do
    let documents ← e.readDocuments input
    let response ← searchCalls pattern documents
    return (emit compact response.toJson, [])

def Event.line (asJson : Bool) (event : Event) : String :=
  if asJson then
    Json.compact (.object [("level", .string event.level.name), ("message", .string event.message)])
  else event.level.name ++ " " ++ event.message

def Invocation.log (i : Invocation) (events : List Event) : List String :=
  (events.filter fun event => i.logLevel.admits event.level).map (Event.line i.logJson)

def Invocation.settle (i : Invocation) (e : Environment) : Except Failure Done → Exit
  | .ok (output, events) =>
    if e.writable || output.isEmpty then ⟨0, output, i.log events⟩
    else ⟨(Failure.notApplied "failed to write output" none).code, "", i.log events⟩
  | .error failure =>
    ⟨failure.code, if e.writable then emit i.compact (ErrorResponse.of failure).toJson else "", []⟩

def Halt.exit (e : Environment) : Halt → Exit
  | .usage => ⟨2, "", []⟩
  | .version => ⟨0, if e.writable then programVersion else "", []⟩
  | .help => ⟨0, "", []⟩

def runProgram (e : Environment) (args : List String) : Exit :=
  match Invocation.parse args with
  | .error halt => halt.exit e
  | .ok invocation => invocation.settle e (invocation.command.execute e invocation.compact)

end GuardedCalls
