import GuardedCalls.Tool.CommandLine

/-!
The program: reads the files that the arguments name and standard input where they ask for it, and
writes what the run comes to.
-/

namespace GuardedCalls

def Command.input : Command → String
  | .run _ _ _ input => input
  | .search _ input => input

def Command.paths (c : Command) : List String :=
  (match c with
    | .run _ config _ _ => config.toList
    | .search .. => [])
  ++ if c.input = "-" then [] else [c.input]

def readPath (path : String) : IO FileRead := do
  try
    return .bytes (← IO.FS.readBinFile path)
  catch
    | .noFileOrDirectory .. => return .missing
    | .inappropriateType none .. => return .directory
    | .inappropriateType (some _) .. => return .notDirectory
    | .invalidArgument (some _) _ "name too long" => return .nameTooLong
    | error => return .unreadable error.toString

def readEnvironment (args : List String) : IO Environment := do
  match Invocation.parse args with
  | .error _ => return { file := fun _ => .missing }
  | .ok invocation =>
    let command := invocation.command
    let files ← command.paths.mapM fun path => return (path, ← readPath path)
    let input ← if command.input = "-" then (← IO.getStdin).readBinToEnd else pure .empty
    return { file := fun path => (files.lookup path).getD .missing, input }

end GuardedCalls

open GuardedCalls in
def main (args : List String) : IO UInt32 := do
  let e ← readEnvironment args
  let exit := runProgram e args
  exit.log.forM IO.eprintln
  try
    let out ← IO.getStdout
    out.putStr exit.output
    out.flush
    return exit.code.toUInt32
  catch _ =>
    return (runProgram { e with writable := false } args).code.toUInt32
