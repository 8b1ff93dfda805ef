import GuardedCalls.Guard.Eligibility
import GuardedCalls.Java.Imports

/-!
What a run did, and what it tells while it goes on.
-/

namespace GuardedCalls

structure SkippedCall where
  scope : String
  call : String
  reason : SkipReason

structure Report where
  guarded : Nat := 0
  skipped : List SkippedCall := []
  importsAdded : List String := []

inductive Level
  | debug
  | info
  | warn
  deriving DecidableEq

def Level.name : Level → String
  | .debug => "DEBUG"
  | .info => "INFO"
  | .warn => "WARN"

inductive Event
  | noCalls (package pattern : String)
  | nameTaken (package simpleName path target : String)
  | skipped (call : SkippedCall)
  | notImported (target : String) (outcome : ImportOutcome)
  | finished (package : String) (report : Report)

def Event.level : Event → Level
  | .noCalls .. => .debug
  | .nameTaken .. => .debug
  | .skipped { reason := .template _, .. } => .warn
  | .skipped _ => .debug
  | .notImported .. => .debug
  | .finished .. => .info

def Event.message : Event → String
  | .noCalls package pattern => package ++ ": no calls match '" ++ pattern ++ "'"
  | .nameTaken package simpleName path target =>
    package ++ ": '" ++ simpleName ++ "' is taken by " ++ path ++ "; writing " ++ target
      ++ " in full"
  | .skipped call =>
    let verb := match call.reason with
      | .template _ => "cannot rewrite"
      | _ => "skipping"
    call.scope ++ ": " ++ verb ++ " `" ++ call.call ++ "`: " ++ call.reason.message
  | .notImported target outcome => "import of " ++ target ++ " not added: " ++ outcome.name
  | .finished package report =>
    package ++ ": rewrote " ++ toString report.guarded ++ " call(s), skipped "
      ++ toString report.skipped.length ++ ", imports added "
      ++ toString report.importsAdded.length

end GuardedCalls
