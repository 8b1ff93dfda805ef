import GuardedCalls.Guard.Report
import GuardedCalls.Java.Fold
import GuardedCalls.Java.Scope
import GuardedCalls.Pattern.Search

/-!
Guarding every eligible call of a source file, from the inside out, and importing the type that the
guards test for.
-/

namespace GuardedCalls

structure Progress where
  scope : Scope := {}
  report : Report := {}
  events : List Event := []

namespace Progress

def note (p : Progress) (event : Event) : Progress :=
  { p with events := p.events ++ [event] }

def skip (p : Progress) (c : Call) (reason : SkipReason) : Progress :=
  let entry : SkippedCall := ⟨p.scope.name, c.source, reason⟩
  { p with report := { p.report with skipped := p.report.skipped ++ [entry] } }.note
    (.skipped entry)

def countGuarded (p : Progress) : Progress :=
  { p with report := { p.report with guarded := p.report.guarded + 1 } }

def addImport (p : Progress) (name : String) : Progress :=
  { p with report := { p.report with importsAdded := p.report.importsAdded ++ [name] } }

end Progress

namespace Recipe

def replaceCall (r : Recipe) (qualified : Bool) (c : Call) : StateM Progress Expr :=
  match r.check c with
  | .noMatch => return c.toExpr
  | .skip reason => do
    modify (·.skip c reason)
    return c.toExpr
  | .eligible receiver =>
    match (r.template c qualified).apply receiver r.classpath with
    | .ok guarded => do
      modify Progress.countGuarded
      return guarded
    | .error error => do
      modify (·.skip c (.template error))
      return c.toExpr

def importTarget (r : Recipe) (f : SourceFile) : StateM Progress SourceFile := do
  if (← get).report.guarded = 0 then return f
  else
    match f.ensureImported r.target with
    | (f, .added) => do
      modify (·.addImport r.target.text)
      return f
    | (f, outcome) => do
      modify (·.note (.notImported r.target.text outcome))
      return f

def hooks (r : Recipe) (qualified : Bool) : Hooks Progress where
  enterClass c := modify fun p => { p with scope := p.scope.enterClass c.name }
  classDecl c := do
    modify fun p => { p with scope := {} }
    return c
  enterMethod m := modify fun p => { p with scope := p.scope.enterMethod m.name }
  method m := do
    modify fun p => { p with scope := p.scope.leaveMethod }
    return m
  call := r.replaceCall qualified
  file := r.importTarget

end Recipe

structure Run where
  file : SourceFile
  report : Report
  events : List Event

def Run.changed (run : Run) : Bool :=
  0 < run.report.guarded || !run.report.importsAdded.isEmpty

namespace Recipe

/-- Guards the calls of a file in which some call is accepted. The target is spelled in full where
an import gives its simple name to another type. -/
def guardFile (r : Recipe) (f : SourceFile) : Run :=
  let package := f.package.getD ""
  let taken := f.conflictingImport? r.target
  let start : Progress := match taken with
    | some i => Progress.note {} (.nameTaken package r.target.simpleName i.path r.target.text)
    | none => {}
  let (file, done) := (f.fold (r.hooks taken.isSome)).run start
  { file, report := done.report, events := done.events ++ [.finished package done.report] }

def run (r : Recipe) (f : SourceFile) : Run :=
  if r.pattern.occursIn f then r.guardFile f
  else { file := f, report := {}, events := [.noCalls (f.package.getD "") r.pattern.text] }

end Recipe

end GuardedCalls
