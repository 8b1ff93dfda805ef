import GuardedCalls.Java.Encode
import GuardedCalls.Tool.Documents
import GuardedCalls.Tool.Response
import GuardedCalls.Tool.Settings

/-!
The two commands: guarding calls, and listing the calls that a pattern accepts.
-/

namespace GuardedCalls

inductive OutputFormat
  | json
  | source
  deriving DecidableEq

inductive RunOutput
  | response (value : RunResponse)
  | source (text : String)

def RunOutput.text (onOneLine : Bool) : RunOutput → String
  | .response r => emit onOneLine r.toJson
  | .source s => s

def runResponse (runs : List Run) (labels : List String) : RunResponse :=
  .of Recipe.name
    (List.zipWith (fun run label => .of run label (some run.file.toJson.sorted)) runs labels)

def runOutput (format : OutputFormat) (runs : List Run) (labels : List String) : RunOutput :=
  match format with
  | .json => .response (runResponse runs labels)
  | .source => .source (String.intercalate "\n" (runs.map (·.file.source)))

def runRecipe (settings : Settings) (input : Documents) (format : OutputFormat) :
    Except Failure RunOutput := do
  let recipe ← settings.build
  return runOutput format (input.files.map recipe.run) input.labels

def SiteInfo.of (file : String) (site : CallSite) : SiteInfo where
  file
  scope := site.scope
  call := site.call.source
  declaringType := site.call.declaringType?.getD ""

def searchCalls (pattern : String) (input : Documents) : Except Failure SearchResponse := do
  let pattern ← (MethodPattern.parse pattern).mapError fun e => .ofRecipe (.pattern e)
  let sites := List.zipWith
    (fun file label => (pattern.findCalls file).map (SiteInfo.of label)) input.files input.labels
  return .of pattern.text sites.flatten

end GuardedCalls
