import GuardedCalls.Guard.Run
import GuardedCalls.Json.Printer
import GuardedCalls.Json.Record
import GuardedCalls.Tool.Failure

/-!
The responses that commands write, as JSON. Members stand in a fixed order; a value that is
embedded as it is has its members sorted.
-/

namespace GuardedCalls

open Json (string? bool? list? natBelow? optionalMember)

def schemaVersion : String := "1"

def uint32? (j : Json) : Option UInt32 :=
  (natBelow? 0x100000000 j).map UInt32.ofNat

def uint8? (j : Json) : Option UInt8 :=
  (natBelow? 0x100 j).map UInt8.ofNat

structure SkippedInfo where
  scope : String
  call : String
  reason : String
  message : String

structure SiteInfo where
  file : String
  scope : String
  call : String
  declaringType : String

structure FileResult where
  file : String
  changed : Bool
  guarded : UInt32
  importsAdded : List String
  skipped : List SkippedInfo
  tree : Option Json

structure Summary where
  filesProcessed : UInt32 := 0
  filesChanged : UInt32 := 0
  callsGuarded : UInt32 := 0
  callsSkipped : UInt32 := 0
  deriving DecidableEq

structure RunResponse where
  status : String := "ok"
  version : String := schemaVersion
  recipe : String
  summary : Summary
  results : List FileResult

structure SearchResponse where
  status : String := "ok"
  version : String := schemaVersion
  pattern : String
  sites : List SiteInfo

structure ErrorInfo where
  code : UInt8
  message : String
  details : Option Json

structure ErrorResponse where
  status : String := "error"
  version : String := schemaVersion
  error : ErrorInfo

def Summary.add (s : Summary) (r : FileResult) : Summary where
  filesProcessed := s.filesProcessed + 1
  filesChanged := if r.changed then s.filesChanged + 1 else s.filesChanged
  callsGuarded := s.callsGuarded + r.guarded
  callsSkipped := s.callsSkipped + UInt32.ofNat r.skipped.length

def Summary.of (results : List FileResult) : Summary :=
  results.foldl Summary.add {}

def RunResponse.of (recipe : String) (results : List FileResult) : RunResponse :=
  { recipe, summary := .of results, results }

def SearchResponse.of (pattern : String) (sites : List SiteInfo) : SearchResponse :=
  { pattern, sites }

def ErrorResponse.of (failure : Failure) : ErrorResponse :=
  { error := ⟨failure.code, failure.message, failure.details?⟩ }

def SkippedInfo.of (s : SkippedCall) : SkippedInfo :=
  ⟨s.scope, s.call, s.reason.code, s.reason.message⟩

def FileResult.of (run : Run) (file : String) (tree : Option Json) : FileResult where
  file
  changed := run.changed
  guarded := UInt32.ofNat run.report.guarded
  importsAdded := run.report.importsAdded
  skipped := run.report.skipped.map SkippedInfo.of
  tree

def SkippedInfo.toJson (s : SkippedInfo) : Json :=
  .object [("scope", .string s.scope), ("call", .string s.call), ("reason", .string s.reason),
    ("message", .string s.message)]

def SiteInfo.toJson (s : SiteInfo) : Json :=
  .object [("file", .string s.file), ("scope", .string s.scope), ("call", .string s.call),
    ("declaring_type", .string s.declaringType)]

def FileResult.toJson (r : FileResult) : Json :=
  .object ([("file", .string r.file), ("changed", .bool r.changed),
    ("rewritten", .nat r.guarded.toNat), ("imports_added", .strings r.importsAdded),
    ("skipped", .array (r.skipped.map SkippedInfo.toJson))]
      ++ optionalMember "unit" Json.sorted r.tree)

def Summary.toJson (s : Summary) : Json :=
  .object [("units_processed", .nat s.filesProcessed.toNat),
    ("units_changed", .nat s.filesChanged.toNat),
    ("calls_rewritten", .nat s.callsGuarded.toNat),
    ("calls_skipped", .nat s.callsSkipped.toNat)]

def RunResponse.toJson (r : RunResponse) : Json :=
  .object [("status", .string r.status), ("schema_version", .string r.version),
    ("recipe", .string r.recipe), ("summary", r.summary.toJson),
    ("units", .array (r.results.map FileResult.toJson))]

def SearchResponse.toJson (r : SearchResponse) : Json :=
  .object [("status", .string r.status), ("schema_version", .string r.version),
    ("pattern", .string r.pattern), ("matches", .array (r.sites.map SiteInfo.toJson))]

def ErrorInfo.toJson (e : ErrorInfo) : Json :=
  .object ([("code", .nat e.code.toNat), ("message", .string e.message)]
    ++ optionalMember "details" Json.sorted e.details)

def ErrorResponse.toJson (r : ErrorResponse) : Json :=
  .object [("status", .string r.status), ("schema_version", .string r.version),
    ("error", r.error.toJson)]

def emit (onOneLine : Bool) (response : Json) : String :=
  (if onOneLine then response.compact else response.pretty) ++ "\n"

def SkippedInfo.ofJson? (j : Json) : Option SkippedInfo := do
  let r ← j.record? 4
  return {
    scope := ← r.required 0 "scope" string?
    call := ← r.required 1 "call" string?
    reason := ← r.required 2 "reason" string?
    message := ← r.required 3 "message" string? }

def SiteInfo.ofJson? (j : Json) : Option SiteInfo := do
  let r ← j.record? 4
  return {
    file := ← r.required 0 "file" string?
    scope := ← r.required 1 "scope" string?
    call := ← r.required 2 "call" string?
    declaringType := ← r.required 3 "declaring_type" string? }

def FileResult.ofJson? (j : Json) : Option FileResult := do
  let r ← j.record? 6
  return {
    file := ← r.required 0 "file" string?
    changed := ← r.required 1 "changed" bool?
    guarded := ← r.required 2 "rewritten" uint32?
    importsAdded := ← r.required 3 "imports_added" (list? string?)
    skipped := ← r.required 4 "skipped" (list? SkippedInfo.ofJson?)
    tree := ← r.nullable 5 "unit" some }

def Summary.ofJson? (j : Json) : Option Summary := do
  let r ← j.record? 4
  return {
    filesProcessed := ← r.required 0 "units_processed" uint32?
    filesChanged := ← r.required 1 "units_changed" uint32?
    callsGuarded := ← r.required 2 "calls_rewritten" uint32?
    callsSkipped := ← r.required 3 "calls_skipped" uint32? }

def RunResponse.ofJson? (j : Json) : Option RunResponse := do
  let r ← j.record? 5
  return {
    status := ← r.required 0 "status" string?
    version := ← r.required 1 "schema_version" string?
    recipe := ← r.required 2 "recipe" string?
    summary := ← r.required 3 "summary" Summary.ofJson?
    results := ← r.required 4 "units" (list? FileResult.ofJson?) }

def SearchResponse.ofJson? (j : Json) : Option SearchResponse := do
  let r ← j.record? 4
  return {
    status := ← r.required 0 "status" string?
    version := ← r.required 1 "schema_version" string?
    pattern := ← r.required 2 "pattern" string?
    sites := ← r.required 3 "matches" (list? SiteInfo.ofJson?) }

def ErrorInfo.ofJson? (j : Json) : Option ErrorInfo := do
  let r ← j.record? 3
  return {
    code := ← r.required 0 "code" uint8?
    message := ← r.required 1 "message" string?
    details := ← r.nullable 2 "details" some }

def ErrorResponse.ofJson? (j : Json) : Option ErrorResponse := do
  let r ← j.record? 3
  return {
    status := ← r.required 0 "status" string?
    version := ← r.required 1 "schema_version" string?
    error := ← r.required 2 "error" ErrorInfo.ofJson? }

end GuardedCalls
