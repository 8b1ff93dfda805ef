import GuardedCalls.Java.Decode
import GuardedCalls.Json.ValueReader
import GuardedCalls.Tool.Failure

/-!
The source files of one input: a single file or an array of them, as JSON.
-/

namespace GuardedCalls

structure Documents where
  label : String
  files : List SourceFile

namespace Documents

inductive Malformed
  | text (fault : Json.Fault)
  | shape

def Malformed.message (m : Malformed) (text : String) : String :=
  match m with
  | .text fault => fault.message text
  | .shape => "data did not match any variant of untagged enum UnitsDocument"

def ofJson? (j : Json) : Option (List SourceFile) :=
  j.list? (SourceFile.ofJson? .document)
    <|> (SourceFile.ofJson? .document j).map fun file => [file]

/-- A value of the wrong shape is reported even if other text follows it. -/
def read (text : String) : Except Malformed (List SourceFile) := do
  let (value, rest) ← (Json.readValue Json.maxNesting text.toList).mapError .text
  match ofJson? value with
  | none => .error .shape
  | some files =>
    (Json.readEnd rest).mapError .text
    return files

def parse (label text : String) : Except Failure Documents := do
  let files ← (read text).mapError fun m => .malformedInput label (m.message text)
  return { label, files }

def fileLabel (d : Documents) (index : Nat) : String :=
  match d.files with
  | [_] => d.label
  | _ => d.label ++ "[" ++ toString index ++ "]"

def labels (d : Documents) : List String :=
  (List.range d.files.length).map d.fileLabel

end Documents

end GuardedCalls
