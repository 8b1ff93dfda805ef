import GuardedCalls.Java.SourceFile
import GuardedCalls.Java.TypeName

/-!
Which types the imports of a source file make visible, and adding an import where one is needed.
-/

namespace GuardedCalls

open Text (cutLast)

def Import.simpleName (i : Import) : String :=
  match cutLast (· = '.') i.path.toList with
  | some (_, simple) => String.ofList simple
  | none => i.path

def Import.covers (i : Import) (n : TypeName) : Bool :=
  !i.isStatic && if i.isWildcard then n.package? = some i.path else i.path = n.text

def Import.shadows (i : Import) (n : TypeName) : Bool :=
  !i.isStatic && !i.isWildcard && i.path ≠ n.text && i.simpleName = n.simpleName

namespace SourceFile

def imports? (f : SourceFile) (n : TypeName) : Bool :=
  f.imports.any (·.covers n)

def conflictingImport? (f : SourceFile) (n : TypeName) : Option Import :=
  f.imports.find? (·.shadows n)

end SourceFile

inductive ImportOutcome
  | added
  | alreadyImported
  | samePackage
  | implicit
  | notImportable
  | conflict
  deriving DecidableEq

def ImportOutcome.name : ImportOutcome → String
  | .added => "Added"
  | .alreadyImported => "AlreadyImported"
  | .samePackage => "SamePackage"
  | .implicit => "Implicit"
  | .notImportable => "NotImportable"
  | .conflict => "Conflict"

def Import.isAfter (name : String) (i : Import) : Bool :=
  !i.isStatic && name < i.path

def insertLast (new : Import) (imports : List Import) : List Import :=
  let tail := imports.reverse.takeWhile (·.isStatic)
  if tail.length = imports.length then imports ++ [new]
  else imports.take (imports.length - tail.length) ++ new :: tail.reverse

def insertImport (new : Import) (imports : List Import) : List Import :=
  if imports.any (Import.isAfter new.path) then
    imports.takeWhile (!Import.isAfter new.path ·) ++ new
      :: imports.dropWhile (!Import.isAfter new.path ·)
  else insertLast new imports

def SourceFile.ensureImported (f : SourceFile) (n : TypeName) : SourceFile × ImportOutcome :=
  match n.package? with
  | none => (f, if f.package.isNone then .samePackage else .notImportable)
  | some package =>
    if f.imports? n then (f, .alreadyImported)
    else if (f.conflictingImport? n).isSome then (f, .conflict)
    else if f.package = some package then (f, .samePackage)
    else if package = "java.lang" then (f, .implicit)
    else ({ f with imports := insertImport { path := n.text } f.imports }, .added)

end GuardedCalls
