import GuardedCalls.Text.Pieces

/-!
Files held in memory below a working directory, and where a path leads among them. Nothing is known
of what stands above the working directory but that it is a directory.
-/

namespace GuardedCalls

inductive FileRead
  | missing
  | directory
  | notDirectory
  | nameTooLong
  | unreadable (reason : String)
  | bytes (content : ByteArray)

abbrev PathName := List Char

/-- Files and directories by the names that lead to them; a directory has no content. The
directories around an entry need no entry of their own. -/
structure FileTree where
  entries : List (List PathName × Option ByteArray)

namespace FileTree

def content? (t : FileTree) (place : List PathName) : Option ByteArray :=
  (t.entries.find? (·.1 = place)) >>= (·.2)

def exists? (t : FileTree) (place : List PathName) : Bool :=
  place.isEmpty || t.entries.any (place.isPrefixOf ·.1)

def readPlace (t : FileTree) (place : List PathName) : FileRead :=
  match t.content? place with
  | some content => .bytes content
  | none => .directory

def maxNameBytes : Nat := 255

def maxPathBytes : Nat := 4095

def isTooLong (name : PathName) : Bool :=
  maxNameBytes < (String.ofList name).utf8ByteSize

def readNothing (name : PathName) : FileRead :=
  if isTooLong name then .nameTooLong else .missing

def readAbove : List PathName → FileRead
  | [] => .directory
  | name :: names => if name ∈ [[], ['.'], ['.', '.']] then readAbove names else readNothing name

def readFrom (t : FileTree) (place : List PathName) : List PathName → FileRead
  | [] => t.readPlace place
  | name :: names =>
    -- A file has nothing below it, not even itself.
    if (t.content? place).isSome then .notDirectory
    else if name ∈ [[], ['.']] then t.readFrom place names
    else if name = ['.', '.'] then
      if place.isEmpty then readAbove names else t.readFrom place.dropLast names
    else if t.exists? (place ++ [name]) then t.readFrom (place ++ [name]) names
    else readNothing name

def read (t : FileTree) (path : String) : FileRead :=
  if maxPathBytes < path.utf8ByteSize then .nameTooLong
  else
    match path.toList with
    | [] => .missing
    | '/' :: names => readAbove (Text.pieces '/' names)
    | names => t.readFrom [] (Text.pieces '/' names)

def isPlain (name : PathName) : Bool :=
  name ∉ [[], ['.'], ['.', '.']] && '\x00' ∉ name && !isTooLong name

def isEmptyBelow (t : FileTree) (place : List PathName) : Bool :=
  t.entries.all fun (other, _) => other = place || !place.isPrefixOf other

def isSound (t : FileTree) : Bool :=
  t.entries.all fun (place, content) =>
    place.all isPlain && (content.isNone || t.isEmptyBelow place)

def ofList? (files : List (String × Option ByteArray)) : Option FileTree :=
  let t : FileTree := ⟨files.map fun (path, content) => (Text.pieces '/' path.toList, content)⟩
  if t.isSound then some t else none

end FileTree

end GuardedCalls
