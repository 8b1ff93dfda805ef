/-!
Cutting text at a separator.
-/

namespace GuardedCalls.Text

def pieces (sep : Char) : List Char → List (List Char)
  | [] => [[]]
  | c :: s =>
    if c = sep then [] :: pieces sep s
    else match pieces sep s with
      | [] => [[c]]
      | p :: ps => (c :: p) :: ps

/-- The stretches between the double dots, found from the left without overlap. -/
def dotPairPieces : List Char → List (List Char)
  | [] => [[]]
  | '.' :: '.' :: s => [] :: dotPairPieces s
  | c :: s =>
    match dotPairPieces s with
    | [] => [[c]]
    | p :: ps => (c :: p) :: ps

def cutFirst (p : Char → Bool) : List Char → Option (List Char × List Char)
  | [] => none
  | c :: s =>
    if p c then some ([], s)
    else (cutFirst p s).map fun (before, after) => (c :: before, after)

def cutLast (p : Char → Bool) : List Char → Option (List Char × List Char)
  | [] => none
  | c :: s =>
    match cutLast p s with
    | some (before, after) => some (c :: before, after)
    | none => if p c then some ([], s) else none

def cutLastWord (word : List Char) : List Char → Option (List Char × List Char)
  | [] => if word.isEmpty then some ([], []) else none
  | c :: s =>
    match cutLastWord word s with
    | some (before, after) => some (c :: before, after)
    | none =>
      if word.isPrefixOf (c :: s) then some ([], (c :: s).drop word.length) else none

def dropStart? (start s : List Char) : Option (List Char) :=
  if start.isPrefixOf s then some (s.drop start.length) else none

def dropSuffix? (suffix s : List Char) : Option (List Char) :=
  if suffix.isSuffixOf s then some (s.take (s.length - suffix.length)) else none

def occursIn (needle : List Char) : List Char → Bool
  | [] => needle.isEmpty
  | c :: s => needle.isPrefixOf (c :: s) || occursIn needle s

end GuardedCalls.Text
