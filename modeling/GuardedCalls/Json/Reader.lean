import GuardedCalls.Json.Fault

/-!
Readers of JSON text: a reader takes the unread text and gives a result with the text after it, or
the first fault.
-/

namespace GuardedCalls.Json

abbrev Reader (α : Type) := List Char → Except Fault (α × List Char)

def isJsonBlank (c : Char) : Bool :=
  c = ' ' || c = '\t' || c = '\n' || c = '\r'

def skipBlank (text : List Char) : List Char :=
  text.dropWhile isJsonBlank

def readKeyword {α : Type} (value : α) : List Char → Reader α
  | [], text => .ok (value, text)
  | _ :: _, [] => .error ⟨.endInValue, [], 0⟩
  | k :: ks, c :: text =>
    if k = c then readKeyword value ks text else .error ⟨.badKeyword, c :: text, 1⟩

/-- Whether another item begins: with `true` the text from its first character on, with `false` the
text behind the closing bracket. -/
def nextItem (first : Bool) : Reader Bool := fun text =>
  match skipBlank text with
  | [] => .error ⟨.endInArray, [], 1⟩
  | c :: rest =>
    if c = ']' then .ok (false, rest)
    else if first then .ok (true, c :: rest)
    else if c = ',' then
      match skipBlank rest with
      | [] => .error ⟨.endInValue, [], 1⟩
      | d :: rest =>
        if d = ']' then .error ⟨.trailingComma, d :: rest, 1⟩ else .ok (true, d :: rest)
    else .error ⟨.noItemEnd, c :: rest, 1⟩

def readItemsWithin {α : Type} (item : Reader α) (bound : List Char) (first : Bool) :
    Reader (List α) :=
  fun text =>
    match bound, nextItem first text with
    | _, .error fault => .error fault
    | _, .ok (false, rest) => .ok ([], rest)
    | [], .ok (true, rest) => .error ⟨.endInArray, rest, 1⟩
    | _ :: bound, .ok (true, rest) => do
      let (x, rest) ← item rest
      let (xs, rest) ← readItemsWithin item bound false rest
      .ok (x :: xs, rest)

def readItems {α : Type} (item : Reader α) : Reader (List α) := fun text =>
  -- Every item reads a character, so the text itself bounds their number.
  readItemsWithin item text true text

end GuardedCalls.Json
