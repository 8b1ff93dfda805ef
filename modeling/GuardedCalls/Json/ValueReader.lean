import GuardedCalls.Json.NumberReader
import GuardedCalls.Json.StringReader

/-!
Reading whole values and documents. `read` bounds how deep arrays and objects may nest.
-/

namespace GuardedCalls.Json

def nextName (first : Bool) : Reader (Option String) := fun text =>
  match skipBlank text with
  | [] => .error ⟨.endInObject, [], 1⟩
  | c :: rest =>
    if c = '\x7d' then .ok (none, rest)
    else if first then
      if c = '"' then do
        let (name, rest) ← readStringBody rest
        .ok (some name, rest)
      else .error ⟨.noName, c :: rest, 1⟩
    else if c = ',' then
      match skipBlank rest with
      | [] => .error ⟨.endInValue, [], 1⟩
      | d :: rest =>
        if d = '"' then do
          let (name, rest) ← readStringBody rest
          .ok (some name, rest)
        else .error ⟨if d = '\x7d' then .trailingComma else .noName, d :: rest, 1⟩
    else .error ⟨.noMemberEnd, c :: rest, 1⟩

def readColon (text : List Char) : Except Fault (List Char) :=
  match skipBlank text with
  | [] => .error ⟨.endInObject, [], 1⟩
  | c :: rest => if c = ':' then .ok rest else .error ⟨.noColon, c :: rest, 1⟩

def readMembersWithin {α : Type} (item : Reader α) (bound : List Char) (first : Bool) :
    Reader (List (String × α)) :=
  fun text =>
    match bound, nextName first text with
    | _, .error fault => .error fault
    | _, .ok (none, rest) => .ok ([], rest)
    | [], .ok (some _, rest) => .error ⟨.endInObject, rest, 1⟩
    | _ :: bound, .ok (some name, rest) => do
      let rest ← readColon rest
      let (x, rest) ← item rest
      let (xs, rest) ← readMembersWithin item bound false rest
      .ok ((name, x) :: xs, rest)

def readMembers {α : Type} (item : Reader α) : Reader (List (String × α)) := fun text =>
  readMembersWithin item text true text

def readScalar : Reader Json
  | [] => .error ⟨.endInValue, [], 1⟩
  | c :: text =>
    if c = 'n' then readKeyword .null ['u', 'l', 'l'] text
    else if c = 't' then readKeyword (.bool true) ['r', 'u', 'e'] text
    else if c = 'f' then readKeyword (.bool false) ['a', 'l', 's', 'e'] text
    else if c = '"' then do
      let (s, text) ← readStringBody text
      .ok (.string s, text)
    else if c = '-' then do
      let (n, text) ← readNumber true text
      .ok (.number n, text)
    else if c.isDigit then do
      let (n, text) ← readNumber false (c :: text)
      .ok (.number n, text)
    else .error ⟨.noValue, c :: text, 1⟩

def readValue : (nesting : Nat) → Reader Json
  | 0, text =>
    match skipBlank text with
    | '[' :: rest => .error ⟨.tooDeep, '[' :: rest, 1⟩
    | '\x7b' :: rest => .error ⟨.tooDeep, '\x7b' :: rest, 1⟩
    | text => readScalar text
  | n + 1, text =>
    match skipBlank text with
    | '[' :: rest => do
      let (items, rest) ← readItems (readValue n) rest
      .ok (.array items, rest)
    | '\x7b' :: rest => do
      let (members, rest) ← readMembers (readValue n) rest
      .ok (.object members, rest)
    | text => readScalar text

def readEnd (text : List Char) : Except Fault Unit :=
  match skipBlank text with
  | [] => .ok ()
  | rest => .error ⟨.trailingText, rest, 1⟩

def maxNesting : Nat := 127

def read (nesting : Nat) (text : String) : Except Fault Json := do
  let (value, rest) ← readValue nesting text.toList
  readEnd rest
  return value

end GuardedCalls.Json
