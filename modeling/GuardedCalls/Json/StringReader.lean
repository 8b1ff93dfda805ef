import GuardedCalls.Json.Reader

/-!
Reading strings with their escapes. A character beyond the basic plane may be escaped as a pair of
surrogates; a surrogate alone is a fault.
-/

namespace GuardedCalls.Json

def hexValue (c : Char) : Option Nat :=
  if '0' ≤ c ∧ c ≤ '9' then some (c.toNat - 0x30)
  else if 'a' ≤ c ∧ c ≤ 'f' then some (c.toNat - 0x57)
  else if 'A' ≤ c ∧ c ≤ 'F' then some (c.toNat - 0x37)
  else none

def hexQuad (a b c d : Char) : Option Nat := do
  return ((← hexValue a) * 16 + (← hexValue b)) * 256 + (← hexValue c) * 16 + (← hexValue d)

def simpleEscape : Char → Option Char
  | '"' => some '"'
  | '\\' => some '\\'
  | '/' => some '/'
  | 'b' => some '\x08'
  | 'f' => some '\x0c'
  | 'n' => some '\n'
  | 'r' => some '\r'
  | 't' => some '\t'
  | _ => none

def byteCount (text : List Char) : Nat :=
  (String.ofList text).utf8ByteSize

def leadingHex : List Char → Option (Nat × List Char)
  | a :: b :: c :: d :: text => (hexQuad a b c d).map fun n => (n, text)
  | _ => none

/-- The four digits of an escape by number. Whatever stands there, four bytes are looked at. -/
def readHex : Reader Nat := fun text =>
  match leadingHex text with
  | some (n, rest) => .ok (n, rest)
  | none =>
    if byteCount (text.take 4) < 4 then .error ⟨.endInString, [], 0⟩
    else .error ⟨.badEscape, text, 4⟩

def readLowSurrogate : Reader Nat
  | [] => .error ⟨.endInString, [], 0⟩
  | '\\' :: [] => .error ⟨.endInString, [], 0⟩
  | '\\' :: 'u' :: text => do
    let (low, text) ← readHex text
    if 0xDC00 ≤ low ∧ low ≤ 0xDFFF then .ok (low, text) else .error ⟨.loneSurrogate, text, 0⟩
  | '\\' :: text => .error ⟨.halfSurrogate, text, 1⟩
  | text => .error ⟨.halfSurrogate, text, 1⟩

def readNumericEscape : Reader Char := fun text => do
  let (n, text) ← readHex text
  if 0xDC00 ≤ n ∧ n ≤ 0xDFFF then .error ⟨.loneSurrogate, text, 0⟩
  else if 0xD800 ≤ n ∧ n ≤ 0xDBFF then
    let (low, text) ← readLowSurrogate text
    .ok (Char.ofNat (0x10000 + (n - 0xD800) * 0x400 + (low - 0xDC00)), text)
  else .ok (Char.ofNat n, text)

def readStringWithin (bound done : List Char) : Reader String := fun text =>
  match bound, text with
  | [], _ => .error ⟨.endInString, [], 0⟩
  | _, [] => .error ⟨.endInString, [], 0⟩
  | _ :: bound, c :: text =>
    if c = '"' then .ok (String.ofList done.reverse, text)
    else if c = '\\' then
      match text with
      | [] => .error ⟨.endInString, [], 0⟩
      | 'u' :: text =>
        match readNumericEscape text with
        | .ok (c, text) => readStringWithin bound (c :: done) text
        | .error fault => .error fault
      | e :: text =>
        match simpleEscape e with
        | some c => readStringWithin bound (c :: done) text
        | none => .error ⟨.badEscape, e :: text, 1⟩
    else if c.toNat < 0x20 then .error ⟨.rawControl, text, 0⟩
    else readStringWithin bound (c :: done) text

def readStringBody : Reader String := fun text =>
  readStringWithin text [] text

end GuardedCalls.Json
