import GuardedCalls.Json.Basic

/-!
Records inside JSON. A record is an object with its fields by name, or an array with its fields in
their order. Names that are no field are ignored; a field given twice is refused.
-/

namespace GuardedCalls.Json

inductive Record
  | named (members : List (String × Json))
  | listed (items : List Json)

def record? (arity : Nat) : Json → Option Record
  | .object members => some (.named members)
  | .array items => if items.length ≤ arity then some (.listed items) else none
  | _ => none

namespace Record

/-- The value of a field, given its position and its name. The outer `none` refuses the record,
the inner one says that the field is missing. -/
def field (r : Record) (position : Nat) (name : String) : Option (Option Json) :=
  match r with
  | .named members =>
    match members.filter (·.1 = name) with
    | [] => some none
    | [(_, value)] => some (some value)
    | _ => none
  | .listed items => some items[position]?

variable {α : Type}

def required (r : Record) (position : Nat) (name : String) (decode : Json → Option α) :
    Option α := do
  match ← r.field position name with
  | some value => decode value
  | none => none

def withDefault (r : Record) (position : Nat) (name : String) (default : α)
    (decode : Json → Option α) : Option α := do
  match ← r.field position name with
  | some value => decode value
  | none => some default

def optional (r : Record) (position : Nat) (name : String) (decode : Json → Option α) :
    Option (Option α) := do
  match ← r.field position name with
  | none => some none
  | some .null => some none
  | some value => return some (← decode value)

/-- A field that may be null, and missing only where fields are named. -/
def nullable (r : Record) (position : Nat) (name : String) (decode : Json → Option α) :
    Option (Option α) := do
  match r, ← r.field position name with
  | .listed _, none => none
  | .named _, none => some none
  | _, some .null => some none
  | _, some value => return some (← decode value)

end Record

def string? : Json → Option String
  | .string s => some s
  | _ => none

def bool? : Json → Option Bool
  | .bool b => some b
  | _ => none

def int? : Json → Option Int
  | .number (.int i) => some i
  | _ => none

def natBelow? (bound : Nat) (j : Json) : Option Nat := do
  let i ← j.int?
  if 0 ≤ i ∧ i < bound then some i.toNat else none

def list? {α : Type} (decode : Json → Option α) : Json → Option (List α)
  | .array items => items.mapM decode
  | _ => none

def choice? : Json → Option (String × Json)
  | .object [member] => some member
  | _ => none

def nameChoice? : Json → Option String
  | .string name => some name
  | .object [(name, .null)] => some name
  | _ => none

def optionalMember {α : Type} (name : String) (encode : α → Json) :
    Option α → List (String × Json)
  | none => []
  | some x => [(name, encode x)]

end GuardedCalls.Json
