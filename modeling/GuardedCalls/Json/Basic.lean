/-!
JSON values as a document spells them: members keep their order and may repeat a name, and a number
written as an integer stays apart from a floating-point number. `Json.sorted` is the value without
those accidents of spelling.
-/

namespace GuardedCalls

inductive Json.Number
  | int (value : Int)
  | float (value : Float)

inductive Json
  | null
  | bool (value : Bool)
  | number (value : Json.Number)
  | string (value : String)
  | array (items : List Json)
  | object (members : List (String × Json))

namespace Json

instance : Inhabited Json := ⟨.null⟩

def int (value : Int) : Json :=
  .number (.int value)

def nat (value : Nat) : Json :=
  .int value

def strings (values : List String) : Json :=
  .array (values.map .string)

def putMember (name : String) (value : Json) : List (String × Json) → List (String × Json)
  | [] => [(name, value)]
  | (other, v) :: ms =>
    if name < other then (name, value) :: (other, v) :: ms
    else if name = other then (name, value) :: ms
    else (other, v) :: putMember name value ms

mutual
/-- Members by rising name at every depth; of a repeated name the last member stays. -/
def sorted : Json → Json
  | .array items => .array (sortedItems items)
  | .object members => .object (sortedMembers members [])
  | .null => .null
  | .bool b => .bool b
  | .number n => .number n
  | .string s => .string s

def sortedItems : List Json → List Json
  | [] => []
  | j :: js => j.sorted :: sortedItems js

def sortedMembers : List (String × Json) → List (String × Json) → List (String × Json)
  | [], done => done
  | (name, value) :: ms, done => sortedMembers ms (putMember name value.sorted done)
end

mutual
def depth : Json → Nat
  | .array items => depthItems items + 1
  | .object members => depthMembers members + 1
  | .null => 0
  | .bool _ => 0
  | .number _ => 0
  | .string _ => 0

def depthItems : List Json → Nat
  | [] => 0
  | j :: js => max j.depth (depthItems js)

def depthMembers : List (String × Json) → Nat
  | [] => 0
  | (_, j) :: ms => max j.depth (depthMembers ms)
end

theorem depth_le_depthItems {j : Json} {items : List Json} (hj : j ∈ items) :
    j.depth ≤ depthItems items := by
  induction items with
  | nil => exact absurd hj List.not_mem_nil
  | cons k items ih =>
    rw [depthItems]
    rcases List.mem_cons.mp hj with rfl | h
    · exact Nat.le_max_left _ _
    · exact Nat.le_trans (ih h) (Nat.le_max_right _ _)

theorem depth_le_depthMembers {m : String × Json} {members : List (String × Json)}
    (hm : m ∈ members) : m.2.depth ≤ depthMembers members := by
  induction members with
  | nil => exact absurd hm List.not_mem_nil
  | cons m' members ih =>
    rw [depthMembers]
    rcases List.mem_cons.mp hm with rfl | h
    · exact Nat.le_max_left _ _
    · exact Nat.le_trans (ih h) (Nat.le_max_right _ _)

end Json

end GuardedCalls
