import GuardedCalls.Java.TypeName
import GuardedCalls.Pattern.Aligned

/-!
Patterns for full names of types. A name is cut at its dots; `..` stands for any number of
segments, a star alone for one, and a star among other characters for any characters.
-/

namespace GuardedCalls

open Text (pieces dotPairPieces isAlphabetic isNumeric)
open Pattern (Slot aligns)

namespace Pattern

inductive Cause
  | empty
  | missingMethodName
  | missingParentheses
  | unbalancedParentheses
  | invalidMethodName (name : String)
  | emptySegment
  | invalidSegment (segment : String)
  | consecutiveRuns
  | emptyArgument

def globSlot (c : Char) : Slot Char :=
  if c = '*' then .run fun _ => true else .one (· = c)

def globMatches (glob segment : List Char) : Bool :=
  aligns (glob.map globSlot) segment

inductive TypeItem
  | run
  | any
  | glob (text : List Char)
  deriving DecidableEq

def TypeItem.slot : TypeItem → Slot (List Char)
  | .run => .run (!·.isEmpty)
  | .any => .one (!·.isEmpty)
  | .glob text => .one (globMatches text)

end Pattern

abbrev TypePattern := List Pattern.TypeItem

namespace TypePattern

open Pattern (TypeItem Cause)

def matchesText (p : TypePattern) (name : List Char) : Bool :=
  aligns (p.map TypeItem.slot) (pieces '.' name)

def isSegmentChar (c : Char) : Bool :=
  isAlphabetic c || isNumeric c || c = '_' || c = '$' || c = '*'

def isSegment : List Char → Bool
  | [] => false
  | c :: s => !c.isDigit && (c :: s).all isSegmentChar

def parseSegment (segment : List Char) : Except Cause TypeItem :=
  if segment.isEmpty then .error .emptySegment
  else if !isSegment segment then .error (.invalidSegment (String.ofList segment))
  else if segment = ['*'] then .ok .any
  else .ok (.glob segment)

def parseStretches : (first : Bool) → List (List Char) → Except Cause (List TypePattern)
  | _, [] => .ok []
  | first, stretch :: rest => do
    let items ←
      if stretch.isEmpty then
        if first || rest.isEmpty then .ok [] else .error .consecutiveRuns
      else (pieces '.' stretch).mapM parseSegment
    return items :: (← parseStretches false rest)

def parse (text : List Char) : Except Cause TypePattern := do
  if text.isEmpty then .error .emptySegment
  else return List.intercalate [.run] (← parseStretches true (dotPairPieces text))

end TypePattern

end GuardedCalls
