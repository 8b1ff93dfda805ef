import GuardedCalls.Json.Basic
import GuardedCalls.Json.Reader

/-!
Reading numbers. An integer is read exactly if it fits into 64 bits; any other number becomes a
double, scaled by a power of ten from as many of its leading digits as fit into 64 bits.
-/

namespace GuardedCalls.Json

def takeDigits (limit value : Nat) : List Char → Nat × List Char
  | [] => (value, [])
  | c :: cs =>
    let next := value * 10 + (c.toNat - 0x30)
    if next < limit then takeDigits limit next cs else (value, c :: cs)

def significandLimit : Nat := 0x10000000000000000

def exponentLimit : Nat := 0x80000000

/-- Divides by a power of ten; a double holds the powers up to the 308th. -/
def divideByPower (x : Float) (power : Nat) : Float :=
  if power ≤ 308 then x / Float.ofScientific 1 false power
  else if x == 0 then x
  else divideByPower (x / Float.ofScientific 1 false 308) (power - 308)
termination_by power

def scaled? (significand : Nat) (exponent : Int) : Option Float :=
  let x := Float.ofNat significand
  if exponent < 0 then some (divideByPower x exponent.natAbs)
  else if exponent ≤ 308 then
    let y := x * Float.ofScientific 1 false exponent.natAbs
    if y.isInf then none else some y
  else if significand = 0 then some x
  else none

def signed (negative : Bool) (x : Float) : Number :=
  .float (if negative then -x else x)

/-- The rest of a number from its exponent's first character on. An exponent at the limit is a
fault at the digit that gets there, unless the number is zero all the same. -/
def readExponent (negative : Bool) (significand : Nat) (exponent : Int) : Reader Number :=
  fun text =>
    let (down, text) := match text with
      | '+' :: text => (false, text)
      | '-' :: text => (true, text)
      | text => (false, text)
    match text with
    | [] => .error ⟨.endInValue, [], 0⟩
    | c :: rest =>
      if c.isDigit then
        let digits := text.takeWhile Char.isDigit
        let rest := text.dropWhile Char.isDigit
        let (power, dropped) := takeDigits exponentLimit 0 digits
        if !dropped.isEmpty then
          if significand = 0 ∨ down then .ok (signed negative 0, rest)
          else .error ⟨.hugeNumber, dropped ++ rest, 1⟩
        else
          match scaled? significand (if down then exponent - power else exponent + power) with
          | some x => .ok (signed negative x, rest)
          | none => .error ⟨.hugeNumber, rest, 0⟩
      else .error ⟨.badNumber, c :: rest, 1⟩

def readFraction (negative : Bool) (significand : Nat) (exponent : Int) : Reader Number :=
  fun text =>
    let finish (significand : Nat) (exponent : Int) : Reader Number := fun text =>
      match text with
      | 'e' :: text => readExponent negative significand exponent text
      | 'E' :: text => readExponent negative significand exponent text
      | text =>
        match scaled? significand exponent with
        | some x => .ok (signed negative x, text)
        | none => .error ⟨.hugeNumber, text, 0⟩
    match text with
    | '.' :: text =>
      let digits := text.takeWhile Char.isDigit
      let rest := text.dropWhile Char.isDigit
      if digits.isEmpty then
        .error ⟨if text.isEmpty then .endInValue else .badNumber, text, 1⟩
      else
        let (more, dropped) := takeDigits significandLimit significand digits
        finish more (exponent - (digits.length - dropped.length)) rest
    | text => finish significand exponent text

def isFractionStart : List Char → Bool
  | '.' :: _ => true
  | 'e' :: _ => true
  | 'E' :: _ => true
  | _ => false

/-- An integer stays one if it fits into 64 bits, signed when negative; a negative zero and all
other numbers are floating-point. -/
def readDigits (negative : Bool) (digits : List Char) : Reader Number := fun text =>
  let (significand, dropped) := takeDigits significandLimit 0 digits
  if dropped.isEmpty ∧ ¬ isFractionStart text then
    if ¬ negative then .ok (.int significand, text)
    else if significand = 0 ∨ 0x8000000000000000 < significand then
      .ok (signed true (Float.ofNat significand), text)
    else .ok (.int (-significand), text)
  else readFraction negative significand dropped.length text

def readNumber (negative : Bool) : Reader Number
  | [] => .error ⟨.endInValue, [], 0⟩
  | '0' :: text =>
    match text with
    | c :: _ =>
      if c.isDigit then .error ⟨.badNumber, text, 1⟩ else readDigits negative ['0'] text
    | [] => readDigits negative ['0'] []
  | c :: text =>
    if c.isDigit then
      readDigits negative (c :: text.takeWhile Char.isDigit) (text.dropWhile Char.isDigit)
    else .error ⟨.badNumber, c :: text, 1⟩

end GuardedCalls.Json
