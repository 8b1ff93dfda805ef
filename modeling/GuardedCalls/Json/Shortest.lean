/-!
The shortest decimal that reads back as a given double, and its layout in a document.
-/

namespace GuardedCalls.Json

structure Decimal where
  digits : Nat
  exponent : Int

/-- A positive rational and the reals around it that round to the same double, all over one
denominator. The ends belong to the interval exactly if `closed`. -/
structure Rounding where
  low : Nat
  value : Nat
  high : Nat
  den : Nat
  closed : Bool

def Rounding.of (m : Nat) (q : Int) (narrow : Bool) : Rounding :=
  let scale := Nat.pow 2 (q - 2).toNat
  { low := (4 * m - if narrow then 1 else 2) * scale
    value := 4 * m * scale
    high := (4 * m + 2) * scale
    den := Nat.pow 2 (2 - q).toNat
    closed := m % 2 = 0 }

def Rounding.ofBits (bits : UInt64) : Rounding :=
  let fraction : Nat := bits.toNat % 0x10000000000000
  let biased : Nat := bits.toNat / 0x10000000000000 % 0x800
  if biased = 0 then .of fraction (-1074) false
  else .of (fraction + 0x10000000000000) ((biased : Int) - 1075) (fraction = 0 ∧ biased ≠ 1)

def Rounding.admits (r : Rounding) (d : Decimal) : Bool :=
  let x := d.digits * Nat.pow 10 d.exponent.toNat * r.den
  let unit := Nat.pow 10 (-d.exponent).toNat
  if r.closed then r.low * unit ≤ x && x ≤ r.high * unit
  else r.low * unit < x && x < r.high * unit

def Rounding.leading (r : Rounding) : Int :=
  if r.den ≤ r.value then (Nat.toDigits 10 (r.value / r.den)).length - 1
  else
    match (List.range 330).find? fun p => r.den ≤ r.value * Nat.pow 10 p with
    | some p => -p
    | none => 0

def Rounding.withDigits (r : Rounding) (n : Nat) : Option Decimal :=
  let exponent := r.leading - n + 1
  let num := r.value * Nat.pow 10 (-exponent).toNat
  let den := r.den * Nat.pow 10 exponent.toNat
  let below : Decimal := ⟨num / den, exponent⟩
  let above : Decimal := ⟨num / den + 1, exponent⟩
  let twice := 2 * (num % den)
  match r.admits below, r.admits above with
  | true, true =>
    if twice < den || (twice = den && below.digits % 2 = 0) then some below else some above
  | true, false => some below
  | false, true => some above
  | false, false => none

def stripZeros : Nat → Decimal → Decimal
  | 0, d => d
  | n + 1, d => if d.digits % 10 = 0 then stripZeros n ⟨d.digits / 10, d.exponent + 1⟩ else d

def Rounding.shortest (r : Rounding) : Decimal :=
  match (List.range 17).findSome? fun n => r.withDigits (n + 1) with
  | some d => stripZeros 17 d
  -- Seventeen digits suffice for every double.
  | none => ⟨0, 0⟩

/-- A leading digit between `10 ^ -5` and `10 ^ 15` is written positionally, anything else with an
exponent, which has a sign; a positional number keeps a fraction. -/
def Decimal.text (d : Decimal) : String :=
  let digits := Nat.toDigits 10 d.digits
  let point : Int := digits.length + d.exponent
  if -5 < point ∧ point ≤ 0 then
    String.ofList (['0', '.'] ++ List.replicate (-point).toNat '0' ++ digits)
  else if 0 < point ∧ point ≤ 16 then
    let whole := digits ++ List.replicate d.exponent.toNat '0'
    let fraction := digits.drop point.toNat
    String.ofList (whole.take point.toNat ++ '.' :: if fraction.isEmpty then ['0'] else fraction)
  else
    let fraction := digits.drop 1
    String.ofList (digits.take 1 ++ if fraction.isEmpty then [] else '.' :: fraction)
      ++ (if 0 < point then "e+" else "e") ++ toString (point - 1)

def floatText (x : Float) : String :=
  let sign := if x.toBits.toNat < 0x8000000000000000 then "" else "-"
  if x.toBits.toNat % 0x8000000000000000 = 0 then sign ++ "0.0"
  else sign ++ (Rounding.ofBits x.toBits).shortest.text

end GuardedCalls.Json
