import FeatureSurvey.Data.Source

/-!
# `Json/Number.lean` — numbers in JSON text

A number without fraction and exponent is a whole number if a 64-bit word holds it; every other
number is a real. The real is computed the quick way: as many leading digits as fit an unsigned
word make the significand, the digits after them only move the exponent, and the significand is
multiplied or divided once by a power of ten that a double holds. For up to fifteen digits and
moderate exponents this is the nearest double; beyond that it may be its neighbour.

`-0` is the real negative zero. A number too large for a double has no reading.
-/

set_option autoImplicit false

namespace FeatureSurvey.Json

/-- The letters of a number: sign, digits before and after the point, exponent sign and digits. -/
structure Numeral where
  negative : Bool
  whole : List Char
  fraction : List Char
  exponent : Option (Bool × List Char)

def digitValue (c : Char) : Nat := c.toNat - '0'.toNat

/-- Take digits into the significand while an unsigned word holds it; give it back with the
number of digits taken and the digits left. -/
def takeDigits : Nat → Nat → List Char → Nat × Nat × List Char
  | significand, taken, [] => (significand, taken, [])
  | significand, taken, c :: cs =>
    let next := significand * 10 + digitValue c
    if next ≤ maxWord then takeDigits next (taken + 1) cs else (significand, taken, c :: cs)

/-- `significand · 10^exponent` as a double, the power taken in one step of at most `10^308`;
`none` if it is too large. -/
def scaleTo? (x : Float) : Nat → Int → Option Float
  | 0, _ => some 0.0
  | fuel + 1, exponent =>
    if exponent.natAbs ≤ 308 then
      let power := Float.ofScientific 1 false exponent.natAbs
      if 0 ≤ exponent then
        let y := x * power
        if y.isInf then none else some y
      else some (x / power)
    else if x == 0.0 then some x
    else if 0 ≤ exponent then none
    else scaleTo? (x / Float.ofScientific 1 false 308) fuel (exponent + 308)

/-- The largest exponent that is read digit by digit. -/
def exponentLimit : Nat := 2147483647

namespace Numeral

/-- The exponent as it is written, or `none` if it has too many digits to be counted. -/
def writtenExponent? (n : Numeral) : Option Int :=
  match n.exponent with
  | none => some 0
  | some (negative, ds) =>
    let e := ds.foldl (fun e c => e * 10 + digitValue c) 0
    if e ≤ exponentLimit then some (if negative then -(e : Int) else e) else none

/-- The value of a numeral with a fraction or an exponent, or with more digits than a word
holds. -/
def real? (n : Numeral) : Option Float := do
  let (leading, _, dropped) := takeDigits 0 0 n.whole
  let (significand, taken, _) := takeDigits leading 0 n.fraction
  let shift : Int := (dropped.length : Int) - taken
  let x ←
    match n.writtenExponent? with
    | some e => scaleTo? (Float.ofNat significand) 8 (shift + e)
    | none =>
      match n.exponent with
      | some (false, _) => if significand = 0 then some 0.0 else none
      | _ => some 0.0
  some (if n.negative then -x else x)

/-- What a numeral stands for. -/
def source (n : Numeral) : Source :=
  let asReal : Source :=
    match n.real? with
    | some x => .value (.real x)
    | none => .unreadable
  if n.fraction.isEmpty && n.exponent.isNone then
    let k := n.whole.foldl (fun k c => k * 10 + digitValue c) 0
    if n.negative then
      if k = 0 ∨ wordSignBit < k then asReal else .value (.int (-k))
    else if k ≤ maxWord then .value (.nat k)
    else asReal
  else asReal

end Numeral

end FeatureSurvey.Json
