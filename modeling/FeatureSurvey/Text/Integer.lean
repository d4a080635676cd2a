/-!
# `Text/Integer.lean` — whole numbers in text

A whole number is an optional sign and decimal digits. It has to fit a signed 64-bit word, and
reading goes from left to right: a number that has grown too large is reported before a wrong
letter further on.
-/

set_option autoImplicit false

namespace FeatureSurvey.Text

inductive IntegerFault where
  | empty | invalidDigit | tooLarge | tooSmall
  deriving DecidableEq, Repr

def IntegerFault.message : IntegerFault → String
  | .empty => "cannot parse integer from empty string"
  | .invalidDigit => "invalid digit found in string"
  | .tooLarge => "number too large to fit in target type"
  | .tooSmall => "number too small to fit in target type"

/-- Read digits behind those of `n`, up to the bound. -/
def readDigits (bound : Nat) (overflow : IntegerFault) (n : Nat) :
    List Char → Except IntegerFault Nat
  | [] => .ok n
  | c :: cs =>
    if c.isDigit then
      let next := n * 10 + (c.toNat - '0'.toNat)
      if next ≤ bound then readDigits bound overflow next cs else .error overflow
    else .error .invalidDigit

/-- Read the digits of a number, at least one. -/
def readMagnitude (bound : Nat) (overflow : IntegerFault) : List Char → Except IntegerFault Nat
  | [] => .error .invalidDigit
  | cs => readDigits bound overflow 0 cs

/-- The greatest signed 64-bit number. -/
def greatestSigned : Nat := 9223372036854775807

/-- Read a number that a signed 64-bit word holds. -/
def parseInteger (text : String) : Except IntegerFault Int :=
  match text.toList with
  | [] => .error .empty
  | '-' :: cs => (readMagnitude (greatestSigned + 1) .tooSmall cs).map fun n => -(n : Int)
  | '+' :: cs => (readMagnitude greatestSigned .tooLarge cs).map Int.ofNat
  | cs => (readMagnitude greatestSigned .tooLarge cs).map Int.ofNat

end FeatureSurvey.Text
