/-!
# `Data/Value.lean` — data values

The values that configuration files, package lists and result files are made of. A table is a
list of entries in the order in which they stand, so that the order of a result record survives
printing; names that occur twice are the reader's business. Names are values themselves, because
one of the two file formats lets them be.
-/

set_option autoImplicit false

namespace FeatureSurvey

inductive Value where
  | null
  | bool (b : Bool)
  /-- A whole number. -/
  | int (n : Int)
  /-- A number with a fraction or an exponent, or one too large for a machine word. -/
  | real (x : Float)
  | text (s : String)
  | list (items : List Value)
  | table (entries : List (Value × Value))
  deriving Inhabited

namespace Value

def nat (n : Nat) : Value := .int n

/-- A table whose names are texts. -/
def record (fields : List (String × Value)) : Value := .table (fields.map fun f => (.text f.1, f.2))

def texts (items : List String) : Value := .list (items.map .text)

/-- A text, or null. -/
def optionText : Option String → Value
  | some s => .text s
  | none => .null

def asText? : Value → Option String
  | .text s => some s
  | _ => none

/-- A list whose items are all texts. -/
def asTexts? : Value → Option (List String)
  | .list items => items.mapM asText?
  | _ => none

@[simp] theorem asTexts?_texts (items : List String) : (texts items).asTexts? = some items := by
  unfold texts asTexts?
  simp only
  induction items with
  | nil => rfl
  | cons s items ih => simp [asText?, ih]

end Value

/-- The greatest unsigned 64-bit word. -/
def maxWord : Nat := 18446744073709551615

/-- The value of the sign bit of a 64-bit word. -/
def wordSignBit : Nat := 9223372036854775808

/-- The greatest unsigned 128-bit word. -/
def maxDoubleWord : Nat := 340282366920938463463374607431768211455

/-- The value of the sign bit of a 128-bit word. -/
def doubleWordSignBit : Nat := 170141183460469231731687303715884105728

def Value.word (n : UInt64) : Value := .int n.toNat

/-- A whole number that fits an unsigned 64-bit word. -/
def Value.asWord? : Value → Option UInt64
  | .int n => if 0 ≤ n ∧ n ≤ maxWord then some (UInt64.ofNat n.toNat) else none
  | _ => none

@[simp] theorem Value.asWord?_word (n : UInt64) : (Value.word n).asWord? = some n := by
  have h : n.toNat ≤ maxWord := by have := n.toNat_lt; unfold maxWord; omega
  simp [Value.word, Value.asWord?, h]

end FeatureSurvey
