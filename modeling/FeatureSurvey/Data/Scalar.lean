import FeatureSurvey.Data.Value

/-!
# `Data/Scalar.lean` — scalars that are still to be read

In the configuration format a bare word carries no type: `300`, `true` and `~` are texts until
somebody asks what they are. A `Scalar` is such a word, with the way it was written and the type
tag it may carry. Asked for a text it gives its letters; asked for a number or a truth value it
is read by that type's rule; and `guess?` says what it is when nothing is known about the place
it stands in.

Numbers are decimal, or hexadecimal, octal or binary behind `0x`, `0o` and `0b`, with an optional
sign. A leading zero makes a run of digits a text.
-/

set_option autoImplicit false

namespace FeatureSurvey

/-- How a scalar was written. Only the first two matter to its reading: a bare word, and a block
in which every line break counts. -/
inductive ScalarStyle where
  | plain | literal | other
  deriving DecidableEq, Repr

structure Scalar where
  text : String
  style : ScalarStyle
  tag : Option String
  deriving DecidableEq, Repr

namespace Scalar

/-! ## The tags of the core types -/

def tagBool : String := "tag:yaml.org,2002:bool"
def tagInt : String := "tag:yaml.org,2002:int"
def tagFloat : String := "tag:yaml.org,2002:float"
def tagNull : String := "tag:yaml.org,2002:null"

/-- A tag of the document's own making: the text after the exclamation mark. -/
def isLocalTag (tag : String) : Bool := tag.toList.head? == some '!'

/-! ## Words of each type -/

def isNullWord (s : String) : Bool := s == "null" || s == "Null" || s == "NULL" || s == "~"

def boolWord? (s : String) : Option Bool :=
  if s == "true" || s == "True" || s == "TRUE" then some true
  else if s == "false" || s == "False" || s == "FALSE" then some false
  else none

def digitIn? (radix : Nat) (c : Char) : Option Nat :=
  let d :=
    if c.isDigit then c.toNat - '0'.toNat
    else if 'a' ≤ c ∧ c ≤ 'f' then c.toNat - 'a'.toNat + 10
    else if 'A' ≤ c ∧ c ≤ 'F' then c.toNat - 'A'.toNat + 10
    else radix
  if d < radix then some d else none

/-- A run of one or more digits, as a number. -/
def digits? (radix : Nat) (cs : List Char) : Option Nat :=
  if cs.isEmpty then none
  else (cs.mapM (digitIn? radix)).map fun ds => ds.foldl (fun n d => n * radix + d) 0

def dropPlus : List Char → List Char
  | '+' :: cs => cs
  | cs => cs

def startsSigned : List Char → Bool
  | '+' :: _ => true
  | '-' :: _ => true
  | _ => false

/-- A run of two or more digits that begins with a zero, signed or not: a text, no number. -/
def isPaddedDigits (cs : List Char) : Bool :=
  let body := if startsSigned cs then cs.drop 1 else cs
  match body with
  | '0' :: d :: rest => (d :: rest).all Char.isDigit
  | _ => false

/-- The digits behind a radix mark. -/
def marked? : List Char → Option Nat
  | '0' :: 'x' :: rest => digits? 16 rest
  | '0' :: 'o' :: rest => digits? 8 rest
  | '0' :: 'b' :: rest => digits? 2 rest
  | _ => none

/-- A whole number that is not negative, of any size. -/
def natural? (s : String) : Option Nat :=
  let body := dropPlus s.toList
  marked? body <|>
    if startsSigned body || isPaddedDigits s.toList then none else digits? 10 body

/-- A negative whole number of any size, by its absolute value. -/
def negated? (s : String) : Option Nat :=
  match s.toList with
  | '-' :: body => marked? body <|> if isPaddedDigits s.toList then none else digits? 10 body
  | _ => none

/-! ## Real numbers -/

/-- Split into mantissa digits before and after the point and the exponent. -/
structure RealParts where
  whole : List Char
  fraction : List Char
  exponent : Int

/-- The exponent part, if there is one; `none` if what stands there is no exponent. -/
def exponent? : List Char → Option Int
  | [] => some 0
  | e :: rest =>
    if e = 'e' ∨ e = 'E' then
      match rest with
      | '-' :: ds => (digits? 10 ds).map fun n => -(n : Int)
      | '+' :: ds => (digits? 10 ds).map Int.ofNat
      | ds => (digits? 10 ds).map Int.ofNat
    else none

def realParts? (cs : List Char) : Option RealParts := do
  let whole := cs.takeWhile Char.isDigit
  let rest := cs.dropWhile Char.isDigit
  let (fraction, rest) :=
    match rest with
    | '.' :: more => (more.takeWhile Char.isDigit, more.dropWhile Char.isDigit)
    | _ => ([], rest)
  if whole.isEmpty && fraction.isEmpty then none
  else
    let exponent ← exponent? rest
    some ⟨whole, fraction, exponent⟩

/-- The double nearest to a decimal. Exponents far outside the range of doubles are cut short
before the power is taken. -/
def RealParts.toFloat (p : RealParts) : Float :=
  let mantissa := ((digits? 10 (p.whole ++ p.fraction)).getD 0)
  let exponent := p.exponent - p.fraction.length
  if mantissa = 0 then 0.0
  else
    let size : Int := (Nat.toDigits 10 mantissa).length
    if 400 < exponent + size then 1.0 / 0.0
    else if exponent + size < -400 then 0.0
    else if 0 ≤ exponent then Float.ofScientific mantissa false exponent.toNat
    else Float.ofScientific mantissa true (-exponent).toNat

/-- A finite real number. -/
def finite? (cs : List Char) : Option Float := do
  let (negative, body) :=
    match cs with
    | '-' :: body => (true, body)
    | '+' :: body => (false, body)
    | body => (false, body)
  let x := (← realParts? body).toFloat
  if x.isInf then none else some (if negative then -x else x)

/-- A real number, or one of the words for infinity and for not a number. -/
def real? (s : String) : Option Float :=
  let cs := s.toList
  let body := dropPlus cs
  let word := String.ofList body
  if cs.head? == some '+' && startsSigned body then none
  else if word == ".inf" || word == ".Inf" || word == ".INF" then some (1.0 / 0.0)
  else if s == "-.inf" || s == "-.Inf" || s == "-.INF" then some (-1.0 / 0.0)
  else if s == ".nan" || s == ".NaN" || s == ".NAN" then some (0.0 / 0.0)
  else finite? body

/-! ## Reading -/

/-- How a word fares as a whole number: a machine word holds it; only a double word does, and
then it has no reading; or it is no whole number of either size. -/
inductive WholeNumber where
  | word (n : Int)
  | doubleWord
  | none

def whole (s : String) : WholeNumber :=
  match natural? s, negated? s with
  | some n, _ => if n ≤ maxWord then .word n else if n ≤ maxDoubleWord then .doubleWord else .none
  | none, some n =>
    if n ≤ wordSignBit then .word (-n) else if n ≤ doubleWordSignBit then .doubleWord else .none
  | none, none => .none

/-- What a bare word is, where nothing else says: null, a truth value, a number, or a text. -/
def guessPlain? (s : String) : Option Value :=
  if s.isEmpty || isNullWord s then some .null
  else
    match boolWord? s, whole s with
    | some b, _ => some (.bool b)
    | none, .word n => some (.int n)
    | none, .doubleWord => none
    | none, .none =>
      if isPaddedDigits s.toList then some (.text s)
      else some (((real? s).map Value.real).getD (.text s))

/-- What a scalar is, where nothing is known about the place it stands in. A scalar under a local
tag has no reading there. -/
def guess? (w : Scalar) : Option Value :=
  match w.tag with
  | some tag =>
    if isLocalTag tag then none
    else if tag == tagBool then (boolWord? w.text).map .bool
    else if tag == tagInt then
      match whole w.text with
      | .word n => some (.int n)
      | _ => none
    else if tag == tagFloat then (real? w.text).map .real
    else if tag == tagNull then if isNullWord w.text then some .null else none
    else some (.text w.text)
  | none => if w.style = .plain then guessPlain? w.text else some (.text w.text)

/-- May this scalar be read as a value of the tagged type? -/
def offers (w : Scalar) (tag : String) : Bool :=
  w.style = .plain || (w.style = .literal && w.tag == some tag)

def word? (w : Scalar) : Option UInt64 :=
  if w.offers tagInt then ((natural? w.text).filter (· ≤ maxWord)).map UInt64.ofNat else none

def bool? (w : Scalar) : Option Bool := if w.offers tagBool then boolWord? w.text else none

/-- Is this the absence of a value, where a value may be absent? `none` if it can be neither. -/
def isAbsent? (w : Scalar) : Option Bool :=
  if w.style ≠ .plain then some false
  else
    match w.tag with
    | some tag =>
      if tag == tagNull then if isNullWord w.text then some true else none else some false
    | none => some (w.text.isEmpty || isNullWord w.text)

/-- Nothing at all, which a place for a list or a table takes as an empty one. -/
def isNothing (w : Scalar) : Bool := w.text.isEmpty && w.style = .plain

end Scalar

end FeatureSurvey
