/-!
# `Decimal/Shortest.lean` — the fewest digits that read back

A binary64 number stands for every real that rounds to it. Written in decimal it needs only as
many digits as it takes to name one real of that interval, and of the shortest names the one
nearest the number itself is taken.

Everything here is exact arithmetic on natural numbers: a finite double is `m · 2^q`, its
interval has the ends `(m ± 1/2) · 2^q` (the lower one is nearer when `m` is a power of two at
the bottom of its binade), and an end belongs to the interval when `m` is even. For one, two, …
digits the two neighbours of the number on that decimal grid are tested; the first grid with a
hit wins. If any point of a grid lies in the interval, then so does one of those two, so no
shorter name is missed. Seventeen digits always suffice.
-/

set_option autoImplicit false

namespace FeatureSurvey.Decimal

/-- A positive double, with its interval, over a common denominator: the number is `num / den`,
and the reals from `low / den` to `high / den` round to it. -/
structure Span where
  num : Nat
  low : Nat
  high : Nat
  den : Nat
  /-- Do the two ends themselves round to the number? -/
  closed : Bool

/-- Scale by a power of two, up or down, keeping numerators and denominator whole. -/
def Span.scale (num low high : Nat) (closed : Bool) (q : Int) : Span :=
  match q with
  | .ofNat k => ⟨num * Nat.pow 2 k, low * Nat.pow 2 k, high * Nat.pow 2 k, 1, closed⟩
  | .negSucc k => ⟨num, low, high, Nat.pow 2 (k + 1), closed⟩

/-- The fraction of a double has 52 bits. -/
def fractionRange : Nat := 4503599627370496

/-- The span of a positive finite double, from its bits without the sign. -/
def Span.ofBits (bits : Nat) : Span :=
  let fraction : Nat := bits % fractionRange
  let exponent : Nat := bits / fractionRange
  let (m, q) : Nat × Int :=
    if exponent = 0 then (fraction, -1074) else (fraction + fractionRange, (exponent : Int) - 1075)
  -- The double below a power of two is half as far away as the one above.
  let below := if fraction = 0 && 1 < exponent then 1 else 2
  .scale (4 * m) (4 * m - below) (4 * m + 2) (m % 2 = 0) (q - 2)

/-- A decimal `digits · 10^exponent`. -/
structure Written where
  digits : Nat
  exponent : Int
  deriving DecidableEq, Repr

/-- Does `digits · 10^exponent` lie in the span? -/
def Span.holds (s : Span) (w : Written) : Bool :=
  let (n, d) : Nat × Nat :=
    match w.exponent with
    | .ofNat k => (w.digits * Nat.pow 10 k * s.den, 1)
    | .negSucc k => (w.digits * s.den, Nat.pow 10 (k + 1))
  if s.closed then s.low * d ≤ n && n ≤ s.high * d else s.low * d < n && n < s.high * d

/-- How many tens, counting from `k`, lift a number below one to one or more. -/
def Span.lift (s : Span) : Nat → Nat → Nat
  | 0, k => k
  | fuel + 1, k => if s.den ≤ s.num * Nat.pow 10 k then k else s.lift fuel (k + 1)

/-- The exponent of the greatest power of ten that is not above the span's number. -/
def Span.magnitude (s : Span) : Int :=
  if s.den ≤ s.num then ((Nat.toDigits 10 (s.num / s.den)).length : Int) - 1
  else 0 - (s.lift 400 1 : Int)

/-- The two neighbours of the number on the grid of multiples of `10^exponent`, nearer first; on
a tie the even one goes first. -/
def Span.neighbours (s : Span) (exponent : Int) : List Written :=
  let (n, d) : Nat × Nat :=
    match exponent with
    | .ofNat k => (s.num, s.den * Nat.pow 10 k)
    | .negSucc k => (s.num * Nat.pow 10 (k + 1), s.den)
  let down := n / d
  let twice := 2 * (n % d)
  let lower : Written := ⟨down, exponent⟩
  let upper : Written := ⟨down + 1, exponent⟩
  if twice < d || (twice = d && down % 2 = 0) then [lower, upper] else [upper, lower]

/-- Try `count` digits, then one more, up to seventeen. -/
def Span.search (s : Span) (magnitude : Int) : Nat → Nat → Written
  | 0, count => ⟨0, count⟩
  | fuel + 1, count =>
    match (s.neighbours (magnitude + 1 - count)).find? s.holds with
    | some w => w
    | none => s.search magnitude fuel (count + 1)

/-- Move zeros at the end of the digits into the exponent. -/
def Written.strip : Nat → Written → Written
  | 0, w => w
  | fuel + 1, w =>
    if w.digits ≠ 0 ∧ w.digits % 10 = 0 then Written.strip fuel ⟨w.digits / 10, w.exponent + 1⟩
    else w

/-- The shortest decimal of a positive finite double, given by its bits. -/
def shortest (bits : Nat) : Written :=
  let s := Span.ofBits bits
  (s.search s.magnitude 17 1).strip 20

end FeatureSurvey.Decimal
