/-!
# Durations

A `Duration` is a number of seconds and nanoseconds. An average duration is kept as a binary
fraction of seconds with 53 significant digits: `rounded?` is what comes back from that. All
arithmetic is exact, on fractions of natural numbers.
-/

namespace ByteStreams

/-- A quotient rounded to the nearest whole number; a half goes to the even neighbour. -/
def roundQuotient (num den : Nat) : Nat :=
  let q := num / den
  let twice := 2 * (num % den)
  if twice < den then q
  else if den < twice then q + 1
  else if q % 2 = 0 then q
  else q + 1

/-- A fraction of natural numbers. -/
structure Fraction where
  num : Nat
  den : Nat
  deriving DecidableEq, Repr

namespace Fraction

/-- The sum of two fractions. -/
def add (a b : Fraction) : Fraction := ⟨a.num * b.den + b.num * a.den, a.den * b.den⟩

/-- The fraction times `2 ^ k`, rounded to a whole number, over `2 ^ k` again. -/
def atScale (f : Fraction) (k : Int) : Fraction :=
  ⟨roundQuotient (f.num <<< k.toNat) (f.den <<< (-k).toNat) <<< (-k).toNat, 1 <<< k.toNat⟩

/-- The nearest binary fraction with at most `digits` significant digits, to the even one of two
that are equally near. The scale puts the rounded number between `2 ^ (digits - 1)` and
`2 ^ digits`. -/
def toPrecision (digits : Nat) (f : Fraction) : Fraction :=
  let guess : Int := (digits : Int) - 1 - f.num.log2 + f.den.log2
  let scaled := (f.num <<< guess.toNat) / (f.den <<< (-guess).toNat)
  f.atScale (if scaled < 1 <<< (digits - 1) then guess + 1 else guess)

end Fraction

/-- A span of time. -/
structure Duration where
  seconds : Nat
  nanos : Nat
  deriving DecidableEq, Repr, Inhabited

namespace Duration

/-- The nanoseconds in a second. -/
def perSecond : Nat := 1000000000

/-- The whole span in nanoseconds. -/
def toNanos (d : Duration) : Nat := d.seconds * perSecond + d.nanos

/-- The span of so many nanoseconds. -/
def ofNanos (n : Nat) : Duration := ⟨n / perSecond, n % perSecond⟩

/-- The span of so many nanoseconds, unless its seconds exceed 64 bits. -/
def ofNanos? (n : Nat) : Option Duration :=
  if n / perSecond < 1 <<< 64 then some (ofNanos n) else none

/-- The significant binary digits of a duration that is kept as a fraction of seconds. -/
def precision : Nat := 53

/-- The duration in seconds: its two parts are rounded each and so is their sum. -/
def toSeconds (d : Duration) : Fraction :=
  let whole := Fraction.toPrecision precision ⟨d.seconds, 1⟩
  let part := Fraction.toPrecision precision ⟨d.nanos, perSecond⟩
  Fraction.toPrecision precision (whole.add part)

/-- The duration that is left of `d` once it has been kept as a fraction of seconds, to the nearest
nanosecond. -/
def rounded? (d : Duration) : Option Duration :=
  let s := d.toSeconds
  ofNanos? (roundQuotient (s.num * perSecond) s.den)

end Duration

end ByteStreams
