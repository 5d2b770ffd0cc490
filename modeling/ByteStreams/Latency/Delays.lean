import ByteStreams.Latency.Duration

/-!
# Delays

A source of delays is a function of the number of delays drawn from it before, so that sources made
alike draw alike. Delays are counted in nanoseconds. A `Clock` is a source with the number of
its draws.
-/

namespace ByteStreams

/-- A source of delays. -/
inductive Delays where
  /-- Always the same delay. -/
  | fixed (delay : Duration)
  /-- The given delays in turn, over and over. -/
  | cycle (nanos : List Nat)
  /-- Delays that spread around an average, as the seed says. -/
  | spread (average : Duration) (seed : Nat)
  deriving Repr

namespace Delays

/-- One step of a linear congruence modulo `2 ^ 64`. -/
def scramble (x : Nat) : Nat :=
  (x * 6364136223846793005 + 1442695040888963407) % (1 <<< 64)

/-- The `k`-th number below `2 ^ 16` that a seed gives. -/
def digit (seed k : Nat) : Nat := scramble (scramble (scramble (seed + k))) >>> 48

/-- The `index`-th delay around an average. The sum of four even digits is close to normal; it is
scaled to a standard deviation of a tenth of the average, and so stays within 0.65 and 1.35 times
the average. -/
def spreadAt (average seed index : Nat) : Nat :=
  let full := 65535
  let sum := digit seed (4 * index) + digit seed (4 * index + 1) +
    digit seed (4 * index + 2) + digit seed (4 * index + 3)
  roundQuotient (average * (1000 * full + 173 * sum - 346 * full)) (1000 * full)

/-- The delay drawn after `index` others, in nanoseconds. -/
def draw : Delays → Nat → Nat
  | fixed delay, _ => delay.toNanos
  | cycle nanos, index => nanos.getD (index % nanos.length) 0
  | spread average seed, index => spreadAt average.toNanos seed index

/-- The first `count` delays. -/
def sample (d : Delays) (count : Nat) : List Nat := (List.range count).map d.draw

/-- The first `count` delays as durations, unless one of them is none: a delay of `2 ^ 64` seconds
or more cannot be drawn. -/
def sample? (d : Delays) (count : Nat) : Option (List Duration) :=
  (d.sample count).mapM Duration.ofNanos?

/-- A delay within 0.3 and 1.7 times the average. -/
def isNear (average delay : Duration) : Bool :=
  3 * average.toNanos ≤ 10 * delay.toNanos && 10 * delay.toNanos ≤ 17 * average.toNanos

end Delays

/-- A source of delays, with the number of delays drawn from it. -/
structure Clock where
  delays : Delays
  draws : Nat := 0
  deriving Repr

namespace Clock

/-- The clock after a number of further draws. -/
def advance (c : Clock) (count : Nat) : Clock := { c with draws := c.draws + count }

/-- Draws the next delay. -/
def next (c : Clock) : Nat × Clock := (c.delays.draw c.draws, c.advance 1)

end Clock

end ByteStreams
