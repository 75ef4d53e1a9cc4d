/-!
# Retry schedules

The delay before attempt `n + 1` is `initial * factor ^ n`, a factor below one counting as one, and
on top of it a random share of up to `jitter`. Durations are counted in nanoseconds; a delay of
`2 ^ 64` nanoseconds or more is the longest duration there is.

The jitter is one that the settings allow, from zero to one. A share cannot be drawn up to a jitter that
is infinite or no number.
-/

namespace IngressControl

/-- The longest duration, in nanoseconds: the greatest 64-bit count of seconds, and a second less
one nanosecond. -/
def longestDuration : Nat := (UInt64.size - 1) * 1000000000 + 999999999

/-- How often and when something is tried again. -/
structure Backoff where
  /-- The delay before the second attempt. -/
  initial : Nat
  /-- What each delay is longer than the one before it. -/
  factor : Float
  /-- The greatest random share added to a delay, from zero to one. -/
  jitter : Float
  /-- How many attempts are made in all. -/
  steps : UInt32

namespace Backoff

/-- A schedule of one attempt and some retries. -/
def withRetries (retries : UInt32) (initial : Nat) (factor jitter : Float) : Backoff :=
  { initial, factor, jitter, steps := if retries = 0xffffffff then retries else retries + 1 }

/-- `result * base ^ n` for an exponent of at most `bits` binary digits, by repeated squaring. -/
def power : (bits : Nat) → (base result : Float) → (n : Nat) → Float
  | 0, _, result, _ => result
  | bits + 1, base, result, n =>
    let result := if n % 2 = 1 then result * base else result
    if n / 2 = 0 then result else power bits (base * base) result (n / 2)

/-- The greater of a factor and one; what is not a number counts as one. -/
def atLeastOne (factor : Float) : Float := if 1.0 < factor then factor else 1.0

/-- The delay behind the failure of attempt `attempt`, counted from zero, without its random share.
Exponents end at the greatest 31-bit number. -/
def baseDelay (b : Backoff) (attempt : UInt32) : Nat :=
  let exponent := min attempt.toNat 0x7fffffff
  let nanos := (Float.ofNat b.initial * power 31 (atLeastOne b.factor) 1.0 exponent).round
  if 18446744073709551616.0 ≤ nanos then longestDuration else nanos.toUInt64.toNat

/-- The delay with a random share drawn between zero and the jitter. The jitter is one that the settings
allow. -/
def delay (b : Backoff) (attempt : UInt32) (share : Float) : Nat :=
  let base := b.baseDelay attempt
  if b.jitter ≤ 0.0 ∨ base = 0 then base
  else
    let extra := (Float.ofNat base * share).round
    min longestDuration (base + extra.toUInt64.toNat)

end Backoff

end IngressControl
