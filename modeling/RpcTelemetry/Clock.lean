/-!
# Times

An instant is a number of seconds since the epoch, negative before it, and of nanoseconds on top.
The time between two instants is exact; only its conversion to milliseconds rounds.
-/

namespace RpcTelemetry

/-- The nanoseconds of a second. -/
def nanosPerSecond : Nat := 1000000000

/-- A point in time. -/
structure Instant where
  seconds : Int
  nanos : Nat
  nanos_lt : nanos < nanosPerSecond
  deriving DecidableEq, Repr

/-- A length of time. -/
structure Elapsed where
  seconds : Nat
  nanos : Nat
  nanos_lt : nanos < nanosPerSecond
  deriving DecidableEq, Repr

namespace Instant

/-- The instant that many seconds and nanoseconds after the epoch. -/
def ofEpoch (seconds : Int) (nanos : Nat) : Instant where
  seconds := seconds + nanos / nanosPerSecond
  nanos := nanos % nanosPerSecond
  nanos_lt := Nat.mod_lt _ (by decide)

/-- The start of the count. -/
def epoch : Instant := ofEpoch 0 0

/-- Whether an instant comes before another one. -/
def isBefore (a b : Instant) : Bool :=
  a.seconds < b.seconds || (a.seconds = b.seconds && a.nanos < b.nanos)

/-- The nanoseconds since the epoch. -/
def toNanos (instant : Instant) : Int := instant.seconds * nanosPerSecond + instant.nanos

end Instant

namespace Elapsed

/-- No time. -/
def zero : Elapsed := ⟨0, 0, by decide⟩

/-- The time from `start` to `stop`; none if the clock went back. A second is borrowed where the
nanoseconds of `stop` are the smaller ones. -/
def between (start stop : Instant) : Elapsed :=
  if stop.isBefore start then zero
  else if enough : start.nanos ≤ stop.nanos then
    ⟨(stop.seconds - start.seconds).toNat, stop.nanos - start.nanos,
      Nat.lt_of_le_of_lt (Nat.sub_le _ _) stop.nanos_lt⟩
  else
    ⟨(stop.seconds - start.seconds - 1).toNat, stop.nanos + nanosPerSecond - start.nanos, by
      have := stop.nanos_lt
      omega⟩

/-- The nanoseconds of a length of time. -/
def toNanos (elapsed : Elapsed) : Nat := elapsed.seconds * nanosPerSecond + elapsed.nanos

/-- A length of time in milliseconds: seconds with their fraction, times a thousand. -/
def toMillis (elapsed : Elapsed) : Float :=
  (elapsed.seconds.toUInt64.toFloat +
    elapsed.nanos.toUInt64.toFloat / nanosPerSecond.toUInt64.toFloat) * 1000

end Elapsed

end RpcTelemetry
