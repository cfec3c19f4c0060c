/-!
# Instants

The bounds of a query are counted in milliseconds since the epoch. An
instant is given in whole seconds and nanoseconds into the second; a leap
second has up to two thousand million of them. What is less than a
millisecond is cut off.
-/

namespace NewsAnalytics

/-- A point of time. -/
structure Instant where
  seconds : Int64
  nanoseconds : UInt32
  deriving DecidableEq

/-- The milliseconds from the epoch to an instant. -/
def Instant.milliseconds (t : Instant) : Int64 :=
  Int64.ofInt (t.seconds.toInt * 1000 + (t.nanoseconds.toNat / 1000000 : Nat))

/-- A leap second goes on beyond its first thousand milliseconds. -/
example : (Instant.mk 59 1999999999).milliseconds = 60999 := by decide

/-- The fraction counts forward from the second, also before the epoch. -/
example : (Instant.mk (-1) 999999).milliseconds = -1000 := by decide

end NewsAnalytics
