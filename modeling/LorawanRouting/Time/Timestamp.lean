import LorawanRouting.Time.Calendar

/-!
Instants: seconds since the beginning of 1970 in universal time and nanoseconds within the second.
A leap second repeats the last second of a minute, with nanoseconds from one thousand million up;
such nanoseconds after any other second are left out.
-/

namespace LorawanRouting

structure Timestamp where
  seconds : Int
  nanos : Nat
  nanos_lt : nanos < 2000000000
  leap_at_minute_end : 1000000000 ≤ nanos → seconds % 60 = 59
  deriving DecidableEq, Repr

namespace Timestamp

def of? (seconds : Int) (nanos : Nat) : Option Timestamp :=
  if h : nanos < 2000000000 ∧ (1000000000 ≤ nanos → seconds % 60 = 59) then
    some ⟨seconds, nanos, h.1, h.2⟩
  else none

def date (t : Timestamp) : Date := Date.ofDayNumber (t.seconds / 86400)

def secondOfDay (t : Timestamp) : Nat := (t.seconds % 86400).toNat

end Timestamp

end LorawanRouting
