/-!
The Gregorian calendar carried on without limit in both directions. Days are counted from the
first of January 1970. For counting, a year begins with March, so that the leap day is its last
day and the lengths of the months before it follow one rule.
-/

namespace LorawanRouting

structure Date where
  year : Int
  month : Nat
  day : Nat
  deriving DecidableEq, Repr

namespace Date

def isLeapYear (year : Int) : Bool := year % 4 = 0 && (year % 100 ≠ 0 || year % 400 = 0)

def daysInMonth (year : Int) (month : Nat) : Nat :=
  if month = 2 then if isLeapYear year then 29 else 28
  else if month = 4 ∨ month = 6 ∨ month = 9 ∨ month = 11 then 30
  else 31

def Valid (d : Date) : Prop :=
  1 ≤ d.month ∧ d.month ≤ 12 ∧ 1 ≤ d.day ∧ d.day ≤ daysInMonth d.year d.month

instance (d : Date) : Decidable d.Valid := inferInstanceAs (Decidable (_ ∧ _))

/-- Days from the first of March of year 0 to the first of March of `year`. -/
def marchDay (year : Int) : Int := 365 * year + year / 4 - year / 100 + year / 400

def monthDay (month : Int) : Int := (153 * month + 2) / 5

/-- The first of March of year 0 lies this many days before 1970. -/
def marchEra : Int := 719468

def dayNumber (d : Date) : Int :=
  let month : Int := if d.month < 3 then d.month + 9 else d.month - 3
  let year := if d.month < 3 then d.year - 1 else d.year
  marchDay year + monthDay month + (d.day - 1) - marchEra

/-- The year, begun with March, that holds the day `n` after the first of March of year 0. -/
def marchYear (n : Int) : Int :=
  let year := 400 * n / 146097
  if n < marchDay year then year - 1
  else if marchDay (year + 1) ≤ n then year + 1
  else year

def ofDayNumber (day : Int) : Date :=
  let n := day + marchEra
  let year := marchYear n
  let rest := n - marchDay year
  let month := (5 * rest + 2) / 153
  let dayOfMonth := (rest - monthDay month + 1).toNat
  if month < 10 then ⟨year, (month + 3).toNat, dayOfMonth⟩
  else ⟨year + 1, (month - 9).toNat, dayOfMonth⟩

end Date

end LorawanRouting
