import LorawanRouting.Text.Numeral
import LorawanRouting.Text.Reader
import LorawanRouting.Time.Timestamp

/-!
Instants as RFC 3339 text. Written texts are in universal time with nine digits after the point and
the letter Z; a leap second shows as second 60, and a year outside four digits takes a sign. Read
texts may use a small `t` or a space, any number of digits after the point, and any offset that is
shorter than a day.
-/

namespace LorawanRouting.Rfc3339

def padded (width n : Nat) : List Char :=
  let ds := Numeral.write n
  List.replicate (width - ds.length) '0' ++ ds

def writeYear (year : Int) : List Char :=
  if 0 ≤ year ∧ year ≤ 9999 then padded 4 year.toNat
  else (if year < 0 then '-' else '+') :: padded 4 year.natAbs

def writeChars (t : Timestamp) : List Char :=
  let d := t.date
  let s := t.secondOfDay
  let leap := if 1000000000 ≤ t.nanos then 1 else 0
  writeYear d.year ++ '-' :: padded 2 d.month ++ '-' :: padded 2 d.day ++
    'T' :: padded 2 (s / 3600) ++ ':' :: padded 2 (s / 60 % 60) ++
    ':' :: padded 2 (s % 60 + leap) ++ '.' :: padded 9 (t.nanos - leap * 1000000000) ++ ['Z']

def write (t : Timestamp) : String := String.ofList (writeChars t)

def fixed (width : Nat) : Reader Nat := fun s => do
  let (ds, s) ← Reader.exactly Char.isDigit width s
  return (Nat.ofDigitChars 10 ds 0, s)

def readDate : Reader Date := fun s => do
  let (year, s) ← fixed 4 s
  let (_, s) ← Reader.char '-' s
  let (month, s) ← fixed 2 s
  let (_, s) ← Reader.char '-' s
  let (day, s) ← fixed 2 s
  let date : Date := ⟨year, month, day⟩
  if date.Valid then some (date, s) else none

/-- Seconds of a day and the nanoseconds that second 60 adds. -/
def readTime : Reader (Nat × Nat) := fun s => do
  let (hour, s) ← fixed 2 s
  let (_, s) ← Reader.char ':' s
  let (minute, s) ← fixed 2 s
  let (_, s) ← Reader.char ':' s
  let (second, s) ← fixed 2 s
  if hour ≤ 23 ∧ minute ≤ 59 ∧ second ≤ 60 then
    let day := 3600 * hour + 60 * minute
    if second = 60 then some ((day + 59, 1000000000), s) else some ((day + second, 0), s)
  else none

/-- The nanoseconds after a point; digits after the ninth are passed over. -/
def readFraction (s : List Char) : Option (Nat × List Char) :=
  match s with
  | '.' :: rest => do
    let (ds, s) ← Reader.run Char.isDigit rest
    let kept := ds.take 9
    return (Nat.ofDigitChars 10 kept 0 * Nat.pow 10 (9 - kept.length), s)
  | _ => some (0, s)

/-- Seconds by which local time is ahead of universal time, after one of the given signs. -/
def readOffset (signs : List Char) : List Char → Option (Int × List Char)
  | 'Z' :: s | 'z' :: s => some (0, s)
  | s => do
    let (sign, s) ← Reader.oneOf signs s
    let (hour, s) ← fixed 2 s
    let (_, s) ← Reader.char ':' s
    let (minute, s) ← fixed 2 s
    if hour ≤ 23 ∧ minute ≤ 59 then
      let ahead : Int := 3600 * hour + 60 * minute
      some (if sign = '+' then ahead else -ahead, s)
    else none

def readTimestamp : Reader Timestamp := fun s => do
  let (date, s) ← readDate s
  let (_, s) ← Reader.oneOf ['T', 't', ' '] s
  let ((second, leap), s) ← readTime s
  let (nanos, s) ← readFraction s
  let (ahead, s) ← readOffset ['+', '-', '\u2212'] s
  let t ← Timestamp.of? (86400 * date.dayNumber + second - ahead) (leap + nanos)
  return (t, s)

def read? (s : String) : Option Timestamp := Reader.complete readTimestamp s.toList

end LorawanRouting.Rfc3339
