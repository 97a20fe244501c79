import LorawanRouting.Time.Calendar
import Mathlib.Tactic.IntervalCases

/-!
Days and dates. Counting days from a date and finding the date of a day undo each other. Years and
months are counted from March here, which leaves one rule for the lengths of the months and moves
the leap day to the end of the year.
-/

namespace LorawanRouting.Date

theorem marchDay_bounds (year : Int) :
    146097 * year - 699 ≤ 400 * marchDay year ∧ 400 * marchDay year ≤ 146097 * year + 396 := by
  simp only [marchDay]
  omega

theorem marchYear_spec (n : Int) :
    marchDay (marchYear n) ≤ n ∧ n < marchDay (marchYear n + 1) := by
  have hguess := Int.mul_ediv_add_emod (400 * n) 146097
  have hr := Int.emod_nonneg (400 * n) (show (146097 : Int) ≠ 0 by decide)
  have hr' := Int.emod_lt_of_pos (400 * n) (show (0 : Int) < 146097 by decide)
  simp only [marchYear]
  generalize 400 * n / 146097 = y at *
  -- the guess is off by one year at most
  have h0 := marchDay_bounds (y - 1)
  have h3 := marchDay_bounds (y + 1 + 1)
  split
  · rw [Int.sub_add_cancel]
    omega
  · split <;> omega

theorem marchDay_add_one (year : Int) :
    marchDay (year + 1) = marchDay year + (if isLeapYear (year + 1) then 366 else 365) := by
  simp only [marchDay, isLeapYear]
  by_cases h4 : (year + 1) % 4 = 0 <;> by_cases h100 : (year + 1) % 100 = 0 <;>
    by_cases h400 : (year + 1) % 400 = 0 <;> simp [h4, h100, h400] <;> omega

theorem monthDay_spec {rest : Int} (h0 : 0 ≤ rest) (h1 : rest ≤ 365) :
    0 ≤ (5 * rest + 2) / 153 ∧ (5 * rest + 2) / 153 ≤ 11 ∧
      monthDay ((5 * rest + 2) / 153) ≤ rest ∧ rest < monthDay ((5 * rest + 2) / 153 + 1) := by
  simp only [monthDay]
  omega

theorem daysInMonth_from_march (year : Int) {month : Int} (h0 : 0 ≤ month) (h9 : month < 10) :
    (daysInMonth year (month + 3).toNat : Int) = monthDay (month + 1) - monthDay month := by
  interval_cases month <;> rfl

theorem daysInMonth_january (year : Int) :
    (daysInMonth year 1 : Int) = monthDay (10 + 1) - monthDay 10 := rfl

theorem daysInMonth_february (year : Int) :
    (daysInMonth year 2 : Int) = (if isLeapYear year then 366 else 365) - monthDay 11 := by
  simp only [daysInMonth, monthDay, if_true]
  split <;> rfl

def ofMarch (year month : Int) (day : Nat) : Date :=
  if month < 10 then ⟨year, (month + 3).toNat, day⟩ else ⟨year + 1, (month - 9).toNat, day⟩

theorem dayNumber_ofMarch (year : Int) {month : Int} (h0 : 0 ≤ month) (h11 : month ≤ 11)
    (day : Nat) :
    (ofMarch year month day).dayNumber = marchDay year + monthDay month + (day - 1) - marchEra := by
  by_cases hm : month < 10
  · have hn : ¬ (month + 3).toNat < 3 := by omega
    have hback : ((month + 3).toNat : Int) - 3 = month := by omega
    simp only [ofMarch, hm, dayNumber, hn, if_true, if_false, hback]
  · have hn : (month - 9).toNat < 3 := by omega
    have hback : ((month - 9).toNat : Int) + 9 = month := by omega
    simp only [ofMarch, hm, dayNumber, hn, if_true, if_false, hback, Int.add_sub_cancel]

theorem valid_ofMarch {year month rest : Int} (h0 : 0 ≤ month) (h11 : month ≤ 11)
    (hfrom : monthDay month ≤ rest) (hto : rest < monthDay (month + 1))
    (hyear : rest < if isLeapYear (year + 1) then 366 else 365) :
    (ofMarch year month (rest - monthDay month + 1).toNat).Valid := by
  by_cases hm : month < 10
  · have hdays := daysInMonth_from_march year h0 hm
    rw [ofMarch, if_pos hm]
    exact ⟨by dsimp only; omega, by dsimp only; omega, by dsimp only; omega, by dsimp only; omega⟩
  · rw [ofMarch, if_neg hm]
    obtain rfl | rfl : month = 10 ∨ month = 11 := by omega
    · have hdays := daysInMonth_january (year + 1)
      have hone : ((10 : Int) - 9).toNat = 1 := rfl
      exact ⟨by simp, by simp, by dsimp only; omega, by dsimp only; rw [hone]; omega⟩
    · have hdays := daysInMonth_february (year + 1)
      have htwo : ((11 : Int) - 9).toNat = 2 := rfl
      exact ⟨by simp, by simp, by dsimp only; omega, by dsimp only; rw [htwo]; omega⟩

theorem ofDayNumber_spec (day : Int) :
    (ofDayNumber day).Valid ∧ (ofDayNumber day).dayNumber = day := by
  obtain ⟨hlow, hhigh⟩ := marchYear_spec (day + marchEra)
  have hlong := marchDay_add_one (marchYear (day + marchEra))
  have hof : ofDayNumber day =
      let rest := day + marchEra - marchDay (marchYear (day + marchEra))
      let month := (5 * rest + 2) / 153
      ofMarch (marchYear (day + marchEra)) month (rest - monthDay month + 1).toNat := rfl
  rw [hof]
  generalize marchYear (day + marchEra) = year at *
  generalize hrest : day + marchEra - marchDay year = rest
  have hyear : rest < if isLeapYear (year + 1) then 366 else 365 := by omega
  have h365 : rest ≤ 365 := by
    split at hyear <;> omega
  obtain ⟨h0, h11, hfrom, hto⟩ := monthDay_spec (show 0 ≤ rest by omega) h365
  dsimp only
  generalize (5 * rest + 2) / 153 = month at *
  refine ⟨valid_ofMarch h0 h11 hfrom hto hyear, ?_⟩
  rw [dayNumber_ofMarch year h0 h11]
  omega

end LorawanRouting.Date
