import MarketLink.Time.Instant
import Mathlib.Tactic.IntervalCases

set_option autoImplicit false

namespace MarketLink.Time

theorem isLeapYear_iff {year : Int} :
    isLeapYear year = true ↔ year % 4 = 0 ∧ (year % 100 ≠ 0 ∨ year % 400 = 0) := by
  simp [isLeapYear]

theorem daysBeforeMarch_succ (year : Int) :
    daysBeforeMarch (year + 1) =
      daysBeforeMarch year + (if isLeapYear (year + 1) then 366 else 365) := by
  unfold daysBeforeMarch
  by_cases leap : isLeapYear (year + 1) = true
  · rw [if_pos leap]
    rw [isLeapYear_iff] at leap
    omega
  · rw [if_neg leap]
    rw [isLeapYear_iff] at leap
    omega

theorem daysBeforeMarch_cycle (year cycle : Int) :
    daysBeforeMarch (year + 400 * cycle) = daysBeforeMarch year + 146097 * cycle := by
  unfold daysBeforeMarch
  omega

theorem daysBeforeMarch_bounds {day year : Int} (low : 0 ≤ day) (high : day < 146097)
    (same : year = (day - day / 1460 + day / 36524 - day / 146096) / 365) :
    daysBeforeMarch year ≤ day ∧ day < daysBeforeMarch (year + 1) := by
  have first : 0 ≤ year := by omega
  have last : year ≤ 399 := by omega
  unfold daysBeforeMarch
  -- each quotient of the year is that of the days or one less; the few cases left are linear
  obtain ⟨fours, four⟩ : ∃ fours, fours = day / 1460 := ⟨_, rfl⟩
  obtain ⟨hundreds, hundred⟩ : ∃ hundreds, hundreds = day / 36524 := ⟨_, rfl⟩
  obtain ⟨wholes, whole⟩ : ∃ wholes, wholes = day / 146096 := ⟨_, rfl⟩
  obtain ⟨q, leaps⟩ : ∃ q, q = year / 4 := ⟨_, rfl⟩
  obtain ⟨c, centuries⟩ : ∃ c, c = year / 100 := ⟨_, rfl⟩
  obtain ⟨q', nextLeaps⟩ : ∃ q', q' = (year + 1) / 4 := ⟨_, rfl⟩
  obtain ⟨c', nextCenturies⟩ : ∃ c', c' = (year + 1) / 100 := ⟨_, rfl⟩
  obtain ⟨w', nextWhole⟩ : ∃ w', w' = (year + 1) / 400 := ⟨_, rfl⟩
  have begun : year / 400 = 0 := by omega
  rw [← four, ← hundred, ← whole] at same
  rw [← leaps, ← centuries, begun, ← nextLeaps, ← nextCenturies, ← nextWhole]
  have century : hundreds = 0 ∨ hundreds = 1 ∨ hundreds = 2 ∨ hundreds = 3 ∨ hundreds = 4 := by
    omega
  have lastDay : wholes = 0 ∨ wholes = 1 := by omega
  have near : q = fours ∨ q = fours - 1 := by omega
  have nearCentury : c = hundreds ∨ c = hundreds - 1 := by omega
  have step : q' = q ∨ q' = q + 1 := by omega
  have stepCentury : c' = c ∨ c' = c + 1 := by omega
  have stepCycle : w' = 0 ∨ w' = 1 := by omega
  constructor
  · omega
  · omega

def Date.ofMarch (year day : Int) : Date :=
  let index := (5 * day + 2) / 153
  let dayOfMonth := day - daysBeforeMonth index + 1
  if index < 10 then ⟨year, (index + 3).toNat, dayOfMonth.toNat⟩
  else ⟨year + 1, (index - 9).toNat, dayOfMonth.toNat⟩

def InYear (year day : Int) : Prop :=
  0 ≤ day ∧ day < if isLeapYear (year + 1) then 366 else 365

theorem InYear.le {year day : Int} (inside : InYear year day) : 0 ≤ day ∧ day ≤ 365 := by
  obtain ⟨low, high⟩ := inside
  split at high <;> omega

theorem ofDayNumber_eq (number : Int) :
    ∃ year day, number + 719468 = daysBeforeMarch year + day ∧ InYear year day ∧
      Date.ofDayNumber number = Date.ofMarch year day := by
  obtain ⟨dayOfCycle, place⟩ : ∃ day, day = (number + 719468) % 146097 := ⟨_, rfl⟩
  obtain ⟨year, same⟩ : ∃ year, year =
    (dayOfCycle - dayOfCycle / 1460 + dayOfCycle / 36524 - dayOfCycle / 146096) / 365 := ⟨_, rfl⟩
  let cycle := (number + 719468) / 146097
  have whole : number + 719468 = dayOfCycle + 146097 * cycle := by omega
  have low : 0 ≤ dayOfCycle := by omega
  have high : dayOfCycle < 146097 := by omega
  obtain ⟨begun, ended⟩ := daysBeforeMarch_bounds low high same
  have length := daysBeforeMarch_succ (year + 400 * cycle)
  have next : year + 400 * cycle + 1 = year + 1 + 400 * cycle := by omega
  rw [next, daysBeforeMarch_cycle, daysBeforeMarch_cycle, ← next] at length
  refine ⟨year + 400 * cycle, dayOfCycle - daysBeforeMarch year, ?_, ⟨by omega, by omega⟩, ?_⟩
  · rw [daysBeforeMarch_cycle, whole]
    omega
  · unfold Date.ofDayNumber Date.ofMarch
    dsimp only
    rw [← place, ← same]

theorem dayNumber_ofMarch {year day : Int} (inside : InYear year day) :
    (Date.ofMarch year day).dayNumber = daysBeforeMarch year + day - 719468 := by
  obtain ⟨low, high⟩ := inside.le
  unfold Date.ofMarch Date.dayNumber daysBeforeMonth
  dsimp only
  obtain ⟨index, month⟩ : ∃ index, index = (5 * day + 2) / 153 := ⟨_, rfl⟩
  rw [← month]
  by_cases late : index < 10
  · rw [if_pos late]
    have march : ¬(index + 3).toNat ≤ 2 := by omega
    have back : ((index + 3).toNat : Int) - 3 = index := by omega
    dsimp only
    rw [if_neg march, if_neg march, back]
    omega
  · rw [if_neg late]
    have early : (index - 9).toNat ≤ 2 := by omega
    have back : ((index - 9).toNat : Int) + 9 = index := by omega
    dsimp only
    rw [if_pos early, if_pos early, back, Int.add_sub_cancel]
    omega

theorem dayNumber_ofDayNumber (number : Int) : (Date.ofDayNumber number).dayNumber = number := by
  obtain ⟨year, day, whole, inside, same⟩ := ofDayNumber_eq number
  rw [same, dayNumber_ofMarch inside]
  omega

structure Date.Exists (date : Date) : Prop where
  first : 1 ≤ date.day
  last : date.day ≤ daysInMonth date.year date.month

/-- From March to December months are as long as the rule for their first days says. -/
theorem daysInMonth_of_early (year : Int) {index : Int} (low : 0 ≤ index) (high : index < 10) :
    (daysInMonth year (index + 3).toNat : Int) =
      daysBeforeMonth (index + 1) - daysBeforeMonth index := by
  interval_cases index <;> rfl

theorem exists_ofMarch {year day : Int} (inside : InYear year day) :
    (Date.ofMarch year day).Exists := by
  obtain ⟨low, high⟩ := inside.le
  obtain ⟨-, last⟩ := inside
  obtain ⟨index, month⟩ : ∃ index, index = (5 * day + 2) / 153 := ⟨_, rfl⟩
  have begun : daysBeforeMonth index ≤ day := by
    unfold daysBeforeMonth
    omega
  have ended : day < daysBeforeMonth (index + 1) := by
    unfold daysBeforeMonth
    omega
  unfold Date.ofMarch
  dsimp only
  rw [← month]
  by_cases early : index < 10
  · rw [if_pos early]
    have length := daysInMonth_of_early year (by omega) early
    constructor
    · dsimp only
      omega
    · dsimp only
      omega
  · rw [if_neg early]
    have winter : index = 10 ∨ index = 11 := by omega
    rcases winter with rfl | rfl
    · have january : daysInMonth (year + 1) (10 - 9 : Int).toNat = 31 := rfl
      have length : daysBeforeMonth (10 + 1) = daysBeforeMonth 10 + 31 := rfl
      constructor
      · dsimp only
        omega
      · dsimp only
        omega
    · have february : daysInMonth (year + 1) (11 - 9 : Int).toNat =
          if isLeapYear (year + 1) then 29 else 28 := rfl
      have length : daysBeforeMonth 11 = 337 := rfl
      constructor
      · dsimp only
        omega
      · dsimp only
        rw [february]
        cases leap : isLeapYear (year + 1) with
        | true =>
          simp only [leap, ↓reduceIte] at last ⊢
          omega
        | false =>
          simp only [leap, Bool.false_eq_true, ↓reduceIte] at last ⊢
          omega

theorem exists_ofDayNumber (number : Int) : (Date.ofDayNumber number).Exists := by
  obtain ⟨year, day, -, inside, same⟩ := ofDayNumber_eq number
  exact same ▸ exists_ofMarch inside

theorem Date.Exists.month_le {date : Date} (here : date.Exists) : date.month ≤ 12 := by
  have first := here.first
  have last := here.last
  unfold daysInMonth at last
  split at last <;> omega

theorem daysInMonth_le (year : Int) (month : Nat) : daysInMonth year month ≤ 31 := by
  unfold daysInMonth
  split
  case h_12 => split <;> decide
  all_goals decide

theorem Date.Exists.day_le {date : Date} (here : date.Exists) : date.day ≤ 31 :=
  here.last.trans (daysInMonth_le _ _)

theorem Date.Exists.isValid {date : Date} (here : date.Exists) (low : leastYear ≤ date.year)
    (high : date.year ≤ greatestYear) : date.isValid = true := by
  simp only [Date.isValid, Bool.and_eq_true, decide_eq_true_eq]
  exact ⟨⟨⟨low, high⟩, here.first⟩, here.last⟩

end MarketLink.Time
