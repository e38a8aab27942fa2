
set_option autoImplicit false

namespace MarketLink.Time

structure Date where
  year : Int
  month : Nat
  day : Nat
  deriving Repr, DecidableEq

def isLeapYear (year : Int) : Bool := year % 4 == 0 && (year % 100 != 0 || year % 400 == 0)

def daysInMonth (year : Int) (month : Nat) : Nat :=
  match month with
  | 1 | 3 | 5 | 7 | 8 | 10 | 12 => 31
  | 4 | 6 | 9 | 11 => 30
  | 2 => if isLeapYear year then 29 else 28
  | _ => 0

def leastYear : Int := -262143

def greatestYear : Int := 262142

def Date.isValid (d : Date) : Bool :=
  leastYear ≤ d.year && d.year ≤ greatestYear && 1 ≤ d.day && d.day ≤ daysInMonth d.year d.month

def daysBeforeMarch (year : Int) : Int := 365 * year + year / 4 - year / 100 + year / 400

def daysBeforeMonth (index : Int) : Int := (153 * index + 2) / 5

def Date.dayNumber (d : Date) : Int :=
  let early := d.month ≤ 2
  let year := if early then d.year - 1 else d.year
  let index : Int := if early then d.month + 9 else d.month - 3
  daysBeforeMarch year + daysBeforeMonth index + d.day - 1 - 719468

def Date.ofDayNumber (number : Int) : Date :=
  let shifted := number + 719468
  let cycle := shifted / 146097
  let dayOfCycle := shifted % 146097
  let yearOfCycle :=
    (dayOfCycle - dayOfCycle / 1460 + dayOfCycle / 36524 - dayOfCycle / 146096) / 365
  let dayOfYear := dayOfCycle - daysBeforeMarch yearOfCycle
  let index := (5 * dayOfYear + 2) / 153
  let day := dayOfYear - daysBeforeMonth index + 1
  let year := yearOfCycle + 400 * cycle
  if index < 10 then ⟨year, (index + 3).toNat, day.toNat⟩
  else ⟨year + 1, (index - 9).toNat, day.toNat⟩

end MarketLink.Time
