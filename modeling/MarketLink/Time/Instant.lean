import MarketLink.Time.Calendar

set_option autoImplicit false

namespace MarketLink.Time

/-- A point in time, in universal time. -/
structure Instant where
  secs : Int
  nanos : Nat
  deriving Repr, DecidableEq

def epoch : Instant := ⟨0, 0⟩

def isInRange (secs : Int) : Bool := -8334601228800 ≤ secs && secs ≤ 8210266876799

def Instant.ofSeconds? (secs : Int) : Option Instant :=
  if isInRange secs then some ⟨secs, 0⟩ else none

/-- A day with a time of day; second 60 is a leap second. -/
structure Clock where
  date : Date
  hour : Nat
  minute : Nat
  second : Nat
  deriving Repr, DecidableEq

def Clock.isValid (c : Clock) : Bool :=
  c.date.isValid && c.hour < 24 && c.minute < 60 && c.second ≤ 60

/-- The instant at which a clock `offset` seconds ahead of universal time shows this, when it is in
range. -/
def Clock.instant? (c : Clock) (offset : Int) : Option Instant :=
  let secs := c.date.dayNumber * 86400 + c.hour * 3600 + c.minute * 60 + min c.second 59 - offset
  if isInRange secs then some ⟨secs, if c.second = 60 then 1000000000 else 0⟩ else none

/-- What a clock in universal time shows; the part of a second is dropped. -/
def Instant.clock (t : Instant) : Clock :=
  let time := (t.secs % 86400).toNat
  { date := Date.ofDayNumber (t.secs / 86400)
    hour := time / 3600
    minute := time / 60 % 60
    second := time % 60 + t.nanos / 1000000000 }

def padded (width n : Nat) : String :=
  let digits := Nat.toDigits 10 n
  String.ofList (List.replicate (width - digits.length) '0' ++ digits)

/-- A year in at least four digits, with a sign when it is negative or has more. -/
def yearText (year : Int) : String :=
  if year < 0 then "-" ++ padded 4 year.natAbs
  else if 9999 < year then "+" ++ padded 4 year.natAbs
  else padded 4 year.natAbs

def Clock.timeText (c : Clock) : String :=
  padded 2 c.hour ++ ":" ++ padded 2 c.minute ++ ":" ++ padded 2 c.second

/-- The form of times in requests: `yyyymmdd-hh:mm:ss`, in universal time. -/
def Instant.stamp (t : Instant) : String :=
  let c := t.clock
  yearText c.date.year ++ padded 2 c.date.month ++ padded 2 c.date.day ++ "-" ++ c.timeText

/-- The form of times for people: `yyyy-mm-dd hh:mm:ss UTC`. -/
def Instant.display (t : Instant) : String :=
  let c := t.clock
  yearText c.date.year ++ "-" ++ padded 2 c.date.month ++ "-" ++ padded 2 c.date.day ++ " " ++
    c.timeText ++ " UTC"

end MarketLink.Time
