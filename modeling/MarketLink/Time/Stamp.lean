import MarketLink.Number.Whole
import MarketLink.Text.Blank
import MarketLink.Time.Instant

set_option autoImplicit false

namespace MarketLink.Time

open MarketLink.Text MarketLink.Number

/-- The number in front of the text, of at least one digit and at most `width`, and what follows. -/
def readDigitsUpTo (width : Nat) (cs : List Char) : Option (Nat × List Char) :=
  let digits := (cs.take width).takeWhile Char.isDigit
  if digits.isEmpty then none
  else some (digits.foldl (fun n c => n * 10 + digitValue c) 0, cs.drop digits.length)

/-- A number of up to two digits behind any blanks. -/
def readPair (cs : List Char) : Option (Nat × List Char) := readDigitsUpTo 2 (skipBlanks cs)

/-- A year behind any blanks: up to four digits, or a sign and any number of digits. -/
def readYear (cs : List Char) : Option (Int × List Char) :=
  match skipBlanks cs with
  | '-' :: rest => (readDigitsUpTo rest.length rest).map fun (n, after) => (-(n : Int), after)
  | '+' :: rest => (readDigitsUpTo rest.length rest).map fun (n, after) => ((n : Int), after)
  | rest => (readDigitsUpTo 4 rest).map fun (n, after) => ((n : Int), after)

def readColon : List Char → Option (List Char)
  | ':' :: rest => some rest
  | _ => none

def readDate (cs : List Char) : Option (Date × List Char) := do
  let (year, cs) ← readYear cs
  let (month, cs) ← readPair cs
  let (day, cs) ← readPair cs
  some (⟨year, month, day⟩, cs)

/-- A day, blanks and a time of day that make up the whole text and exist. -/
def readClock (cs : List Char) : Option Clock := do
  let (date, cs) ← readDate cs
  let (hour, cs) ← readPair (skipBlanks cs)
  let (minute, cs) ← readPair (← readColon cs)
  let (second, cs) ← readPair (← readColon cs)
  let clock : Clock := ⟨date, hour, minute, second⟩
  if cs.isEmpty && clock.isValid then some clock else none

def readMidnight (cs : List Char) : Option Clock := do
  let (date, cs) ← readDate cs
  if cs.isEmpty && date.isValid then some ⟨date, 0, 0, 0⟩ else none

/-- Digits alone: eight of them are a day, any other count is seconds from the epoch. -/
def readDigitStamp (offset : Int) (cs : List Char) : Option Instant :=
  if cs.length = 8 then (readMidnight cs).bind fun clock => clock.instant? offset
  else match readWhole int64 (String.ofList cs) with
    | .ok secs => Instant.ofSeconds? secs
    | .error _ => none

def isUniversalZone (zone : List Char) : Bool := zone == "UTC".toList || zone == "GMT".toList

/-- A day, a time of day and an optional zone, as words; further words are left aside. -/
def readWordStamp (offset : Int) (cs : List Char) : Option Instant :=
  match words cs with
  | date :: time :: zone =>
    (readClock (date ++ ' ' :: time)).bind fun clock =>
      clock.instant? (if (zone.head?.map isUniversalZone).getD false then 0 else offset)
  | _ => none

/-- Reads a time field; `offset` is in seconds east of universal time. -/
def readStamp (offset : Int) (token : String) : Option Instant :=
  let cs := trimBlanks token.toList
  if cs.isEmpty then none
  else if cs.all Char.isDigit then readDigitStamp offset cs
  else
    match cs.span (· ≠ '-') with
    | (date, '-' :: time) =>
      if (String.ofList date).utf8ByteSize = 8 ∧ !time.contains ' ' then
        (readClock (date ++ ' ' :: time)).bind fun clock => clock.instant? 0
      else readWordStamp offset cs
    | _ => readWordStamp offset cs

end MarketLink.Time
