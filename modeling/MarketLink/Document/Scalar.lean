import MarketLink.Document.Token
import MarketLink.Number.Real
import MarketLink.Time.Calendar

set_option autoImplicit false

namespace MarketLink.Document

open Reader Number Time

def isDigit (c : Char) : Bool := c.isDigit

/-- Underscores stand only between two digits, given whether the character before was a digit. -/
def underscoresInside : Bool → List Char → Bool
  | afterDigit, [] => afterDigit
  | afterDigit, c :: rest =>
    if c == '_' then afterDigit && underscoresInside false rest else underscoresInside true rest

def digitRun (holds : Char → Bool) : Reader (List Char) := do
  let cs ← run fun c => holds c || c == '_'
  if underscoresInside false cs then return cs.filter (· != '_') else refuse

def sign : Reader (List Char) := do
  if ← accept ['-'] then return ['-']
  else
    let _ ← accept ['+']
    return []

def decimalDigits : Reader (List Char) := do
  match ← digitRun isDigit with
  | '0' :: _ :: _ => refuse
  | cs => return cs

def wholeOf (number : Int) : Reader Value :=
  if int64.Holds number then return .whole number else refuse

/-- A whole number with digits of a base behind its mark. -/
def wholeIn (mark : Char) (base : Nat) (holds : Char → Bool) : Reader Value := do
  exactly ['0', mark]
  wholeOf (digitsIn base (← digitRun holds))

def decimalWhole : Reader Value := do
  let negative := !(← sign).isEmpty
  let magnitude := digitsIn 10 (← decimalDigits)
  wholeOf (if negative then -(magnitude : Int) else magnitude)

def whole : Reader Value :=
  wholeIn 'x' 16 isHexDigit <|> wholeIn 'o' 8 (fun c => '0' ≤ c && c ≤ '7') <|>
    wholeIn 'b' 2 (fun c => c == '0' || c == '1') <|> decimalWhole

def fraction : Reader (List Char) := do
  exactly ['.']
  return '.' :: (← digitRun isDigit)

def exponent : Reader (List Char) := do
  let mark ← next
  if mark == 'e' || mark == 'E' then
    let sign ← sign
    return 'e' :: sign ++ (← digitRun isDigit)
  else refuse

/-- A number with a fraction or an exponent; one beyond all doubles is refused when it is
positive. -/
def decimalReal : Reader Value := do
  let sign ← sign
  let digits ← decimalDigits
  let fraction ← optional fraction
  let exponent ← optional exponent
  if fraction.isNone && exponent.isNone then refuse
  else
    let text := sign ++ digits ++ fraction.getD [] ++ exponent.getD []
    match readReal? (String.ofList text) with
    | some x => if x == infinity then refuse else return .real x
    | none => refuse

def namedReal : Reader Value := do
  let negative := !(← sign).isEmpty
  let magnitude ←
    (do exactly ['i', 'n', 'f']; return infinity) <|>
      (do exactly ['n', 'a', 'n']; return notANumber)
  return .real (if negative then -magnitude else magnitude)

def digitsBetween (width least greatest : Nat) : Reader Nat := do
  let n := digitsIn 10 (← count isDigit width)
  if least ≤ n && n ≤ greatest then return n else refuse

def day : Reader Unit := do
  let year ← digitsBetween 4 0 9999
  exactly ['-']
  let month ← digitsBetween 2 1 12
  exactly ['-']
  let _ ← digitsBetween 2 1 (daysInMonth year month)

def timeOfDay : Reader Unit := do
  let _ ← digitsBetween 2 0 23
  exactly [':']
  let _ ← digitsBetween 2 0 59
  exactly [':']
  let _ ← digitsBetween 2 0 60
  let _ ← optional (do
    exactly ['.']
    match ← run isDigit with
    | [] => refuse
    | _ => return ())

def timeOffset : Reader Unit := do
  let c ← next
  if c == 'Z' || c == 'z' then return ()
  else if c == '+' || c == '-' then
    let _ ← digitsBetween 2 0 23
    exactly [':']
    let _ ← digitsBetween 2 0 59
  else refuse

def dayAndTime : Reader Unit := do
  day
  let _ ← optional (do
    let c ← next
    if c == 'T' || c == 't' || c == ' ' then
      timeOfDay
      let _ ← optional timeOffset
    else refuse)

def moment : Reader Value := do
  return .moment (String.ofList (← taken (dayAndTime <|> timeOfDay)))

def scalar : Reader Value := do
  match ← peek with
  | some 't' => do
    exactly ['t', 'r', 'u', 'e']
    return .flag true
  | some 'f' => do
    exactly ['f', 'a', 'l', 's', 'e']
    return .flag false
  | some c =>
    if c == '"' || c == '\x27' then return .text (← quotedText)
    else moment <|> decimalReal <|> namedReal <|> whole
  | none => refuse

end MarketLink.Document
