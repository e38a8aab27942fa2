
set_option autoImplicit false

namespace MarketLink.Number

/-- A decimal: a whole number of tenths, hundredths, ... as the exponent says. -/
structure Digits where
  digits : Nat
  exponent : Int
  deriving Repr, DecidableEq

/-- A positive binary fraction and the reals nearer to it than to its neighbours, all over one
denominator; the ends of that interval belong to it when `closed`. -/
structure Interval where
  low : Nat
  value : Nat
  high : Nat
  denominator : Nat
  closed : Bool

/-- The interval of `mantissa * 2 ^ exponent`; the neighbour below is half as far away when
`narrow`. -/
def Interval.ofBinary (mantissa : Nat) (exponent : Int) (narrow : Bool) : Interval :=
  let up := Nat.pow 2 exponent.toNat
  { low := (4 * mantissa - (if narrow then 1 else 2)) * up
    value := 4 * mantissa * up
    high := (4 * mantissa + 2) * up
    denominator := 4 * Nat.pow 2 (-exponent).toNat
    closed := mantissa % 2 == 0 }

/-- How many digits a number has in front of its point; zero or less below one tenth. The shift by
400 places makes every positive double a whole number with digits. -/
def Interval.magnitude (i : Interval) : Int :=
  ((Nat.toDigits 10 (i.value * Nat.pow 10 400 / i.denominator)).length : Int) - 400

/-- The point `n` over `unit` lies in the interval scaled by `scale`. -/
def Interval.admits (i : Interval) (n unit scale : Nat) : Bool :=
  if i.closed then i.low * scale ≤ n * unit && n * unit ≤ i.high * scale
  else i.low * scale < n * unit && n * unit < i.high * scale

def Interval.decimalOfCount (i : Interval) (magnitude : Int) (count : Nat) : Option Digits :=
  let place := magnitude - count
  let scale := Nat.pow 10 (-place).toNat
  let unit := i.denominator * Nat.pow 10 place.toNat
  let below := i.value * scale / unit
  match i.admits below unit scale, i.admits (below + 1) unit scale with
  | true, true =>
    if 2 * (i.value * scale - below * unit) < unit then some ⟨below, place⟩
    else some ⟨below + 1, place⟩
  | true, false => some ⟨below, place⟩
  | false, true => some ⟨below + 1, place⟩
  | false, false => none

/-- Moves zeros at the end of the digits into the exponent; `fuel` bounds how many. -/
def Digits.strip : Nat → Digits → Digits
  | 0, d => d
  | fuel + 1, d =>
    if d.digits % 10 = 0 ∧ d.digits ≠ 0 then strip fuel ⟨d.digits / 10, d.exponent + 1⟩ else d

/-- The shortest decimal of the interval; seventeen digits always suffice for a double. -/
def Interval.shortest (i : Interval) : Digits :=
  let magnitude := i.magnitude
  (((List.range' 1 17).findSome? (i.decimalOfCount magnitude)).getD ⟨0, 0⟩).strip 18

end MarketLink.Number
