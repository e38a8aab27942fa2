import MarketLink.Number.Whole

set_option autoImplicit false

namespace MarketLink.Number

def mantissaLimit : Nat := 79228162514264337593543950336

/-- A decimal `± mantissa / 10 ^ scale`. A zero may have a sign, which does not count. -/
structure Decimal where
  negative : Bool
  mantissa : Nat
  scale : Nat
  mantissa_lt : mantissa < mantissaLimit
  scale_le : scale ≤ 28
  deriving DecidableEq

namespace Decimal

/-- The decimal with these parts, when there is room for them; a zero is made without a sign. -/
def make? (negative : Bool) (mantissa scale : Nat) : Option Decimal :=
  if h : mantissa < mantissaLimit ∧ scale ≤ 28 then
    some ⟨negative && mantissa != 0, mantissa, scale, h.1, h.2⟩
  else none

def zero : Decimal := ⟨false, 0, 0, by decide, by decide⟩

instance : Inhabited Decimal := ⟨zero⟩

def sameNumber (a b : Decimal) : Bool :=
  (a.negative == b.negative || a.mantissa == 0) &&
    a.mantissa * Nat.pow 10 b.scale == b.mantissa * Nat.pow 10 a.scale

/-- Divides out factors of ten while places are left: the last mantissa and the places left. -/
def stripped : Nat → Nat → Nat × Nat
  | mantissa, 0 => (mantissa, 0)
  | mantissa, scale + 1 =>
    if mantissa % 10 = 0 then stripped (mantissa / 10) scale else (mantissa, scale + 1)

theorem stripped_fst_le (mantissa scale : Nat) : (stripped mantissa scale).1 ≤ mantissa := by
  fun_induction stripped mantissa scale with
  | case1 => exact Nat.le_refl _
  | case2 _ _ _ ih => omega
  | case3 => exact Nat.le_refl _

theorem stripped_snd_le (mantissa scale : Nat) : (stripped mantissa scale).2 ≤ scale := by
  fun_induction stripped mantissa scale with
  | case1 => exact Nat.le_refl _
  | case2 _ _ _ ih => omega
  | case3 => exact Nat.le_refl _

theorem stripped_fst_eq_zero_iff (mantissa scale : Nat) :
    (stripped mantissa scale).1 = 0 ↔ mantissa = 0 := by
  fun_induction stripped mantissa scale with
  | case1 => rfl
  | case2 _ _ h ih => omega
  | case3 => rfl

/-- The same number without zeros at the end of its places, and without the sign of a zero. -/
def normalized (d : Decimal) : Decimal where
  negative := d.negative && d.mantissa != 0
  mantissa := (stripped d.mantissa d.scale).1
  scale := (stripped d.mantissa d.scale).2
  mantissa_lt := Nat.lt_of_le_of_lt (stripped_fst_le _ _) d.mantissa_lt
  scale_le := Nat.le_trans (stripped_snd_le _ _) d.scale_le

/-- Digits of the mantissa, with zeros in front so that at least one stands before the point. -/
def paddedDigits (d : Decimal) : List Char :=
  let digits := Nat.toDigits 10 d.mantissa
  List.replicate (d.scale + 1 - digits.length) '0' ++ digits

/-- The text of a decimal, with exactly `scale` digits behind the point. -/
def text (d : Decimal) : String :=
  let digits := d.paddedDigits
  let whole := digits.length - d.scale
  String.ofList
    ((if d.negative then ['-'] else []) ++ digits.take whole ++
      (if d.scale = 0 then [] else '.' :: digits.drop whole))

/-- Rounds at the first digit for which there is no room; a carry out of the mantissa costs a
place. -/
def rounded? (negative : Bool) (mantissa scale : Nat) (dropped : Char) : Option Decimal :=
  let nearest := if 5 ≤ digitValue dropped then mantissa + 1 else mantissa
  if nearest < mantissaLimit then make? negative nearest scale
  else if scale = 0 then none
  else make? negative ((nearest + 4) / 10) (scale - 1)

/-- A character that may stand among digits that are rounded away. -/
def isDroppable (c : Char) : Bool := c.isDigit || c == '_'

/-- The least mantissa that is too wide for a machine word of 64 bits, which takes one more digit
while it holds less than 1844674407370954906, a tenth of its range less 255. -/
def wideMantissa : Nat := 18446744073709549060

/-- An underscore right behind the last of 28 places stands where the first dropped digit is looked
for. Behind a mantissa that fits a word it counts as a zero there, so that nothing is rounded up;
behind a wide one the next digit is looked at. -/
def gapEndsPlaces (mantissa scale : Nat) (point : Bool) : Bool :=
  point && scale == 28 && decide (mantissa < wideMantissa)

/-- Reads the characters behind the sign; `point` and `digit` say whether a point and a digit have
been read. -/
def readPlainFrom (negative : Bool) (mantissa scale : Nat) (point digit : Bool) :
    List Char → Option Decimal
  | [] => if digit then make? negative mantissa scale else none
  | c :: rest =>
    if c.isDigit then
      let next := mantissa * 10 + digitValue c
      if point && (scale == 28 || decide (mantissaLimit ≤ next)) then
        if rest.all isDroppable then rounded? negative mantissa scale c else none
      else if mantissaLimit ≤ next then none
      else readPlainFrom negative next (if point then scale + 1 else 0) point true rest
    else if c = '.' then
      if point then none else readPlainFrom negative mantissa scale true digit rest
    else if c = '_' then
      if !digit then none
      else if gapEndsPlaces mantissa scale point then
        if rest.all isDroppable then make? negative mantissa scale else none
      else readPlainFrom negative mantissa scale point digit rest
    else none

/-- Reads the plain form: an optional sign, digits with at most one point, and underscores anywhere
behind the first digit. -/
def readPlain? (cs : List Char) : Option Decimal :=
  match cs with
  | '-' :: rest => readPlainFrom true 0 0 false false rest
  | '+' :: rest => readPlainFrom false 0 0 false false rest
  | _ => readPlainFrom false 0 0 false false cs

def readPower? (cs : List Char) : Option Nat :=
  match readWhole nat32 (String.ofList cs) with
  | .ok n => if n ≤ 28 then some n.toNat else none
  | .error _ => none

/-- The exponent of ten behind the letter: its sign and size. A size above 28 is only of use when it
merely takes places away, and no decimal has that many. -/
def readPowerSign? (cs : List Char) : Option (Bool × Nat) :=
  match cs with
  | '-' :: rest => (readPower? rest).map (true, ·)
  | _ => (readPower? cs).map (false, ·)

/-- The decimal times a power of ten, written with as few places as that leaves. -/
def shifted? (d : Decimal) (down : Bool) (power : Nat) : Option Decimal :=
  if down then make? d.negative d.mantissa (d.scale + power)
  else if power ≤ d.scale then make? d.negative d.mantissa (d.scale - power)
  else make? d.negative (d.mantissa * Nat.pow 10 (power - d.scale)) 0

def isPowerLetter (c : Char) : Bool := c == 'e' || c == 'E'

/-- Reads a decimal: the plain form, and with a letter `e` in it the plain form times a power of
ten. -/
def read? (s : String) : Option Decimal :=
  let cs := s.toList
  match cs.dropWhile fun c => !isPowerLetter c with
  | [] => readPlain? cs
  | _ :: power => do
    let base ← readPlain? (cs.takeWhile fun c => !isPowerLetter c)
    let (down, size) ← readPowerSign? power
    base.shifted? down size

end Decimal

end MarketLink.Number
