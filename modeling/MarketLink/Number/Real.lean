import MarketLink.Number.Shortest
import MarketLink.Number.Whole

set_option autoImplicit false

namespace MarketLink.Number

def infinity : Float := Float.ofBits 0x7FF0000000000000

def notANumber : Float := Float.ofBits 0x7FF8000000000000

def isNegative (x : Float) : Bool := x.toBits >>> 63 == 1

def exponentBits (x : Float) : Nat := ((x.toBits >>> 52) &&& 0x7FF).toNat

def leadingBit : Nat := 4503599627370496

def fractionBits (x : Float) : Nat := (x.toBits &&& 0xFFFFFFFFFFFFF).toNat

def shortestDigits (x : Float) : Digits :=
  let e := exponentBits x
  let f := fractionBits x
  if e = 0 then
    if f = 0 then ⟨0, 0⟩ else (Interval.ofBinary f (-1074) false).shortest
  else (Interval.ofBinary (f + leadingBit) ((e : Int) - 1075) (f == 0 && decide (1 < e))).shortest

def zeros (n : Nat) : String := String.ofList (List.replicate n '0')

/-- Digits with a point in its place and no exponent; whole numbers end in `wholeEnd`. -/
def positional (wholeEnd : String) (d : Digits) : String :=
  let text := Nat.toDigits 10 d.digits
  let point : Int := (text.length : Int) + d.exponent
  if point ≤ 0 then "0." ++ zeros (-point).toNat ++ String.ofList text
  else if (text.length : Int) ≤ point then
    String.ofList text ++ zeros d.exponent.toNat ++ wholeEnd
  else
    String.ofList (text.take point.toNat) ++ "." ++ String.ofList (text.drop point.toNat)

/-- One digit, a point if more follow, and the exponent of ten. -/
def scientific (d : Digits) : String :=
  let text := Nat.toDigits 10 d.digits
  let power : Int := (text.length : Int) - 1 + d.exponent
  let rest := String.ofList (text.drop 1)
  String.ofList (text.take 1) ++ (if rest.isEmpty then "" else "." ++ rest) ++ "e" ++
    wholeText power

def realTextWith (finite : Float → String) (x : Float) : String :=
  if x.isNaN then "NaN"
  else (if isNegative x then "-" else "") ++ (if x.isFinite then finite x else "inf")

/-- The plain text of a double: no exponent, and no point in whole numbers. -/
def realText (x : Float) : String :=
  realTextWith (fun x => positional "" (shortestDigits x)) x

/-- The detailed text of a double: a point in whole numbers, and an exponent from `1e16` up and
below `1e-4`. -/
def realDetailedText (x : Float) : String :=
  realTextWith
    (fun x =>
      let magnitude := x.abs
      if 1e16 ≤ magnitude || (magnitude != 0 && magnitude < 1e-4) then
        scientific (shortestDigits x)
      else positional ".0" (shortestDigits x))
    x

def digitsValue (cs : List Char) : Nat := cs.foldl (fun n c => n * 10 + digitValue c) 0

/-- The double nearest to `digits * 10 ^ exponent`. Beyond 310 places in front of the point that is
infinity, and beyond 330 behind it zero, so the power need not be formed. -/
def nearestDouble (digits : Nat) (exponent : Int) : Float :=
  let magnitude := ((Nat.toDigits 10 digits).length : Int) + exponent
  if digits = 0 || magnitude < -330 then 0
  else if 310 < magnitude then infinity
  else Float.ofScientific digits (exponent < 0) exponent.natAbs

/-- The exponent behind the digits: nothing, or `e`, an optional sign and digits. -/
def readExponent? : List Char → Option Int
  | [] => some 0
  | c :: rest =>
    if c = 'e' ∨ c = 'E' then
      let (negative, digits) :=
        match rest with
        | '-' :: ds => (true, ds)
        | '+' :: ds => (false, ds)
        | ds => (false, ds)
      if digits.isEmpty || !digits.all Char.isDigit then none
      else some (if negative then -(digitsValue digits : Int) else digitsValue digits)
    else none

/-- Digits with an optional point among them and an optional exponent, as the nearest double. -/
def readMagnitude? (cs : List Char) : Option Float :=
  let whole := cs.takeWhile Char.isDigit
  let afterWhole := cs.dropWhile Char.isDigit
  let (fraction, rest) :=
    match afterWhole with
    | '.' :: more => (more.takeWhile Char.isDigit, more.dropWhile Char.isDigit)
    | _ => ([], afterWhole)
  if whole.isEmpty && fraction.isEmpty then none
  else (readExponent? rest).map fun exponent =>
    nearestDouble (digitsValue (whole ++ fraction)) (exponent - fraction.length)

/-- Reads a double: an optional sign, then a name of infinity or of no number in any case of
letters, or a decimal. -/
def readReal? (s : String) : Option Float :=
  let (negative, cs) :=
    match s.toList with
    | '-' :: cs => (true, cs)
    | '+' :: cs => (false, cs)
    | cs => (false, cs)
  let name := String.ofList (cs.map Char.toLower)
  let magnitude :=
    if name = "inf" ∨ name = "infinity" then some infinity
    else if name = "nan" then some notANumber
    else readMagnitude? cs
  magnitude.map fun x => if negative then -x else x

end MarketLink.Number
