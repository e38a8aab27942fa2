
set_option autoImplicit false

namespace MarketLink.Number

/-- Why a text is not a whole number of a range. -/
inductive WholeFault where
  | empty
  | invalidDigit
  | tooLarge
  | tooSmall
  deriving Repr, DecidableEq

def WholeFault.message : WholeFault → String
  | .empty => "cannot parse integer from empty string"
  | .invalidDigit => "invalid digit found in string"
  | .tooLarge => "number too large to fit in target type"
  | .tooSmall => "number too small to fit in target type"

/-- The least and the greatest number of a range, which holds zero. -/
structure WholeRange where
  least : Int
  greatest : Int
  least_le_zero : least ≤ 0 := by decide
  zero_le_greatest : 0 ≤ greatest := by decide

def int32 : WholeRange where
  least := -2147483648
  greatest := 2147483647

def int64 : WholeRange where
  least := -9223372036854775808
  greatest := 9223372036854775807

def nat32 : WholeRange where
  least := 0
  greatest := 4294967295

def nat64 : WholeRange where
  least := 0
  greatest := 18446744073709551615

def nat16 : WholeRange where
  least := 0
  greatest := 65535

def WholeRange.Holds (range : WholeRange) (n : Int) : Prop := range.least ≤ n ∧ n ≤ range.greatest

instance (range : WholeRange) (n : Int) : Decidable (range.Holds n) :=
  inferInstanceAs (Decidable (_ ∧ _))

def digitValue (c : Char) : Nat := c.toNat - '0'.toNat

def appendDigit (negative : Bool) (read : Int) (c : Char) : Int :=
  if negative then read * 10 - digitValue c else read * 10 + digitValue c

/-- Reads digits onto `read`, away from zero, and stops at the first one that leaves the range. -/
def readDigits (range : WholeRange) (negative : Bool) : Int → List Char → Except WholeFault Int
  | read, [] => .ok read
  | read, c :: rest =>
    if c.isDigit then
      if appendDigit negative read c < range.least then .error .tooSmall
      else if range.greatest < appendDigit negative read c then .error .tooLarge
      else readDigits range negative (appendDigit negative read c) rest
    else .error .invalidDigit

/-- Reads a whole number of a range; a minus sign belongs only to ranges with negative numbers. -/
def readWhole (range : WholeRange) (s : String) : Except WholeFault Int :=
  match s.toList with
  | [] => .error .empty
  | '+' :: rest => if rest.isEmpty then .error .invalidDigit else readDigits range false 0 rest
  | '-' :: rest =>
    if rest.isEmpty || range.least == 0 then .error .invalidDigit
    else readDigits range true 0 rest
  | cs => readDigits range false 0 cs

def wholeText (n : Int) : String := toString n

theorem readDigits_holds (range : WholeRange) (negative : Bool) (cs : List Char) (read n : Int)
    (within : range.Holds read) (h : readDigits range negative read cs = .ok n) :
    range.Holds n := by
  induction cs generalizing read with
  | nil => simp only [readDigits, Except.ok.injEq] at h; exact h ▸ within
  | cons c rest ih =>
    simp only [readDigits] at h
    split at h
    · split at h
      · cases h
      · split at h
        · cases h
        · exact ih _ ⟨by omega, by omega⟩ h
    · cases h

end MarketLink.Number
