import MarketLink.Text.Hidden

set_option autoImplicit false

namespace MarketLink.Text

/-- Lower-case hexadecimal digits without leading zeros. -/
def hexText (n : Nat) : String := String.ofList (Nat.toDigits 16 n)

/-- A character outside the printable part of ASCII, as shown between quotes. -/
def quotedRare (c : Char) : String :=
  if isHidden c then "\\u\x7b" ++ hexText c.toNat ++ "\x7d" else c.toString

def quotedChar (c : Char) : String :=
  match c with
  | '\x00' => "\\0"
  | '\t' => "\\t"
  | '\r' => "\\r"
  | '\n' => "\\n"
  | '\\' => "\\\\"
  | '"' => "\\\""
  | _ => if ' ' ≤ c ∧ c ≤ '~' then c.toString else quotedRare c

def quoted (s : String) : String :=
  s.foldl (fun shown c => shown ++ quotedChar c) "\"" ++ "\""

end MarketLink.Text
