
set_option autoImplicit false

namespace MarketLink

structure Span where
  nanos : Nat
  deriving Repr, DecidableEq

namespace Span

def ofMillis (millis : Nat) : Span := ⟨millis * 1000000⟩

def wordLimit : Nat := 18446744073709551616

def millis (span : Span) : Nat := span.nanos / 1000000 % wordLimit

def zero : Span := ⟨0⟩

def deadline (millis : Nat) : Option Span := if millis = 0 then none else some (ofMillis millis)

end Span

end MarketLink
