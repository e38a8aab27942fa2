import MarketLink.Number.Decimal

set_option autoImplicit false

namespace MarketLink.Market

open MarketLink.Number

/-- The remarks that come with a price. -/
structure TickAttributes where
  canAutoExecute : Bool
  pastLimit : Bool
  preOpen : Bool
  deriving Repr, DecidableEq

/-- Bit `index` of a whole number in two's complement. -/
def testBit (n : Int) (index : Nat) : Bool := (n >>> index) % 2 == 1

def TickAttributes.ofMask (mask : Int) : TickAttributes :=
  ⟨testBit mask 0, testBit mask 1, testBit mask 2⟩

/-- One update of a market-data stream. -/
inductive Tick where
  | price (tickType : Int) (price : Float) (size : Decimal) (attributes : TickAttributes)
  | size (tickType : Int) (size : Decimal)
  | generic (tickType : Int) (value : Float)
  | text (tickType : Int) (value : String)
  /-- The stream now carries live, frozen or delayed data. -/
  | marketDataType (kind : Int)
  | requestParameters (minTick : Float) (exchange : String) (snapshotPermissions : Int)

end MarketLink.Market
