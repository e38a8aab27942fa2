import MarketLink.Number.Decimal
import MarketLink.Time.Instant

set_option autoImplicit false

namespace MarketLink.Market

open MarketLink.Number MarketLink.Time

/-- An instrument. A text that is not known is empty, and so is an `id` of zero. -/
structure Contract where
  id : Int := 0
  symbol : String := ""
  /-- The kind of instrument, such as `STK`, `FUT` or `CASH`. -/
  securityType : String := ""
  lastTradeDate : String := ""
  strike : Float := 0
  right : String := ""
  multiplier : String := ""
  exchange : String := ""
  primaryExchange : String := ""
  currency : String := ""
  localSymbol : String := ""
  tradingClass : String := ""
  includeExpired : Bool := false

def Contract.stock (symbol exchange currency : String) : Contract :=
  { symbol, securityType := "STK", exchange, currency }

def Contract.forex (base quote : String) : Contract :=
  { symbol := base, securityType := "CASH", exchange := "IDEALPRO", currency := quote }

/-- What the gateway knows about one contract. -/
structure ContractDetails where
  contract : Contract := {}
  marketName : String := ""
  minTick : Float := 0
  longName : String := ""
  timeZone : String := ""
  validExchanges : String := ""

structure BarQuery where
  finish : Option Instant := none
  duration : String := "1 D"
  barSize : String := "1 hour"
  whatToShow : String := "TRADES"
  regularHours : Bool := true

/-- The prices and the volume of one span of time. -/
structure Bar where
  time : Instant
  opening : Float
  high : Float
  low : Float
  closing : Float
  volume : Decimal
  average : Decimal
  count : Int

end MarketLink.Market
