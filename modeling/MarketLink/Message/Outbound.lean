import MarketLink.Market.Contract
import MarketLink.Wire.Writer

set_option autoImplicit false

namespace MarketLink.Message

open MarketLink.Market MarketLink.Wire

def writeContract (w : Writer) (c : Contract) : Writer :=
  w |>.int c.id |>.text c.symbol |>.text c.securityType |>.text c.lastTradeDate |>.real c.strike
    |>.text c.right |>.text c.multiplier |>.text c.exchange |>.text c.primaryExchange
    |>.text c.currency |>.text c.localSymbol |>.text c.tradingClass

def startApi (clientId : Int) (capabilities : String) : Except WireError Bytes :=
  Writer.ofCode .startApi |>.int 2 |>.int clientId |>.text capabilities |>.finish

def reqCurrentTime : Except WireError Bytes := Writer.ofCode .reqCurrentTime |>.int 1 |>.finish

def reqManagedAccounts : Except WireError Bytes :=
  Writer.ofCode .reqManagedAccounts |>.int 1 |>.finish

def reqIds (count : Int) : Except WireError Bytes :=
  Writer.ofCode .reqIds |>.int 1 |>.int count |>.finish

def reqContractDetails (id : Int) (c : Contract) : Except WireError Bytes :=
  writeContract (Writer.ofCode .reqContractData |>.int 8 |>.int id) c
    |>.flag c.includeExpired |>.text "" |>.text "" |>.finish

def writeFinish (w : Writer) (finish : Option Time.Instant) : Writer :=
  match finish with
  | some time => w.time time
  | none => w.text ""

/-- Asks for past bars, with times as seconds from the epoch and without updates later on. -/
def reqHistoricalData (id : Int) (c : Contract) (query : BarQuery) : Except WireError Bytes :=
  writeFinish
      (writeContract (Writer.ofCode .reqHistoricalData |>.int id) c |>.flag c.includeExpired)
      query.finish
    |>.text query.barSize |>.text query.duration |>.flag query.regularHours
    |>.text query.whatToShow |>.int 2 |>.flag false |>.text "" |>.finish

def cancelHistoricalData (id : Int) : Except WireError Bytes :=
  Writer.ofCode .cancelHistoricalData |>.int 1 |>.int id |>.finish

def reqMarketData (id : Int) (c : Contract) (genericTicks : String)
    (snapshot regulatory : Bool) : Except WireError Bytes :=
  writeContract (Writer.ofCode .reqMarketData |>.int 11 |>.int id) c
    |>.flag false |>.text genericTicks |>.flag snapshot |>.flag regulatory |>.text "" |>.finish

def cancelMarketData (id : Int) : Except WireError Bytes :=
  Writer.ofCode .cancelMarketData |>.int 2 |>.int id |>.finish

def reqMarketDepth (id : Int) (c : Contract) (rows : Int) (smart : Bool) :
    Except WireError Bytes :=
  writeContract (Writer.ofCode .reqMarketDepth |>.int 5 |>.int id) c
    |>.int rows |>.flag smart |>.text "" |>.finish

def cancelMarketDepth (id : Int) (smart : Bool) : Except WireError Bytes :=
  Writer.ofCode .cancelMarketDepth |>.int 1 |>.int id |>.flag smart |>.finish

def reqMarketDataType (kind : Int) : Except WireError Bytes :=
  Writer.ofCode .reqMarketDataType |>.int 1 |>.int kind |>.finish

end MarketLink.Message
