import MarketLink.Market.Contract
import MarketLink.Market.Depth
import MarketLink.Market.Tick
import MarketLink.Wire.Cursor

set_option autoImplicit false

namespace MarketLink.Message

open MarketLink.Market MarketLink.Number MarketLink.Text MarketLink.Time MarketLink.Wire
open MarketLink.Wire.Reading

/-- The answer to the opening bytes: the gateway's version, and the time or another address. -/
def handshakeReply : Reading (Except WireError (Int × String)) := do
  let version ← int
  let words ← text
  finish (version, words)

def nextValidId : Reading (Except WireError Int) := do
  let _version ← int
  let id ← long
  finish id

def currentTime : Reading (Except WireError Instant) := do
  let _version ← int
  let secs ← long
  match Instant.ofSeconds? secs with
  | some time => finish time
  | none =>
    fail (.invalidField .epoch (wholeText secs))
    finish epoch

/-- The parts of a list between commas, without blanks around them; empty parts are left out. -/
def splitList (list : String) : List String :=
  ((list.splitOn ",").map trim).filter fun part => !part.isEmpty

def managedAccounts : Reading (Except WireError (List String)) := do
  let _version ← int
  let list ← text
  finish (splitList list)

/-- An error or a remark; its id is that of the request it is about, or none. -/
structure ErrorNotice where
  id : Int
  code : Int
  message : String
  deriving Repr, DecidableEq

def ErrorNotice.hasRequestId (notice : ErrorNotice) : Bool := 0 < notice.id

def errorNotice : Reading (Except WireError ErrorNotice) := do
  let _version ← int
  let id ← int
  let code ← int
  let message ← text
  finish ⟨id, code, message⟩

def contractData : Reading (Except WireError (Int × ContractDetails)) := do
  let _version ← int
  let id ← int
  let symbol ← text
  let securityType ← text
  let lastTradeDate ← text
  let strike ← real
  let right ← text
  let exchange ← text
  let currency ← text
  let localSymbol ← text
  let marketName ← text
  let tradingClass ← text
  let contractId ← int
  let minTick ← real
  let multiplier ← text
  let validExchanges ← text
  let longName ← text
  let primaryExchange ← text
  let timeZone ← text
  let contract : Contract :=
    { id := contractId, symbol, securityType, lastTradeDate, strike, right, exchange, currency,
      localSymbol, tradingClass, multiplier, primaryExchange }
  finish (id, { contract, marketName, minTick, longName, timeZone, validExchanges })

def endMarker : Reading (Except WireError Int) := do
  let _version ← int
  let id ← int
  finish id

def bar : Reading Bar := do
  let time ← Reading.time
  let opening ← real
  let high ← real
  let low ← real
  let closing ← real
  let volume ← decimal
  let average ← decimal
  let count ← int
  return ⟨time, opening, high, low, closing, volume, average, count⟩

/-- Up to `count` bars onto those already read, the latest of which comes first; a fault ends
them. -/
def barsOnto : Nat → List Bar → Reading (List Bar)
  | 0, done => fun c => (done.reverse, c)
  | count + 1, done => fun c =>
    if c.fault.isSome then (done.reverse, c)
    else
      let (next, c) := bar c
      barsOnto count (next :: done) c

def barCount (count : Int) : Reading Nat := do
  if count < 0 then
    fail (.invalidField .barCount (wholeText count))
    return 0
  else return count.toNat

def historicalData : Reading (Except WireError (Int × List Bar)) := do
  let id ← int
  let _start ← text
  let _finish ← text
  let count ← int
  let count ← barCount count
  let bars ← barsOnto count []
  finish (id, bars)

def tickPrice : Reading (Except WireError (Int × Tick)) := do
  let _version ← int
  let id ← int
  let tickType ← int
  let price ← real
  let size ← decimal
  let mask ← int
  finish (id, .price tickType price size (TickAttributes.ofMask mask))

def tickSize : Reading (Except WireError (Int × Tick)) := do
  let _version ← int
  let id ← int
  let tickType ← int
  let size ← decimal
  finish (id, .size tickType size)

def tickGeneric : Reading (Except WireError (Int × Tick)) := do
  let _version ← int
  let id ← int
  let tickType ← int
  let value ← real
  finish (id, .generic tickType value)

def tickString : Reading (Except WireError (Int × Tick)) := do
  let _version ← int
  let id ← int
  let tickType ← int
  let value ← text
  finish (id, .text tickType value)

def marketDataType : Reading (Except WireError (Int × Int)) := do
  let _version ← int
  let id ← int
  let kind ← int
  finish (id, kind)

def tickReqParams : Reading (Except WireError (Int × Tick)) := do
  let id ← int
  let minTick ← real
  let exchange ← text
  let snapshotPermissions ← int
  finish (id, .requestParameters minTick exchange snapshotPermissions)

/-- A depth update whose operation and side are still codes. -/
structure RawDepth where
  id : Int
  position : Int
  marketMaker : String
  operation : Int
  side : Int
  price : Float
  size : Decimal

def RawDepth.resolve (raw : RawDepth) : Except DepthError (Int × DepthUpdate) := do
  let operation ← DepthOperation.ofCode raw.operation
  let side ← Side.ofCode raw.side
  .ok (raw.id, ⟨raw.position, raw.marketMaker, operation, side, raw.price, raw.size⟩)

/-- Codes without a meaning are faults of the message, but only once all fields have been read. -/
def resolveDepth (raw : Except WireError RawDepth) : Except WireError (Int × DepthUpdate) := do
  (← raw).resolve.mapError WireError.depth

def marketDepth : Reading (Except WireError (Int × DepthUpdate)) := do
  let _version ← int
  let id ← int
  let position ← int
  let operation ← int
  let side ← int
  let price ← real
  let size ← decimal
  return resolveDepth (← finish ⟨id, position, "", operation, side, price, size⟩)

def marketDepthL2 : Reading (Except WireError (Int × DepthUpdate)) := do
  let _version ← int
  let id ← int
  let position ← int
  let marketMaker ← text
  let operation ← int
  let side ← int
  let price ← real
  let size ← decimal
  let _smart ← flag
  return resolveDepth (← finish ⟨id, position, marketMaker, operation, side, price, size⟩)

end MarketLink.Message
