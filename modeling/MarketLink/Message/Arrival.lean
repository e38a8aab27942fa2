import MarketLink.Message.Inbound
import MarketLink.Wire.Code

set_option autoImplicit false

namespace MarketLink.Message

open MarketLink.Market MarketLink.Time MarketLink.Wire

inductive Arrival where
  | tick (id : Int) (tick : Tick)
  | marketDataType (id kind : Int)
  | snapshotEnd (id : Int)
  | depth (id : Int) (update : DepthUpdate)
  | contractDetails (id : Int) (details : ContractDetails)
  | contractDetailsEnd (id : Int)
  | historicalBars (id : Int) (bars : List Bar)
  | currentTime (time : Instant)
  | managedAccounts (accounts : List String)
  | nextValidId (id : Int)
  | notice (notice : ErrorNotice)
  | unknown (code : Int)

def usableId (raw : Int) : Int := if 1 ≤ raw ∧ raw ≤ 2147483647 then raw else 1

/-- The message that a raw code stands for, if it is known and not in the alternate encoding. -/
def known? (raw : Int) : Option Incoming :=
  let (plain, alternate) := splitCode raw
  if alternate then none else Incoming.ofCode? plain

def readCode : Reading (Except WireError Int) := do
  Reading.finish (← Reading.int)

namespace Arrival

def making {α : Type} (make : α → Arrival) (read : Reading (Except WireError α)) :
    Reading (Except WireError Arrival) := do
  return (← read).map make

def body : Incoming → Reading (Except WireError Arrival)
  | .tickPrice => making (fun (id, t) => .tick id t) tickPrice
  | .tickSize => making (fun (id, t) => .tick id t) tickSize
  | .tickGeneric => making (fun (id, t) => .tick id t) tickGeneric
  | .tickString => making (fun (id, t) => .tick id t) tickString
  | .tickReqParams => making (fun (id, t) => .tick id t) tickReqParams
  | .marketDataType => making (fun (id, kind) => .marketDataType id kind) Message.marketDataType
  | .tickSnapshotEnd => making .snapshotEnd endMarker
  | .marketDepth => making (fun (id, u) => .depth id u) marketDepth
  | .marketDepthL2 => making (fun (id, u) => .depth id u) marketDepthL2
  | .contractData => making (fun (id, d) => .contractDetails id d) contractData
  | .contractDataEnd => making .contractDetailsEnd endMarker
  | .historicalData => making (fun (id, bars) => .historicalBars id bars) historicalData
  | .currentTime => making .currentTime Message.currentTime
  | .managedAccounts => making .managedAccounts Message.managedAccounts
  | .nextValidId => making (fun raw => .nextValidId (usableId raw)) Message.nextValidId
  | .errorMessage => making .notice errorNotice

/-- Reads a payload, whose times without a zone have an offset. -/
def read (offset : Int) (payload : Bytes) : Except WireError Arrival :=
  match readCode (Cursor.start payload offset) with
  | (.error e, _) => .error e
  | (.ok raw, cursor) =>
    match known? raw with
    | none => .ok (.unknown raw)
    | some message => (body message cursor).1

end Arrival

end MarketLink.Message
