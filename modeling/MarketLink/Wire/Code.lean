
set_option autoImplicit false

namespace MarketLink.Wire

inductive Incoming where
  | tickPrice
  | tickSize
  | errorMessage
  | nextValidId
  | contractData
  | marketDepth
  | marketDepthL2
  | managedAccounts
  | historicalData
  | tickGeneric
  | tickString
  | currentTime
  | contractDataEnd
  | tickSnapshotEnd
  | marketDataType
  | tickReqParams
  deriving Repr, DecidableEq

namespace Incoming

def all : List Incoming :=
  [.tickPrice, .tickSize, .errorMessage, .nextValidId, .contractData, .marketDepth,
    .marketDepthL2, .managedAccounts, .historicalData, .tickGeneric, .tickString, .currentTime,
    .contractDataEnd, .tickSnapshotEnd, .marketDataType, .tickReqParams]

def code : Incoming → Int
  | .tickPrice => 1
  | .tickSize => 2
  | .errorMessage => 4
  | .nextValidId => 9
  | .contractData => 10
  | .marketDepth => 12
  | .marketDepthL2 => 13
  | .managedAccounts => 15
  | .historicalData => 17
  | .tickGeneric => 45
  | .tickString => 46
  | .currentTime => 49
  | .contractDataEnd => 52
  | .tickSnapshotEnd => 57
  | .marketDataType => 58
  | .tickReqParams => 81

def name : Incoming → String
  | .tickPrice => "TickPrice"
  | .tickSize => "TickSize"
  | .errorMessage => "ErrorMessage"
  | .nextValidId => "NextValidId"
  | .contractData => "ContractData"
  | .marketDepth => "MarketDepth"
  | .marketDepthL2 => "MarketDepthL2"
  | .managedAccounts => "ManagedAccounts"
  | .historicalData => "HistoricalData"
  | .tickGeneric => "TickGeneric"
  | .tickString => "TickString"
  | .currentTime => "CurrentTime"
  | .contractDataEnd => "ContractDataEnd"
  | .tickSnapshotEnd => "TickSnapshotEnd"
  | .marketDataType => "MarketDataType"
  | .tickReqParams => "TickReqParams"

def ofCode? (code : Int) : Option Incoming := all.find? fun m => m.code == code

end Incoming

inductive Outgoing where
  | reqMarketData
  | cancelMarketData
  | reqIds
  | reqContractData
  | reqMarketDepth
  | cancelMarketDepth
  | reqManagedAccounts
  | reqHistoricalData
  | cancelHistoricalData
  | reqCurrentTime
  | reqMarketDataType
  | startApi
  deriving Repr, DecidableEq

namespace Outgoing

def all : List Outgoing :=
  [.reqMarketData, .cancelMarketData, .reqIds, .reqContractData, .reqMarketDepth,
    .cancelMarketDepth, .reqManagedAccounts, .reqHistoricalData, .cancelHistoricalData,
    .reqCurrentTime, .reqMarketDataType, .startApi]

def code : Outgoing → Int
  | .reqMarketData => 1
  | .cancelMarketData => 2
  | .reqIds => 8
  | .reqContractData => 9
  | .reqMarketDepth => 10
  | .cancelMarketDepth => 11
  | .reqManagedAccounts => 17
  | .reqHistoricalData => 20
  | .cancelHistoricalData => 25
  | .reqCurrentTime => 49
  | .reqMarketDataType => 59
  | .startApi => 71

def name : Outgoing → String
  | .reqMarketData => "ReqMarketData"
  | .cancelMarketData => "CancelMarketData"
  | .reqIds => "ReqIds"
  | .reqContractData => "ReqContractData"
  | .reqMarketDepth => "ReqMarketDepth"
  | .cancelMarketDepth => "CancelMarketDepth"
  | .reqManagedAccounts => "ReqManagedAccounts"
  | .reqHistoricalData => "ReqHistoricalData"
  | .cancelHistoricalData => "CancelHistoricalData"
  | .reqCurrentTime => "ReqCurrentTime"
  | .reqMarketDataType => "ReqMarketDataType"
  | .startApi => "StartApi"

end Outgoing

def alternateBias : Int := 200

/-- The plain code of a raw one, and whether the message is in the alternate encoding. -/
def splitCode (raw : Int) : Int × Bool :=
  if alternateBias < raw then (raw - alternateBias, true) else (raw, false)

/-- Error notices that mean nothing to anyone: a cancel for an id that the gateway has forgotten,
and delayed data in place of live data. -/
def isSuppressed (code : Int) : Bool := code == 300 || code == 10167

def leastClientVersion : Int := 100

def greatestClientVersion : Int := 187

def leastServerVersion : Int := 100

end MarketLink.Wire
