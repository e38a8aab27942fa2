import MarketLink.Failure
import MarketLink.Market.Contract
import MarketLink.Market.Depth
import MarketLink.Market.Tick

set_option autoImplicit false

namespace MarketLink.Correlation

open MarketLink.Market MarketLink.Time

/-- What a request has gathered so far. -/
inductive Slot where
  | currentTime (time : Option Instant)
  | managedAccounts (accounts : Option (List String))
  | nextValidId (id : Option Int)
  | contractDetails (details : List ContractDetails)
  | historicalBars (bars : Option (List Bar))
  | marketData (snapshot : Bool)
  | marketDepth (book : DepthBook)

namespace Slot

def kind : Slot → String
  | .currentTime _ => "current time"
  | .managedAccounts _ => "managed accounts"
  | .nextValidId _ => "next valid id"
  | .contractDetails _ => "contract details"
  | .historicalBars _ => "historical bars"
  | .marketData _ => "market data"
  | .marketDepth _ => "market depth"

/-- The failure of a request that gets a reply of another kind. -/
def mismatch (slot : Slot) (reply : String) : Failure :=
  .internal (reply ++ " reply routed to a " ++ slot.kind ++ " request")

def isMarketData : Slot → Bool
  | .marketData _ => true
  | _ => false

end Slot

/-- What a stream hands to its reader. -/
inductive Item where
  | tick (tick : Tick)
  | depth (depth : MarketDepth)

/-- What a handler did: the slot afterwards, the items for the stream, and whether the reply was the
last one. -/
structure Handled where
  slot : Slot
  items : List Item := []
  verdict : Except Failure Bool

abbrev Handler := Slot → Handled

namespace Handler

def leave (verdict : Except Failure Bool) : Handler := fun slot => { slot, verdict }

def refuse (reply : String) : Handler := fun slot =>
  { slot, verdict := .error (slot.mismatch reply) }

def storeTime (reply : String) (time : Instant) : Handler
  | .currentTime _ => { slot := .currentTime (some time), verdict := .ok true }
  | slot => refuse reply slot

def storeAccounts (reply : String) (accounts : List String) : Handler
  | .managedAccounts _ => { slot := .managedAccounts (some accounts), verdict := .ok true }
  | slot => refuse reply slot

def storeId (reply : String) (id : Int) : Handler
  | .nextValidId _ => { slot := .nextValidId (some id), verdict := .ok true }
  | slot => refuse reply slot

/-- Adds details to the list; more may come. -/
def addDetails (reply : String) (details : ContractDetails) : Handler
  | .contractDetails list =>
    { slot := .contractDetails (list ++ [details]), verdict := .ok false }
  | slot => refuse reply slot

def endDetails (reply : String) : Handler
  | .contractDetails list => { slot := .contractDetails list, verdict := .ok true }
  | slot => refuse reply slot

def storeBars (reply : String) (bars : List Bar) : Handler
  | .historicalBars _ => { slot := .historicalBars (some bars), verdict := .ok true }
  | slot => refuse reply slot

def sendTick (reply : String) (tick : Tick) : Handler
  | .marketData snapshot =>
    { slot := .marketData snapshot, items := [.tick tick], verdict := .ok false }
  | slot => refuse reply slot

def endSnapshot (reply : String) : Handler
  | .marketData snapshot => { slot := .marketData snapshot, verdict := .ok true }
  | slot => refuse reply slot

/-- Applies an update to the book and puts a copy of the book on the stream; an update that the book
refuses is passed over. -/
def applyDepth (reply : String) (update : DepthUpdate) : Handler
  | .marketDepth book =>
    match book.apply update with
    | .ok changed =>
      { slot := .marketDepth changed, items := [.depth changed.snapshot], verdict := .ok false }
    | .error _ => { slot := .marketDepth book, verdict := .ok false }
  | slot => refuse reply slot

end Handler

end MarketLink.Correlation
