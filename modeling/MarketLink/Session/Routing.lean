import MarketLink.Correlation.Table
import MarketLink.Message.Arrival
import MarketLink.Session.Event

set_option autoImplicit false

namespace MarketLink.Session

open Correlation Message Wire

inductive Destination where
  /-- To the request that is pending under the target; `otherwise` happens when there is none. -/
  | request (target : Target) (handler : Handler) (otherwise : Option Event)
  | refusal (id : Int) (failure : Failure) (otherwise : Event)
  | event (event : Event)
  | nobody

def noticeDestination (notice : ErrorNotice) : Destination :=
  let event := Event.notice notice.id notice.code notice.message
  if isSuppressed notice.code then .nobody
  else if notice.hasRequestId then .refusal notice.id (.api notice.code notice.message) event
  else .event event

/-- Where a message is to go. Ids find one request; the three replies without an id go to whoever
asked first. -/
def destination : Arrival → Destination
  | .tick id tick => .request (.id id) (Handler.sendTick "tick" tick) none
  | .marketDataType id kind =>
    .request (.id id) (Handler.sendTick "tick" (.marketDataType kind))
      (some (.marketDataType id kind))
  | .snapshotEnd id => .request (.id id) (Handler.endSnapshot "snapshot end") none
  | .depth id update => .request (.id id) (Handler.applyDepth "market depth" update) none
  | .contractDetails id details =>
    .request (.id id) (Handler.addDetails "contract data" details) none
  | .contractDetailsEnd id => .request (.id id) (Handler.endDetails "contract data end") none
  | .historicalBars id bars => .request (.id id) (Handler.storeBars "historical data" bars) none
  | .currentTime time =>
    .request (.code Incoming.currentTime.code) (Handler.storeTime "current time" time)
      (some (.currentTime time))
  | .managedAccounts accounts =>
    .request (.code Incoming.managedAccounts.code)
      (Handler.storeAccounts "managed accounts" accounts) (some (.managedAccounts accounts))
  | .nextValidId id =>
    .request (.code Incoming.nextValidId.code) (Handler.storeId "next valid id" id)
      (some (.nextValidId id))
  | .notice notice => noticeDestination notice
  | .unknown code => .event (.unknownMessage code)

/-- Takes a message to its destination; gives the event that comes of it, if one does. -/
def Destination.deliver (table : Table) : Destination → Table × Option Event
  | .request target handler otherwise =>
    let (table, taken) := table.dispatch target handler
    (table, if taken.isSome then none else otherwise)
  | .refusal id failure otherwise =>
    let (table, taken) := table.fail id failure
    (table, if taken then none else some otherwise)
  | .event told => (table, some told)
  | .nobody => (table, none)

/-- Reads a payload and takes its message to its destination. A payload that cannot be read is an
error, and changes nothing. -/
def route (offset : Int) (table : Table) (payload : Bytes) :
    Except WireError (Table × Option Event) :=
  (Arrival.read offset payload).map fun arrival => (destination arrival).deliver table

end MarketLink.Session
