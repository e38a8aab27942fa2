import MarketLink.Session.Call

set_option autoImplicit false

namespace MarketLink.Session

open Correlation Market Message Wire

inductive Feed where
  | ticks (contract : Contract) (genericTicks : String) (snapshot : Bool)
  | depth (contract : Contract) (rows : Nat) (smart : Bool)

def rowLimit : Nat := 500

namespace Feed

def check : Feed → Except Failure Unit
  | .ticks _ _ _ => .ok ()
  | .depth _ rows _ =>
    if 1 ≤ rows ∧ rows ≤ rowLimit then .ok ()
    else
      .error (.config
        ("depth row count " ++ toString rows ++ " outside 1..=" ++ toString rowLimit))

def slot : Feed → Slot
  | .ticks _ _ snapshot => .marketData snapshot
  | .depth _ rows _ => .marketDepth (DepthBook.empty rows)

def frame (id : Int) : Feed → Except WireError Bytes
  | .ticks contract genericTicks snapshot =>
    reqMarketData id contract genericTicks snapshot false
  | .depth contract rows smart => reqMarketDepth id contract rows smart

def withdrawal? (id : Int) : Feed → Option Bytes
  | .ticks _ _ _ => (cancelMarketData id).toOption
  | .depth _ _ smart => (cancelMarketDepth id smart).toOption

end Feed

/-- A subscription, in the hands of its reader. -/
structure Stream where
  id : Int
  request : Nat
  withdrawal : Option Bytes
  cancelled : Bool := false

def subscribe (s : Session) (feed : Feed) : Session × Except Failure Stream :=
  match feed.check with
  | .error failure => (s, .error failure)
  | .ok () =>
    let (table, id) := s.table.allocate
    let s : Session := { s with table }
    match id with
    | .error failure => (s, .error failure)
    | .ok id =>
      match s.enter with
      | none => (s, .error .closed)
      | some s =>
        match s.submit (Request.new (.ticker id) feed.slot true) (feed.frame id) with
        | (s, .ok n) => (s.leave, .ok { id, request := n, withdrawal := feed.withdrawal? id })
        | (s, .error failure) => (s.leave, .error failure)

/-- Ends a stream, at the gateway too if it was still open; a second time nothing happens. -/
def cancelStream (s : Session) (stream : Stream) : Session × Stream :=
  if stream.cancelled then (s, stream)
  else
    let (s, was) := s.cancelRequest stream.request .cancelled
    (if was then s.withdraw stream.withdrawal else s, { stream with cancelled := true })

def items (s : Session) (stream : Stream) : List Item :=
  ((s.table.request? stream.request).map Request.items).getD []

def isOver (s : Session) (stream : Stream) : Bool := (s.outcome? stream.request).isSome

/-- Why a stream ended, unless it is open or ended cleanly. -/
def lastFailure (s : Session) (stream : Stream) : Option Failure :=
  match s.outcome? stream.request with
  | some (.error failure) => some failure
  | _ => none

def Stream.freshText (stream : Stream) : String :=
  "Subscription \x7b id: " ++ toString stream.id ++ ", cancelled: false, last_error: None \x7d"

end MarketLink.Session
