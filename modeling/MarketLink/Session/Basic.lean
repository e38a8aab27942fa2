import MarketLink.Message.Outbound
import MarketLink.Session.Link
import MarketLink.Session.Routing
import MarketLink.Settings.Basic

set_option autoImplicit false

namespace MarketLink

open Correlation Time Wire

/-- An open session with a gateway, up to its end and beyond. -/
structure Session where
  settings : Settings
  clientId : Int
  serverVersion : Int
  connectionTime : Option Instant
  /-- Seconds by which the gateway's times without a zone are ahead. -/
  offset : Int
  table : Table
  link : Session.Link
  attached : Bool := true
  down : Bool := false
  closing : Bool := false
  shutdown : Bool := false
  terminal : Option Failure := none
  gate : Gate := {}
  events : List Event := []

namespace Session

def isConnected (s : Session) : Bool := !s.down && s.attached

def closedFailure (s : Session) : Failure := s.terminal.getD .closed

def send (s : Session) (frame : Bytes) : Session × Except Failure Unit :=
  if s.attached then
    let (link, result) := s.link.send frame
    ({ s with link }, result)
  else (s, .error s.closedFailure)

def enter (s : Session) : Option Session :=
  match s.gate.acquire with
  | (gate, true) => some { s with gate }
  | (_, false) => none

def leave (s : Session) : Session := { s with gate := s.gate.release.1 }

def register (s : Session) (n : Nat) : Session × Except Failure Unit :=
  let (table, result) := s.table.register n
  ({ s with table }, result)

/-- Ends a request with a failure; says whether it was still open. -/
def cancelRequest (s : Session) (n : Nat) (failure : Failure) : Session × Bool :=
  let (table, was) := s.table.cancel n failure
  ({ s with table }, was)

/-- Queues the frame of a registered request; a frame that is refused ends the request. -/
def place (s : Session) (n : Nat) (frame : Bytes) : Session × Except Failure Unit :=
  match s.send frame with
  | (s, .ok ()) => (s, .ok ())
  | (s, .error failure) => ((s.cancelRequest n failure).1, .error failure)

/-- Creates a request, makes it pending and queues its frame; gives its number. The frame is queued
last, so that no reply can come before the request is pending. -/
def submit (s : Session) (request : Request) (frame : Except WireError Bytes) :
    Session × Except Failure Nat :=
  match frame with
  | .error e => (s, .error (.protocol e))
  | .ok frame =>
    let (table, n) := s.table.create request
    match ({ s with table } : Session).register n with
    | (s, .error failure) => (s, .error failure)
    | (s, .ok ()) =>
      match s.place n frame with
      | (s, .ok ()) => (s, .ok n)
      | (s, .error failure) => (s, .error failure)

def setMarketDataType (s : Session) (kind : Int) : Session × Except Failure Unit :=
  match s.enter with
  | none => (s, .error .closed)
  | some s =>
    match Message.reqMarketDataType kind with
    | .error e => (s.leave, .error (.protocol e))
    | .ok frame =>
      let (s, result) := s.send frame
      (s.leave, result)

/-- Keeps the failure that ended the connection; the first one stays. -/
def noteEnd (s : Session) (failure : Failure) : Session :=
  { s with terminal := s.terminal.or (some failure) }

def signalDown (s : Session) : Session := { s with down := true }

def detach (s : Session) : Session := { s with attached := false }

def closeLink (s : Session) : Session := { s with link := s.link.close }

def failPending (s : Session) (failure : Failure) : Session :=
  { s with table := s.table.teardown failure }

def announceEnd (s : Session) (failure : Failure) : Session :=
  if s.closing then s else { s with events := s.events ++ [.connectionClosed failure] }

/-- The connection has ended. The link leaves its place before the pending requests are ended: a
request that is registered later finds no link to send on. -/
def lose (s : Session) (failure : Failure) : Session :=
  let failure := failure.classify
  ((s.noteEnd failure).signalDown.detach.closeLink.failPending failure).announceEnd failure

/-- Does one turn of the loop; `none` when there is nothing to do. -/
def next? (s : Session) : Option Session :=
  if s.down then none
  else if s.shutdown then some (s.lose .closed)
  else
    match s.link.take with
    | (_, none) => none
    | (link, some (.error failure)) => some (({ s with link } : Session).lose failure)
    | (link, some (.ok payload)) =>
      match route s.offset s.table payload with
      | .error e => some (({ s with link } : Session).lose (.protocol e))
      | .ok (table, event) =>
        some { s with link, table, events := s.events ++ event.toList }

def turnsLeft (s : Session) : Nat := if s.down then 0 else s.link.arrived.length + 1

theorem down_announceEnd (s : Session) (failure : Failure) :
    (s.announceEnd failure).down = s.down := by
  unfold announceEnd
  split <;> rfl

theorem down_lose (s : Session) (failure : Failure) : (s.lose failure).down = true := by
  rw [lose, down_announceEnd]
  rfl

theorem turnsLeft_of_down {s : Session} (h : s.down = true) : s.turnsLeft = 0 := by
  simp [turnsLeft, h]

theorem turnsLeft_of_up {s : Session} (h : ¬ s.down = true) :
    s.turnsLeft = s.link.arrived.length + 1 := by
  simp [turnsLeft, h]

theorem turnsLeft_of_next? {s after : Session} (h : s.next? = some after) :
    after.turnsLeft < s.turnsLeft := by
  unfold next? at h
  split at h
  · cases h
  · next up =>
    rw [turnsLeft_of_up up]
    split at h
    · cases h
      rw [turnsLeft_of_down (down_lose _ _)]
      omega
    · split at h
      · cases h
      · cases h
        rw [turnsLeft_of_down (down_lose _ _)]
        omega
      · next link payload taken =>
        have fewer := Link.length_arrived_of_take taken
        split at h
        · cases h
          rw [turnsLeft_of_down (down_lose _ _)]
          omega
        · cases h
          simp only [turnsLeft, up]
          exact Nat.succ_lt_succ fewer

/-- Turns until there is nothing left to do. -/
def dispatch (s : Session) : Session :=
  match _turned : s.next? with
  | none => s
  | some after => dispatch after
termination_by s.turnsLeft
decreasing_by exact turnsLeft_of_next? _turned

/-- The owner begins to end the session: the gate closes and the loop is to stop. -/
def beginClose (s : Session) : Session :=
  { s with closing := true, gate := s.gate.beginClose.1, shutdown := true }

/-- Ends the session. The calls that have passed the gate leave it with the failure of the
connection. -/
def close (s : Session) : Session := s.beginClose.dispatch

def letGo (s : Session) : Session := { s with closing := true, shutdown := true }

end Session

end MarketLink
