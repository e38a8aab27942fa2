import MarketLink.Session.Basic

set_option autoImplicit false

namespace MarketLink.Session

open Correlation Market Message Time Wire

inductive Question where
  | currentTime
  | managedAccounts
  | nextValidId
  | contractDetails (contract : Contract)
  | historicalBars (contract : Contract) (query : BarQuery)

inductive Reply where
  | time (time : Instant)
  | accounts (accounts : List String)
  | id (id : Int)
  | details (details : List ContractDetails)
  | bars (bars : List Bar)

namespace Question

def code? : Question → Option Int
  | .currentTime => some Incoming.currentTime.code
  | .managedAccounts => some Incoming.managedAccounts.code
  | .nextValidId => some Incoming.nextValidId.code
  | .contractDetails _ | .historicalBars _ _ => none

def slot : Question → Slot
  | .currentTime => .currentTime none
  | .managedAccounts => .managedAccounts none
  | .nextValidId => .nextValidId none
  | .contractDetails _ => .contractDetails []
  | .historicalBars _ _ => .historicalBars none

def frame (key : Key) : Question → Except WireError Bytes
  | .currentTime => reqCurrentTime
  | .managedAccounts => reqManagedAccounts
  | .nextValidId => reqIds 1
  | .contractDetails contract => reqContractDetails (key.id?.getD 0) contract
  | .historicalBars contract query => reqHistoricalData (key.id?.getD 0) contract query

def withdrawal? (key : Key) : Question → Option Bytes
  | .historicalBars _ _ => (cancelHistoricalData (key.id?.getD 0)).toOption
  | _ => none

def replyOf : Question → Slot → Except Failure Reply
  | .currentTime, .currentTime (some time) => .ok (.time time)
  | .currentTime, slot => .error (slot.mismatch "current time")
  | .managedAccounts, .managedAccounts (some accounts) => .ok (.accounts accounts)
  | .managedAccounts, slot => .error (slot.mismatch "managed accounts")
  | .nextValidId, .nextValidId (some id) => .ok (.id id)
  | .nextValidId, slot => .error (slot.mismatch "next valid id")
  | .contractDetails _, .contractDetails details => .ok (.details details)
  | .contractDetails _, slot => .error (slot.mismatch "contract data")
  | .historicalBars _ _, .historicalBars (some bars) => .ok (.bars bars)
  | .historicalBars _ _, slot => .error (slot.mismatch "historical data")

end Question

structure Call where
  question : Question
  request : Nat
  withdrawal : Option Bytes

/-- Draws the key of a question: a number in its queue, or a new id. -/
def keyFor (s : Session) (question : Question) : Session × Except Failure Key :=
  match question.code? with
  | some code =>
    let (table, key) := s.table.keyOfCode code
    ({ s with table }, .ok key)
  | none =>
    let (table, id) := s.table.allocate
    ({ s with table }, id.map .withId)

/-- Starts a call. The key is drawn before the gate is looked at. -/
def ask (s : Session) (question : Question) : Session × Except Failure Call :=
  match s.keyFor question with
  | (s, .error failure) => (s, .error failure)
  | (s, .ok key) =>
    match s.enter with
    | none => (s, .error .closed)
    | some s =>
      match s.submit (Request.new key question.slot false) (question.frame key) with
      | (s, .ok n) => (s, .ok ⟨question, n, question.withdrawal? key⟩)
      | (s, .error failure) => (s.leave, .error failure)

def outcome? (s : Session) (n : Nat) : Option (Except Failure Slot) :=
  (s.table.request? n).bind Request.outcome

def result? (s : Session) (call : Call) : Option (Except Failure Reply) :=
  (s.outcome? call.request).map fun outcome => outcome.bind call.question.replyOf

def withdraw (s : Session) : Option Bytes → Session
  | some frame => (s.send frame).1
  | none => s

/-- Gives up a call whose request is not completed. One without an id stays queued for the reply
that is still on its way; any other is withdrawn. -/
def abandon (s : Session) (call : Call) : Session :=
  if (s.outcome? call.request).isSome then s
  else
    let (table, was) := s.table.abandon call.request
    let s : Session := { s with table }
    if was then s.withdraw call.withdrawal else s

def giveUp (s : Session) (call : Call) : Session := (s.abandon call).leave

end MarketLink.Session
