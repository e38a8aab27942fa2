import MarketLink.Session.Address
import MarketLink.Session.Basic

set_option autoImplicit false

namespace MarketLink.Session

open Correlation Message Time Wire

def redirectLimit : Nat := 10

/-- How far the talk on a dialled connection is. -/
inductive Phase where
  | fresh
  | greeting
  | accepted (serverVersion : Int) (timeText : String)
  | starting (serverVersion : Int) (timeText : String)
  deriving Repr, DecidableEq

def Phase.isDue : Phase → Bool
  | fresh | accepted _ _ => true
  | greeting | starting _ _ => false

/-- What came of a dialled connection. -/
inductive Verdict where
  | redirected (target : String)
  | failed (failure : Failure)
  | ready (serverVersion : Int) (timeText : String) (firstId : Int)
  deriving Repr, DecidableEq

/-- A dialled connection, until it is the session's. -/
structure Attempt where
  link : Link := {}
  phase : Phase := .fresh
  verdict : Option Verdict := none

namespace Attempt

def decide (a : Attempt) (verdict : Verdict) : Attempt := { a with verdict := some verdict }

def fail (a : Attempt) (failure : Failure) : Attempt := a.decide (.failed failure)

def send (a : Attempt) (frame : Except WireError Bytes) : Attempt :=
  match frame with
  | .error e => a.fail (.protocol e)
  | .ok frame =>
    match a.link.send frame with
    | (link, .ok ()) => { a with link }
    | (link, .error failure) => { a with link }.fail failure

/-- Says the hello, or asks the gateway to start, when that is due. -/
def speak (settings : Settings) (clientId : Int) (a : Attempt) : Attempt :=
  match a.phase with
  | .fresh =>
    { a with phase := .greeting }.send
      (hello leastClientVersion greatestClientVersion settings.connectOptions)
  | .accepted version text =>
    { a with phase := .starting version text }.send
      (startApi clientId settings.optionalCapabilities)
  | .greeting | .starting _ _ => a

def hearGreeting (a : Attempt) (payload : Bytes) : Attempt :=
  match (handshakeReply (Cursor.start payload 0)).1 with
  | .error e => a.fail (.protocol e)
  | .ok (version, text) =>
    if version < 0 then a.decide (.redirected text)
    else if version < leastServerVersion then a.fail (.unsupportedServerVersion version)
    else { a with phase := .accepted version text }

/-- Hears a message before the first id. The bias of the alternate encoding is taken off before the
code is looked at. -/
def hearStart (a : Attempt) (serverVersion : Int) (timeText : String) (payload : Bytes) : Attempt :=
  match readCode (Cursor.start payload 0) with
  | (.error e, _) => a.fail (.protocol e)
  | (.ok raw, cursor) =>
    if (splitCode raw).1 = Incoming.nextValidId.code then
      match (Message.nextValidId cursor).1 with
      | .error e => a.fail (.protocol e)
      | .ok id => a.decide (.ready serverVersion timeText (usableId id))
    else a

def hear (a : Attempt) (payload : Bytes) : Attempt :=
  match a.phase with
  | .greeting => a.hearGreeting payload
  | .starting serverVersion timeText => a.hearStart serverVersion timeText payload
  | .fresh | .accepted _ _ => a

theorem arrived_send (a : Attempt) (frame : Except WireError Bytes) :
    (a.send frame).link.arrived = a.link.arrived := by
  unfold send
  split
  · rfl
  · next frame =>
    have same := Link.arrived_send a.link frame
    rcases sent : a.link.send frame with ⟨link, _ | _⟩ <;> rw [sent] at same <;> exact same

theorem arrived_speak (settings : Settings) (clientId : Int) (a : Attempt) :
    (a.speak settings clientId).link.arrived = a.link.arrived := by
  unfold speak
  split
  · exact arrived_send _ _
  · exact arrived_send _ _
  · rfl
  · rfl

theorem isDue_speak (settings : Settings) (clientId : Int) (a : Attempt) :
    (a.speak settings clientId).phase.isDue = false := by
  have stays : ∀ (a : Attempt) (frame : Except WireError Bytes),
      (a.send frame).phase = a.phase := by
    intro a frame
    unfold send
    split
    · rfl
    · split <;> rfl
  unfold speak
  split
  · rw [stays]; rfl
  · rw [stays]; rfl
  all_goals
    next phase => rw [phase]; rfl

theorem link_hear (a : Attempt) (payload : Bytes) : (a.hear payload).link = a.link := by
  unfold hear
  split
  · unfold hearGreeting
    split
    · rfl
    · split
      · rfl
      · split <;> rfl
  · unfold hearStart
    split
    · rfl
    · split
      · split <;> rfl
      · rfl
  · rfl
  · rfl

/-- Goes on until the attempt is decided or has to wait. -/
def hearAll (settings : Settings) (clientId : Int) (a : Attempt) : Attempt :=
  match a.verdict with
  | some _ => a
  | none =>
    if _due : a.phase.isDue then hearAll settings clientId (a.speak settings clientId)
    else
      match _taken : a.link.take with
      | (_, none) => a
      | (link, some (.error failure)) => { a with link }.fail failure
      | (link, some (.ok payload)) => hearAll settings clientId ({ a with link }.hear payload)
termination_by 2 * a.link.arrived.length + a.phase.isDue.toNat
decreasing_by
  · rw [arrived_speak, isDue_speak, _due]
    exact Nat.lt_succ_self _
  · rw [link_hear]
    have fewer := Link.length_arrived_of_take _taken
    have few := Bool.toNat_le ({ a with link }.hear payload).phase.isDue
    dsimp only
    omega

/-- The time of an attempt is up, which ends it unless it is decided. -/
def expire (a : Attempt) : Attempt := if a.verdict.isSome then a else a.fail .timeout

/-- Leaves the link to the session that is ready, and closes it otherwise. -/
def conclude (a : Attempt) : Attempt :=
  match a.verdict with
  | some (.ready _ _ _) => { a with link := a.link.flush }
  | some (.redirected _) | some (.failed _) | none => { a with link := a.link.close }

end Attempt

/-- The session that follows from an attempt's link once that is ready. -/
def ofReady (settings : Settings) (clientId offset : Int) (link : Link) (serverVersion : Int)
    (timeText : String) (firstId : Int) : Session :=
  { settings, clientId, serverVersion, offset, link
    connectionTime := readStamp offset timeText
    table := Table.empty.seed firstId }

/-- What is done after an attempt. -/
inductive Onward where
  | redial (address : String) (redirects : Nat)
  | arrived (result : Except Failure Session)

/-- What is done after an attempt at an address to which so many redirects have led. -/
def Attempt.onward (settings : Settings) (clientId offset : Int) (address : String)
    (redirects : Nat) (a : Attempt) : Onward :=
  match a.verdict with
  | some (.ready serverVersion timeText firstId) =>
    .arrived (.ok (ofReady settings clientId offset a.link serverVersion timeText firstId))
  | some (.redirected target) =>
    if redirects < redirectLimit then .redial (redirectAddress target address) (redirects + 1)
    else .arrived (.error (.tooManyRedirects redirectLimit))
  | some (.failed failure) => .arrived (.error failure)
  | none => .arrived (.error .timeout)

end MarketLink.Session
