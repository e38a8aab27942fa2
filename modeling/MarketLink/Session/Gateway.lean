import MarketLink.Session.Opening

set_option autoImplicit false

namespace MarketLink.Session

open Wire

inductive Act where
  /-- Sends a payload as one frame, whatever its length. -/
  | send (payload : Bytes)
  | sendRaw (bytes : Bytes)
  | finish
  | reset
  deriving Repr, DecidableEq

def resetFault : IoFault := .ofSystem "Connection reset by peer" 104

def refusedFault : IoFault := .ofSystem "Connection refused" 111

def Link.meet (l : Link) : Act → Link
  | .send payload => l.receive (header payload.length ++ payload)
  | .sendRaw bytes => l.receive bytes
  | .finish => l.receiveEnd
  | .reset => l.receiveFault resetFault

structure Network where
  /-- The fault that a dial to an address meets; a dial that meets none leads to the gateway. -/
  fault? : String → Option IoFault

namespace Network

def connected : Network := ⟨fun _ => none⟩

/-- No dial leads anywhere, because of this fault. -/
def cutOff (fault : IoFault) : Network := ⟨fun _ => some fault⟩

def dialFault? (network : Network) (address : String) : Option IoFault :=
  match Endpoint.read address with
  | .ok _ => network.fault? address
  | .error fault => some fault

end Network

/-- A connection that was made while a session was opened. -/
structure Dial where
  address : String
  link : Link

/-- The payloads of the frames behind the opening sign; the first one is the hello's. -/
def payloadsWritten (bytes : Bytes) : List Bytes :=
  (cutFrames (bytes.drop openingSign.length)).frames

/-- What the writer of a link does next. -/
inductive Stroke where
  | wake
  | wakeLast
  | chunk
  /-- Writing the next chunk fails after so many bytes of it, or takes too long. -/
  | fault (count : Nat) (fault? : Option IoFault)
  deriving Repr, DecidableEq

namespace Link

def writeFailure : Option IoFault → Failure
  | some fault => .io fault
  | none => .timeout

def write (l : Link) : Stroke → Link
  | .wake => l.startWriting
  | .wakeLast => l.startLastWriting
  | .chunk => l.writeChunk
  | .fault count fault? => l.writeFault count (writeFailure fault?)

end Link

/-- An attempt between two steps of the client. -/
structure Encounter where
  attempt : Attempt := {}
  /-- The queue was found empty, and it is to be seen whether a fault was raised. -/
  looking : Bool := false

inductive Happening where
  | act (act : Act)
  | step
  | write (stroke : Stroke)
  deriving Repr, DecidableEq

namespace Encounter

/-- The client's next step. A decided attempt begins to close its link unless that is ready. -/
def step (settings : Settings) (clientId : Int) (e : Encounter) : Encounter :=
  let a := e.attempt
  match a.verdict with
  | some (.ready _ _ _) => e
  | some (.redirected _) | some (.failed _) =>
    { e with attempt := { a with
        link := { a.link with gate := a.link.gate.beginClose.1, shutdown := true } } }
  | none =>
    if a.phase.isDue then { e with attempt := a.speak settings clientId }
    else if e.looking then
      match a.link.fault with
      | some failure => { attempt := a.fail failure }
      | none => { e with looking := false }
    else
      match a.link.arrived with
      | payload :: rest =>
        { e with attempt := { a with link := { a.link with arrived := rest } }.hear payload }
      | [] =>
        if a.link.reading then { e with looking := true }
        else { e with attempt := a.fail (a.link.fault.getD .closed) }

def setLink (e : Encounter) (link : Link) : Encounter :=
  { e with attempt := { e.attempt with link } }

def happen (settings : Settings) (clientId : Int) (e : Encounter) : Happening → Encounter
  | .act act => e.setLink (e.attempt.link.meet act)
  | .step => e.step settings clientId
  | .write stroke => e.setLink (e.attempt.link.write stroke)

/-- What things that happen one after the other on a new connection lead to. -/
def run (settings : Settings) (clientId : Int) (happenings : List Happening) : Encounter :=
  happenings.foldl (happen settings clientId) {}

/-- Nothing more happens. The client goes on until it waits, and its time passes. -/
def settle (settings : Settings) (clientId : Int) (e : Encounter) : Attempt :=
  let looked := if e.looking then e.step settings clientId else e
  (looked.attempt.hearAll settings clientId).expire.conclude

end Encounter

def attempt (settings : Settings) (clientId : Int) (happenings : List Happening) : Attempt :=
  (Encounter.run settings clientId happenings).settle settings clientId

def Happening.ofActs (acts : List Act) : List Happening := .step :: acts.map .act

/-- Dials an address and follows redirects, with what happens on each connection in turn; when
there is no more, the gateway refuses. -/
def follow (network : Network) (settings : Settings) (clientId offset : Int) :
    List (List Happening) → String → Nat → List Dial × Except Failure Session
  | script, address, redirects =>
    match network.dialFault? address with
    | some fault => ([], .error (.io fault))
    | none =>
      match script with
      | [] => ([], .error (.io refusedFault))
      | happenings :: later =>
        let a := attempt settings clientId happenings
        let dial : Dial := ⟨address, a.link⟩
        match a.onward settings clientId offset address redirects with
        | .redial next redirects =>
          let (dials, result) := follow network settings clientId offset later next redirects
          (dial :: dials, result)
        | .arrived result => ([dial], result)

/-- Opens a session. The settings are checked first; `fresh` is the client's number if they name
none. -/
def connect (network : Network) (script : List (List Happening)) (settings : Settings)
    (fresh : Int) :
    List Dial × Except Failure Session :=
  match settings.validate, settings.offset with
  | .error failure, _ => ([], .error failure)
  | .ok (), .error failure => ([], .error failure)
  | .ok (), .ok offset =>
    follow network settings (settings.resolveClientId fresh) offset script settings.address 0

end MarketLink.Session
