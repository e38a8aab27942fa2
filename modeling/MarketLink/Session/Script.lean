import MarketLink.Session.Gateway
import MarketLink.Session.Stream

set_option autoImplicit false

namespace MarketLink.Session

open Correlation Market Wire

inductive Step where
  /-- A caller asks. With `await` the step lasts until the answer is there or the call's time is up;
  with `stall` the gateway does not read meanwhile. -/
  | ask (question : Question) (await stall : Bool)
  | drop (call : Nat)
  | subscribe (feed : Feed)
  | cancel (stream : Nat)
  | dropStream (stream : Nat)
  | setMarketDataType (kind : Int)
  | gateway (acts : List Act)
  | close
  | letGo

inductive StepValue where
  | nothing
  | call (number : Nat)
  | stream (result : Except Failure Stream)
  | done (result : Except Failure Unit)

inductive CallState where
  | running (call : Call)
  | finished (result : Except Failure Reply)
  | settled

structure Reader where
  stream : Stream
  read : Nat := 0
  ended : Bool := false

/-- What a reader has noticed: items, and the end with its reason if there is one. -/
structure StreamNews where
  stream : Nat
  items : List Item
  ended : Option (Option Failure)

/-- All that could be noticed of a step. -/
structure Report where
  value : StepValue
  sent : List Bytes
  events : List Event
  calls : List (Nat × Except Failure Reply)
  streams : List StreamNews
  /-- The connection is up; nobody can say once the owner has let go. -/
  connected : Option Bool
  lastFailure : Option Failure

/-- A session with everyone who uses it. -/
structure Stage where
  session : Session
  calls : List CallState := []
  readers : List Reader := []
  gone : Bool := false
  seen : Nat := 0

namespace Stage

/-- The stage in front of a session that has just been opened. What has come in behind the first id
is handled at once. -/
def ofSession (s : Session) : Stage :=
  { session := s.dispatch, seen := s.link.written.length }

def settle (stage : Stage) : Stage :=
  let s := stage.session.dispatch
  { stage with session := { s with link := s.link.flush } }

def finishCall (s : Session) : CallState → Session × CallState
  | .running call =>
    match s.result? call with
    | some result => (s.leave, .finished result)
    | none => (s, .running call)
  | state => (s, state)

def endCall (finish : CallState) (s : Session) : CallState → Session × CallState
  | .running call => (s.giveUp call, finish)
  | state => (s, state)

def sweep (step : Session → CallState → Session × CallState) :
    Session → List CallState → Session × List CallState
  | s, [] => (s, [])
  | s, state :: rest =>
    let (s, state) := step s state
    let (s, rest) := sweep step s rest
    (s, state :: rest)

def eachCall (step : Session → CallState → Session × CallState) (stage : Stage) : Stage :=
  let (session, calls) := sweep step stage.session stage.calls
  { stage with session, calls }

def dropCall (stage : Stage) (call : Nat) : Stage :=
  match stage.calls[call]? with
  | some state =>
    let (session, state) := endCall .settled stage.session state
    { stage with session, calls := stage.calls.set call state }
  | none => stage

def finishCalls (stage : Stage) : Stage := stage.eachCall finishCall

def isRunning (stage : Stage) (call : Nat) : Bool :=
  match stage.calls[call]? with
  | some (.running _) => true
  | _ => false

def passDeadlines (stage : Stage) : Stage :=
  if stage.session.settings.requestTimeout.isSome then
    stage.eachCall (endCall (.finished (.error .timeout)))
  else stage

def ask (stage : Stage) (question : Question) : Stage :=
  match stage.session.ask question with
  | (session, .ok call) => { stage with session, calls := stage.calls ++ [.running call] }
  | (session, .error failure) =>
    { stage with session, calls := stage.calls ++ [.finished (.error failure)] }

/-- The gateway does not read until the time of a write is up. -/
def stall (stage : Stage) : Stage :=
  let link := stage.session.link
  { stage with
    session := { stage.session with link := link.startWriting.writeFault 0 .timeout } }

def withReader (stage : Stage) (n : Nat) (change : Session → Reader → Session × Reader) : Stage :=
  match stage.readers[n]? with
  | none => stage
  | some reader =>
    let (session, reader) := change stage.session reader
    { stage with session, readers := stage.readers.set n reader }

def cancelReader (s : Session) (reader : Reader) : Session × Reader :=
  let (s, stream) := s.cancelStream reader.stream
  (s, { reader with stream })

def dropReader (s : Session) (reader : Reader) : Session × Reader :=
  let (s, reader) := cancelReader s reader
  (s, { reader with ended := true })

def subscribe (stage : Stage) (feed : Feed) : Stage × StepValue :=
  match stage.session.subscribe feed with
  | (session, .ok stream) =>
    ({ stage with session, readers := stage.readers ++ [{ stream }] }, .stream (.ok stream))
  | (session, .error failure) => ({ stage with session }, .stream (.error failure))

def meet (stage : Stage) (act : Act) : Stage :=
  { stage with
    session := { stage.session with link := stage.session.link.meet act } }.settle

def act (stage : Stage) : Step → Stage × StepValue
  | .ask question await stall =>
    let number := stage.calls.length
    let asked := stage.ask question
    let asked := (if stall then asked.stall else asked).settle.finishCalls
    (if await && asked.isRunning number then asked.passDeadlines else asked, .call number)
  | .drop call => (stage.dropCall call, .nothing)
  | .subscribe feed => stage.subscribe feed
  | .cancel stream => (stage.withReader stream cancelReader, .nothing)
  | .dropStream stream => (stage.withReader stream dropReader, .nothing)
  | .setMarketDataType kind =>
    let (session, result) := stage.session.setMarketDataType kind
    ({ stage with session }, .done result)
  | .gateway acts => (acts.foldl meet stage, .nothing)
  | .close => ({ stage with session := stage.session.close }, .nothing)
  | .letGo =>
    let dropped := stage.eachCall (endCall .settled)
    ({ dropped with session := dropped.session.letGo, gone := true }, .nothing)

def callNews : CallState × Nat → Option (Nat × Except Failure Reply)
  | (.finished result, n) => some (n, result)
  | _ => none

def readerNews (s : Session) : Reader × Nat → Option StreamNews
  | (reader, n) =>
    let fresh := (s.items reader.stream).drop reader.read
    let done := s.isOver reader.stream
    if reader.ended || (fresh.isEmpty && !done) then none
    else some ⟨n, fresh, if done then some (s.lastFailure reader.stream) else none⟩

def readOn (s : Session) (reader : Reader) : Reader :=
  { reader with
    read := (s.items reader.stream).length
    ended := reader.ended || s.isOver reader.stream }

def callReported : CallState → CallState
  | .finished _ => .settled
  | state => state

/-- The payloads that the gateway has received since it last looked. -/
def sent (stage : Stage) : List Bytes :=
    (cutFrames (stage.session.link.written.drop stage.seen)).frames

def report (stage : Stage) (value : StepValue) : Stage × Report :=
  let s := stage.session
  ({ stage with
      session := { s with events := [] }
      calls := stage.calls.map callReported
      readers := stage.readers.map (readOn s)
      seen := s.link.written.length },
    { value
      sent := stage.sent
      events := s.events
      calls := stage.calls.zipIdx.filterMap callNews
      streams := stage.readers.zipIdx.filterMap (readerNews s)
      connected := if stage.gone then none else some s.isConnected
      lastFailure := if stage.gone then none else s.terminal })

def step (stage : Stage) (s : Step) : Stage × Report :=
  let (stage, value) := stage.act s
  stage.settle.finishCalls.report value

def run (stage : Stage) (steps : List Step) : List Report :=
  (steps.foldl
    (fun (stage, reports) s => let (stage, report) := step stage s; (stage, report :: reports))
    (stage, [])).2.reverse

end Stage

structure Opened where
  clientId : Int
  serverVersion : Int
  connectionTime : Option Time.Instant

structure Transcript where
  connect : Except Failure Opened
  dials : List Dial
  reports : List Report

def play (network : Network) (script : List (List Act)) (settings : Settings) (fresh : Int)
    (steps : List Step) : Transcript :=
  match Session.connect network (script.map Happening.ofActs) settings fresh with
  | (dials, .error failure) => ⟨.error failure, dials, []⟩
  | (dials, .ok s) =>
    ⟨.ok ⟨s.clientId, s.serverVersion, s.connectionTime⟩, dials, (Stage.ofSession s).run steps⟩

end MarketLink.Session
