import MarketLink.Command.Program
import Std.Async.DNS
import Std.Async.TCP
import Std.Async.Timer

set_option autoImplicit false

namespace MarketLink.Command

open Session Std.Async Std.Net Wire

/-- A fault of the system as sessions know it. Its number may come with the sign turned. -/
def faultOf : IO.Error → IoFault
  | .otherError number words | .resourceBusy number words | .resourceVanished number words
  | .unsupportedOperation number words | .hardwareFault number words
  | .unsatisfiedConstraints number words | .illegalOperation number words
  | .protocolError number words | .timeExpired number words | .interrupted _ number words
  | .noFileOrDirectory _ number words | .invalidArgument _ number words
  | .permissionDenied _ number words | .resourceExhausted _ number words
  | .inappropriateType _ number words | .noSuchThing _ number words
  | .alreadyExists _ number words => .ofSystem words.capitalize number.toInt32.toInt.natAbs
  | .unexpectedEof => .ofKind .unexpectedEof
  | .userError words => ⟨.uncategorized, words⟩

abbrev Socket := TCP.Socket.Client

/-- What comes of waiting on a socket. -/
inductive Heard where
  | bytes (bytes : Bytes)
  | ended
  | fault (fault : IoFault)
  | silence

def Heard.reach (heard : Heard) (link : Link) : Link :=
  match heard with
  | .bytes data => link.receive data
  | .ended => link.receiveEnd
  | .fault met => link.receiveFault met
  | .silence => link

def readLimit : UInt64 := 65536

def inTime {α : Type} (millis : Nat) (action : Async α) : Async (Option α) :=
  Async.race (some <$> action) do
    sleep (.ofNat millis)
    return none

/-- Waits for what a socket brings, for at most so many milliseconds if there is a limit. After a
silence nobody listens any more: the bytes that come next are lost. -/
def listen (socket : Socket) (limit : Option Nat) : Async Heard := do
  let arrival := socket.recv? readLimit
  try
    match ← limit.elim (some <$> arrival) (inTime · arrival) with
    | some (some data) => return .bytes data.toList
    | some none => return .ended
    | none => return .silence
  catch e => return .fault (faultOf e)

/-- Carries to a socket what a link has written behind its first `sent` bytes. -/
def carry (socket : Socket) (settings : Settings) (sent : Nat) (link : Link) : Async Link := do
  let fresh := link.written.drop sent
  if fresh.isEmpty then return link
  try
    match ← inTime settings.writeTimeout.millis (socket.send fresh.toByteArray) with
    | some () => return link
    | none => return link.raise .timeout
  catch e => return link.raise (.io (faultOf e))

def places (endpoint : Endpoint) : Async (List SocketAddress) := do
  let port := endpoint.port.toUInt16
  let host := endpoint.host
  let bare := String.ofList ((host.toList.drop 1).dropLast)
  match IPv6Addr.ofString bare with
  | some place => if host = "[" ++ bare ++ "]" then return [.v6 ⟨place, port⟩]
  | none => pure ()
  let found ← DNS.getAddrInfo host (toString endpoint.port)
  return found.toList.map fun
    | .v4 place => .v4 ⟨place, port⟩
    | .v6 place => .v6 ⟨place, port⟩

def reachFirst : IoFault → List SocketAddress → Async (Except Failure Socket)
  | fault, [] => return .error (.io fault)
  | _, place :: rest => do
    try
      let socket ← TCP.Socket.Client.mk
      socket.connect place
      socket.noDelay
      return .ok socket
    catch e => reachFirst (faultOf e) rest

def dial (address : String) (millis : Nat) : Async (Except Failure Socket) := do
  match Endpoint.read address with
  | .error fault => return .error (.io fault)
  | .ok endpoint =>
    try
      let reached ← inTime millis do
        reachFirst ⟨.invalidInput, "could not resolve to any address"⟩ (← places endpoint)
      return reached.getD (.error .timeout)
    catch e => return .error (.io (faultOf e))

def left (moment : Nat) : Async Nat := do return moment - (← IO.monoMsNow)

/-- Goes through an attempt on a new connection, until it is decided or its time is up. -/
partial def attend (socket : Socket) (settings : Settings) (clientId : Int) (moment sent : Nat)
    (a : Attempt) : Async Attempt := do
  let heard := a.hearAll settings clientId
  let heard := if heard.verdict.isSome then heard.conclude
    else { heard with link := heard.link.flush }
  let link ← carry socket settings sent heard.link
  let a := { heard with link }
  if a.verdict.isSome then return a
  match ← listen socket (some (← left moment)) with
  | .silence =>
    let late := a.expire.conclude
    discard <| carry socket settings link.written.length late.link
    return late
  | news =>
    attend socket settings clientId moment link.written.length { a with link := news.reach link }

/-- Dials an address and follows redirects, until a session is open or none can be. -/
partial def reach (settings : Settings) (clientId offset : Int) (moment : Nat) (address : String)
    (redirects : Nat) : Async (Except Failure (Socket × Session)) := do
  match ← dial address (min settings.dialTimeout.millis (← left moment)) with
  | .error failure => return .error failure
  | .ok socket =>
    let a ← attend socket settings clientId moment 0 {}
    match a.onward settings clientId offset address redirects with
    | .redial next redirects => reach settings clientId offset moment next redirects
    | .arrived result => return result.map (socket, ·)

def openSession (settings : Settings) : Async (Except Failure (Socket × Session)) := do
  match settings.validate, settings.offset with
  | .error failure, _ => return .error failure
  | .ok (), .error failure => return .error failure
  | .ok (), .ok offset =>
    let clientId := settings.resolveClientId (← IO.rand 1 2147483647)
    let moment := (← IO.monoMsNow) + settings.connectTimeout.millis
    reach settings clientId offset moment settings.address 0

/-- Does a job until it is finished. Whenever something could be shown, waiting starts anew. -/
partial def work (socket : Socket) (began sent : Nat) (job : Job) : Async Job := do
  let moved := job.advance
  let fresh := moved.printed.drop job.printed.length
  for line in fresh do
    IO.println line
  let s := moved.session
  let link ← carry socket s.settings sent s.link
  let moved := { moved with session := { s with link } }
  if moved.isFinished then return moved
  let began ← if fresh.isEmpty then pure began else IO.monoMsNow
  let limit ← moved.patience.mapM fun span => left (began + span.millis)
  match ← listen socket limit with
  | .silence => return moved.expire
  | news =>
    work socket began link.written.length
      { moved with session := { s with link := news.reach link } }

def carryOut (command : Subcommand) (socket : Socket) (s : Session) : Async Ending := do
  let sent := s.link.written.length
  let job ← work socket (← IO.monoMsNow) sent (.start s command.work)
  let closed := job.session.close
  discard <| carry socket s.settings job.session.link.written.length closed.link
  try socket.shutdown catch _ => pure ()
  return job.ending?.getD { status := 1 }

def usage : List String :=
  ["Usage: market-link [--address HOST:PORT] [--client-id ID] [--debug] COMMAND", "",
    "Commands:",
    "  time",
    "  accounts",
    "  details SYMBOL [--exchange NAME] [--currency NAME]",
    "  history SYMBOL [--duration SPAN] [--bar-size SIZE] [--what-to-show KIND]",
    "  ticks SYMBOL [--count N] [--snapshot]",
    "  depth SYMBOL [--rows N] [--count N]"]

/-- Runs the program, with what it prints; gives its end. -/
def execute (args : List String) : Async Ending := do
  match Arguments.read args with
  | .error stop =>
    for line in usage do
      if stop = .help then IO.println line else IO.eprintln line
    return .ofStop stop
  | .ok args =>
    let found ← Settings.variableNames.mapM fun name => return (name, ← IO.getEnv name)
    match settings (fun name => (found.lookup name).join) args with
    | .error trouble => return .ofTrouble [] (some trouble)
    | .ok settings =>
      match ← openSession settings with
      | .error failure => return .ofTrouble [] (some (unopened failure))
      | .ok (socket, s) => carryOut args.command socket s

end MarketLink.Command

def main (args : List String) : IO UInt32 := do
  let ending ← (MarketLink.Command.execute args).block
  for line in ending.report do
    IO.eprintln line
  return ending.status.toUInt32
