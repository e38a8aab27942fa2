import MarketLink.Command.Job
import MarketLink.Session.Gateway
import MarketLink.Settings.Environment

set_option autoImplicit false

namespace MarketLink.Command

open Session

structure Ending where
  status : Nat
  output : List String := []
  report : List String := []
  deriving Repr, DecidableEq

namespace Ending

def ofStop : Stop → Ending
  | .help => { status := 0 }
  | .refused => { status := 2 }

/-- The end of a program with what it has printed, and in trouble or not. A text with line ends in
it is several lines. -/
def ofTrouble (printed : List String) (trouble : Option Trouble) : Ending :=
  let output := printed.flatMap (·.splitOn "\n")
  match trouble with
  | none => { status := 0, output }
  | some trouble => { status := 1, output, report := trouble.lines }

end Ending

/-- The settings of a run: the environment's, over which the arguments go. -/
def settings (env : Settings.Environment) (args : Arguments) : Except Trouble Settings :=
  match Settings.ofEnvironment env with
  | .error failure => .error (.within "reading configuration" failure)
  | .ok s =>
    .ok { s with
      address := args.address.getD s.address
      clientId := args.clientId.or s.clientId }

def unopened (failure : Failure) : Trouble := .within "connecting to gateway" failure

/-- The end of a job that is finished; the session is closed, which loses nothing that was
printed. -/
def Job.ending? (job : Job) : Option Ending :=
  match job.progress with
  | .finished trouble => some (.ofTrouble job.printed trouble)
  | _ => none

/-- The gateway answers each frame behind the first two with its next group of acts, until the job
is finished or nothing more comes. -/
def converse : List (List Act) → Nat → Job → Job
  | [], _, job => job.advance
  | acts :: later, answered, job =>
    let moved := job.advance
    if moved.isFinished then moved
    else if answered < (payloadsWritten moved.session.link.written).length then
      let s := moved.session
      converse later (answered + 1)
        { moved with session := { s with link := acts.foldl Link.meet s.link } }
    else moved

structure Outcome where
  /-- How the program ended; a program that waits for a reply that never comes does not. -/
  ending : Option Ending
  dials : List Dial

def withLast (dials : List Dial) (link : Link) : List Dial :=
  match dials.getLast? with
  | some dial => dials.dropLast ++ [{ dial with link }]
  | none => dials

def perform (command : Subcommand) (responses : List (List Act)) (dials : List Dial) (s : Session) :
    Outcome :=
  let talked := converse responses 2 (Job.start s command.work)
  let done := if talked.patience.isSome then talked.expire else talked
  { ending := done.ending?, dials := withLast dials done.session.close.link }

def run (network : Network) (script responses : List (List Act)) (env : Settings.Environment)
    (fresh : Int) (args : List String) : Outcome :=
  match Arguments.read args with
  | .error stop => ⟨some (.ofStop stop), []⟩
  | .ok args =>
    match settings env args with
    | .error trouble => ⟨some (.ofTrouble [] (some trouble)), []⟩
    | .ok s =>
      match Session.connect network (script.map Happening.ofActs) s fresh with
      | (dials, .error failure) => ⟨some (.ofTrouble [] (some (unopened failure))), dials⟩
      | (dials, .ok session) => perform args.command responses dials session

end MarketLink.Command
