import MarketLink.Command.Arguments
import MarketLink.Command.Display

set_option autoImplicit false

namespace MarketLink.Command

open Correlation Market Session

/-- What a command asks of a session. -/
inductive Work where
  | ask (question : Question)
  | watch (feed : Feed) (count : Nat)

def share (symbol : String) : Contract := .stock symbol "SMART" "USD"

def Subcommand.work : Subcommand → Work
  | .time => .ask .currentTime
  | .accounts => .ask .managedAccounts
  | .details symbol exchange currency => .ask (.contractDetails (.stock symbol exchange currency))
  | .history symbol duration barSize whatToShow =>
    .ask (.historicalBars (share symbol) { duration, barSize, whatToShow })
  | .ticks symbol count snapshot => .watch (.ticks (share symbol) "" snapshot) count
  | .depth symbol rows count => .watch (.depth (share symbol) rows false) count

/-- How far a command has come. -/
inductive Progress where
  | asking (call : Call)
  | watching (stream : Stream) (read left : Nat)
  | finished (trouble : Option Trouble)

structure Job where
  session : Session
  progress : Progress
  printed : List String := []

namespace Job

def isFinished (job : Job) : Bool :=
  match job.progress with
  | .finished _ => true
  | _ => false

def start (s : Session) : Work → Job
  | .ask question =>
    match s.ask question with
    | (session, .ok call) => { session, progress := .asking call }
    | (session, .error failure) =>
      { session, progress := .finished (some (.ofFailure failure)) }
  | .watch feed count =>
    match s.subscribe feed with
    | (session, .ok stream) => { session, progress := .watching stream 0 count }
    | (session, .error failure) =>
      { session, progress := .finished (some (.ofFailure failure)) }

def finishCall (job : Job) (session : Session) (result : Except Failure Reply) : Job :=
  match result with
  | .ok reply =>
    { session, progress := .finished none, printed := job.printed ++ replyLines reply }
  | .error failure =>
    { job with session, progress := .finished (some (.ofFailure failure)) }

/-- Ends the reading of a stream: a failure that has ended the stream is reported. -/
def finishStream (job : Job) (stream : Stream) : Job :=
  let trouble := (job.session.lastFailure stream).map fun failure =>
    { message := "stream ended: " ++ failure.message : Trouble }
  { job with
    session := (job.session.cancelStream stream).1
    progress := .finished trouble }

def look (job : Job) : Job :=
  match job.progress with
  | .finished _ => job
  | .asking call =>
    match job.session.result? call with
    | some result => job.finishCall job.session.leave result
    | none => job
  | .watching stream read left =>
    let fresh := ((job.session.items stream).drop read).take left
    let after :=
      { job with
        progress := .watching stream (read + fresh.length) (left - fresh.length)
        printed := job.printed ++ fresh.map itemLine }
    if left ≤ fresh.length || job.session.isOver stream then after.finishStream stream else after

/-- Looks after every turn of the session's loop, for at most `turns` turns. -/
def advanceBy : Nat → Job → Job
  | 0, job => job.look
  | turns + 1, job =>
    let seen := job.look
    if seen.isFinished then seen
    else
      match seen.session.next? with
      | none => seen
      | some session => advanceBy turns { seen with session }

def advance (job : Job) : Job :=
  let moved := advanceBy job.session.turnsLeft job
  { moved with session := { moved.session with link := moved.session.link.flush } }

/-- The time to wait is up: a call times out, and a stream is read no further. -/
def expire (job : Job) : Job :=
  match job.progress with
  | .finished _ => job
  | .asking call => job.finishCall (job.session.giveUp call) (.error .timeout)
  | .watching stream _ _ => job.finishStream stream

def itemPatience : Span := .ofMillis 30000

/-- How long to wait for what comes next; without one, as long as the connection lasts. -/
def patience (job : Job) : Option Span :=
  match job.progress with
  | .asking _ => job.session.settings.requestTimeout
  | .watching _ _ _ => some itemPatience
  | .finished _ => none

end Job

end MarketLink.Command
