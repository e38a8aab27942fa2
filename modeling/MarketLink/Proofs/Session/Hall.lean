import MarketLink.Proofs.Session.Aftermath

set_option autoImplicit false

namespace MarketLink.Session

open Correlation Wire

/-- What somebody comes for. -/
inductive Purpose where
  | request (key : Key) (slot : Slot) (streaming : Bool) (frame : Except Failure Bytes)
      (withdrawal : Option Bytes)
  | notice (frame : Except Failure Bytes)

inductive Visit where
  | outside (purpose : Purpose)
  | turnedAway
  | inside (purpose : Purpose)
  /-- It holds a guard until it is through with its request. -/
  | minding (n : Nat) (streaming : Bool)
  | leaving
  /-- It has given the last guard back, and tells those who wait for that. -/
  | notifying
  | gone

def Visit.hasGuard : Visit → Bool
  | .inside _ | .minding _ _ | .leaving => true
  | .outside _ | .turnedAway | .notifying | .gone => false

def Visit.minds (n : Nat) : Visit → Bool
  | .minding m _ => m == n
  | _ => false

/-- A caller is where its visit is through with it. A stream is set up as soon as its frame is
queued; a call is minded to its end. -/
def Caller.isThrough (streaming : Bool) (c : Caller) : Bool :=
  match c.stance with
  | .refused | .gone => true
  | .waiting => streaming
  | .fresh | .registered | .leaving _ _ | .ending _ _ | .telling _ => false

/-- Where a closer is. -/
inductive Closer where
  | flagging
  | shutting
  | signalling
  | waiting (waiter : Waiter)
  | queueing
  | joining
  | returned
  deriving Repr, DecidableEq

namespace Closer

/-- Those who wait for the guards are told that there is none left. -/
def notice : Closer → Closer
  | .waiting waiter => .waiting waiter.notice
  | closer => closer

def isShut : Closer → Bool
  | .flagging | .shutting => false
  | .signalling | .waiting _ | .queueing | .joining | .returned => true

def isSignalled : Closer → Bool
  | .flagging | .shutting | .signalling => false
  | .waiting _ | .queueing | .joining | .returned => true

def isDrained : Closer → Bool
  | .flagging | .shutting | .signalling => false
  | .waiting waiter => waiter == .returned
  | .queueing | .joining | .returned => true

end Closer

/-- A waiter does its next step; one that is parked can do none before it is noticed. -/
def waitOn (g : Gate) : Waiter → Waiter
  | .starting => Waiter.enlist .starting
  | .enlisted noticed => Waiter.look g (.enlisted noticed)
  | .parked noticed => Waiter.resume (.parked noticed)
  | .returned => .returned

/-- A session with those who visit it and those who close it. -/
structure Hall where
  crowd : Crowd
  visits : List Visit := []
  closers : List Closer := []
  keeper : Option Nat := none

namespace Hall

abbrev session (h : Hall) : Session := h.crowd.race.session

abbrev caller? (h : Hall) (n : Nat) : Option Caller := h.crowd.race.callers[n]?

/-- Something that can happen next. -/
inductive Move where
  | attend (v : Nat)
  | turn (n : Nat)
  /-- A call that waits polls a branch. The order does not matter, as nobody keeps what it finds. -/
  | look (v : Nat) (branch : Branch)
  | heed
  | proceed
  | carryOn (c : Nat)
  | visit (purpose : Purpose)
  | arrive
  | giveUp (v : Nat)
  | receive (destination : Destination)
  | lose (failure : Failure)
  | transport (change : Link → Link)
  | draw (question : Question)

/-- The parties of the session do it themselves; the rest comes from outside. -/
def Move.isOwn : Move → Bool
  | .attend _ | .turn _ | .look _ _ | .heed | .proceed | .carryOn _ => true
  | .visit _ | .arrive | .giveUp _ | .receive _ | .lose _ | .transport _ | .draw _ => false

def act (h : Hall) (move : Race.Move) : Hall := { h with crowd := h.crowd.step (.act move) }

def mark (h : Hall) (session : Session) : Hall := { h with crowd := h.crowd.aside session }

def go (h : Hall) (v : Nat) (visit : Visit) : Hall := { h with visits := h.visits.set v visit }

def put (h : Hall) (c : Nat) (closer : Closer) : Hall :=
    { h with closers := h.closers.set c closer }

def attend (h : Hall) (v : Nat) : Visit → Hall
  | .outside purpose =>
    match h.session.enter with
    | some session => (h.mark session).go v (.inside purpose)
    | none => h.go v .turnedAway
  | .inside (.request key slot streaming frame withdrawal) =>
    match frame with
    | .ok frame =>
      (h.act (.ask key slot streaming frame withdrawal)).go v
        (.minding h.crowd.race.callers.length streaming)
    | .error _ => h.go v .leaving
  | .inside (.notice frame) =>
    match frame with
    | .ok frame => (h.act (.transport fun _ => (h.session.send frame).1.link)).go v .leaving
    | .error _ => h.go v .leaving
  | .minding n streaming =>
    match h.caller? n with
    | some c => if c.isThrough streaming then h.go v .leaving else h
    | none => h
  | .leaving =>
    (h.mark h.session.leave).go v (if h.session.gate.release.2 then .notifying else .gone)
  | .notifying => { h.go v .gone with closers := h.closers.map Closer.notice }
  | .turnedAway | .gone => h

def carryOn (h : Hall) (c : Nat) : Closer → Hall
  | .flagging => (h.mark { h.session with closing := true }).put c .shutting
  | .shutting => (h.mark { h.session with gate := h.session.gate.beginClose.1 }).put c .signalling
  | .signalling => (h.mark { h.session with shutdown := true }).put c (.waiting .starting)
  | .waiting .returned => h.put c .queueing
  | .waiting waiter => h.put c (.waiting (waitOn h.session.gate waiter))
  | .queueing => if h.keeper = none then { h.put c .joining with keeper := some c } else h
  | .joining =>
    match h.crowd.race.loop with
    | .lost => { h.put c .returned with keeper := none }
    | _ => h
  | .returned => h

def call? (h : Hall) (v : Nat) : Option Nat :=
  match h.visits[v]? with
  | some (.minding n false) => some n
  | _ => none

/-- What a move leads to; one that is not possible now does not happen. -/
def step (h : Hall) : Move → Hall
  | .attend v =>
    match h.visits[v]? with
    | some visit => h.attend v visit
    | none => h
  | .turn n => h.act (.turn n)
  | .look v branch =>
    match h.call? v with
    | some n => if (h.session.polled? n false branch).isSome then h.act (.giveUp n) else h
    | none => h
  | .heed => if h.session.shutdown then h.act (.lose .closed) else h
  | .proceed => h.act .proceed
  | .carryOn c =>
    match h.closers[c]? with
    | some closer => h.carryOn c closer
    | none => h
  | .visit purpose => { h with visits := h.visits ++ [.outside purpose] }
  | .arrive => { h with closers := h.closers ++ [.flagging] }
  | .giveUp v =>
    match h.call? v with
    | some n => h.act (.giveUp n)
    | none => h
  | .receive destination => h.act (.receive destination)
  | .lose failure => h.act (.lose failure)
  | .transport change => h.act (.transport change)
  | .draw question => { h with crowd := h.crowd.step (.draw question) }

def run (h : Hall) (moves : List Move) : Hall := moves.foldl step h

theorem run_append (h : Hall) (first second : List Move) :
    h.run (first ++ second) = (h.run first).run second := List.foldl_append

theorem run_nil (h : Hall) : h.run [] = h := rfl

theorem run_cons (h : Hall) (move : Move) (rest : List Move) :
    h.run (move :: rest) = (h.step move).run rest := rfl

theorem aside_of_enter {s session : Session} (entered : s.enter = some session) :
    Crowd.Aside s session := by
  have aside := Crowd.aside_enter s
  rw [entered] at aside
  exact aside

section Alone

variable {h : Hall}

theorem step_attend {v : Nat} {visit : Visit} (there : h.visits[v]? = some visit) :
    h.step (.attend v) = h.attend v visit := by
  simp only [step, there]

theorem step_carryOn {c : Nat} {closer : Closer} (there : h.closers[c]? = some closer) :
    h.step (.carryOn c) = h.carryOn c closer := by
  simp only [step, there]

theorem closers_put {c : Nat} {closer : Closer} (there : h.closers[c]? = some closer)
    (next : Closer) :
    (h.put c next).closers[c]? = some next := by
  have inside := (List.getElem?_eq_some_iff.mp there).1
  exact List.getElem?_set_self inside

theorem run_replicate {move : Move} {act : Race.Move} (acts : ∀ h : Hall, h.step move = h.act act)
    (count : Nat) (h : Hall) :
    h.run (List.replicate count move) =
      { h with crowd := { h.crowd with race := h.crowd.race.run (List.replicate count act) } } := by
  induction count generalizing h with
  | zero => rfl
  | succ count ih =>
    rw [List.replicate_succ, List.replicate_succ, run_cons, ih, acts]
    rfl

theorem run_visit {v : Nat} {key : Key} {slot : Slot} {streaming : Bool} {frame : Bytes}
    {withdrawal : Option Bytes} {inside : Session}
    (there : h.visits[v]? = some (.outside (.request key slot streaming (.ok frame) withdrawal)))
    (entered : h.session.enter = some inside)
    (numbered : h.crowd.race.callers.length = h.session.table.requests.length) :
    (h.run (.attend v :: .attend v :: List.replicate 5 (.turn h.crowd.race.callers.length))).session
      =
      (inside.submit (Request.new key slot streaming) (.ok frame)).1 := by
  have within := (List.getElem?_eq_some_iff.mp there).1
  have passed : h.step (.attend v) =
      (h.mark inside).go v (.inside (.request key slot streaming (.ok frame) withdrawal)) := by
    rw [step_attend there]
    simp only [attend, entered]
  rw [run_cons, run_cons, passed, step_attend (List.getElem?_set_self within),
    run_replicate fun _ => rfl]
  refine Race.run_submit (h.mark inside).crowd.race key slot streaming frame withdrawal ?_
  exact numbered.trans (congrArg List.length (aside_of_enter entered).requests.symm)

theorem run_closer {c : Nat} (there : h.closers[c]? = some .flagging) :
    (h.run (List.replicate 3 (.carryOn c))).session = h.session.beginClose := by
  have first := step_carryOn there
  have second := step_carryOn (h := h.carryOn c .flagging) (closers_put there .shutting)
  have third := step_carryOn (h := (h.carryOn c .flagging).carryOn c .shutting)
    (closers_put (h := (h.carryOn c .flagging)) (closers_put there .shutting) .signalling)
  show (((h.step (.carryOn c)).step (.carryOn c)).step (.carryOn c)).session = _
  rw [first, second, third]
  rfl

end Alone

/-- A session that nobody uses yet; for the rest it may be in any state. -/
def opened (s : Session) (firstId : Int) : Hall := { crowd := { race := Race.opened s firstId } }

end Hall

end MarketLink.Session
