import MarketLink.Proofs.Correlation.Task
import MarketLink.Proofs.Correlation.TaskStep
import MarketLink.Session.Opening
import MarketLink.Session.Stream

set_option autoImplicit false

namespace MarketLink.Session

open Correlation Time Wire

inductive Stance where
  | fresh
  /-- Another request is pending under its id, so it was not let in. -/
  | refused
  /-- Its request is pending; the frame is still to be queued. -/
  | registered
  | waiting
  | leaving (failure : Failure) (note : Option Bytes)
  | ending (failure : Failure) (note : Option Bytes)
  | telling (note : Option Bytes)
  | gone

/-- A call or a subscription. -/
structure Caller where
  frame : Bytes
  withdrawal : Option Bytes
  stance : Stance := .fresh

namespace Caller

/-- The caller of request `n` does its next step. A frame that is refused makes it take its request
back. -/
def turn (s : Session) (n : Nat) (c : Caller) : Session × Stance :=
  match c.stance with
  | .fresh =>
    match s.register n with
    | (s, .ok ()) => (s, .registered)
    | (s, .error _) => (s, .refused)
  | .registered =>
    match s.send c.frame with
    | (s, .ok ()) => (s, .waiting)
    | (s, .error failure) => (s, .leaving failure none)
  | .leaving failure note => ({ s with table := s.table.unregister n }, .ending failure note)
  | .ending failure note =>
    let (table, first) := s.table.complete n (some failure)
    ({ s with table }, .telling (if first then note else none))
  | .telling note => (s.withdraw note, .gone)
  | .refused | .waiting | .gone => (s, c.stance)

/-- A caller that waits gives up: its time is up, it is dropped, or its stream is cancelled. A call
that finds its request completed has nothing to do, and one without an id leaves its request in the
queue. -/
def giveUp (t : Table) (n : Nat) (c : Caller) : Stance :=
  match c.stance, t.request? n with
  | .waiting, some r =>
    if r.isDone && !r.streaming then .gone
    else
      match r.key with
      | .withoutId _ _ => .ending .cancelled none
      | .withId _ | .ticker _ => .leaving .cancelled c.withdrawal
  | stance, _ => stance

def isRegistered (c : Caller) : Bool :=
  match c.stance with
  | .fresh | .refused => false
  | .registered | .waiting | .leaving _ _ | .ending _ _ | .telling _ | .gone => true

/-- Nothing is left to do but to wait. -/
def isAtRest (c : Caller) : Bool :=
  match c.stance with
  | .refused | .waiting | .gone => true
  | .fresh | .registered | .leaving _ _ | .ending _ _ | .telling _ => false

end Caller

inductive Loop where
  /-- It takes a message to its request, or is about to take the next message. -/
  | serving (task : Task)
  | noting (failure : Failure)
  | signalling (failure : Failure)
  | detaching (failure : Failure)
  | closing (failure : Failure)
  | clearing (failure : Failure)
  | failing (failure : Failure) (task : Task)
  | lost

namespace Loop

def task : Loop → Task
  | .serving task | .failing _ task => task
  | .clearing failure => .clear failure
  | .noting _ | .signalling _ | .detaching _ | .closing _ | .lost => .idle

def work (s : Session) (task : Task) : Session × Task :=
  let (table, left, _) := task.advance s.table
  ({ s with table }, left)

def turn (s : Session) : Loop → Session × Loop
  | .serving task => ((work s task).1, .serving (work s task).2)
  | .noting failure => (s.noteEnd failure, .signalling failure)
  | .signalling failure => (s.signalDown, .detaching failure)
  | .detaching failure => (s.detach, .closing failure)
  | .closing failure => (s.closeLink, .clearing failure)
  | .clearing failure => ((work s (.clear failure)).1, .failing failure (work s (.clear failure)).2)
  | .failing failure task =>
    if task.isIdle then (s.announceEnd failure, .lost)
    else ((work s task).1, .failing failure (work s task).2)
  | .lost => (s, .lost)

def isDetached : Loop → Bool
  | .serving _ | .noting _ | .signalling _ | .detaching _ => false
  | .closing _ | .clearing _ | .failing _ _ | .lost => true

def isSwept : Loop → Bool
  | .failing _ _ | .lost => true
  | .serving _ | .noting _ | .signalling _ | .detaching _ | .closing _ | .clearing _ => false

end Loop

def Destination.task : Destination → Task
  | .request target handler _ => .seek target handler
  | .refusal id failure _ => .evict id failure
  | .event _ | .nobody => .idle

/-- A session with its callers, one for each request, and its loop. -/
structure Race where
  session : Session
  callers : List Caller := []
  loop : Loop := .serving .idle

namespace Race

/-- Something that can happen next. -/
inductive Move where
  | ask (key : Key) (slot : Slot) (streaming : Bool) (frame : Bytes) (withdrawal : Option Bytes)
  | turn (n : Nat)
  | giveUp (n : Nat)
  | receive (destination : Destination)
  | proceed
  | lose (failure : Failure)
  | transport (change : Link → Link)
  | close

def place (w : Race) (n : Nat) (c : Caller) (session : Session) (stance : Stance) : Race :=
  { w with session, callers := w.callers.set n { c with stance } }

/-- What a move leads to; one that is not possible now does not happen. The loop turns to the next
message or to the end when it has dealt with the message before. -/
def step (w : Race) : Move → Race
  | .ask key slot streaming frame withdrawal =>
    let table := (w.session.table.create (Request.new key slot streaming)).1
    { w with
      session := { w.session with table }
      callers := w.callers ++ [{ frame, withdrawal }] }
  | .turn n =>
    match w.callers[n]? with
    | some c => w.place n c (c.turn w.session n).1 (c.turn w.session n).2
    | none => w
  | .giveUp n =>
    match w.callers[n]? with
    | some c => w.place n c w.session (c.giveUp w.session.table n)
    | none => w
  | .receive destination =>
    match w.loop with
    | .serving (.settle []) => { w with loop := .serving destination.task }
    | _ => w
  | .proceed => { w with session := (w.loop.turn w.session).1, loop := (w.loop.turn w.session).2 }
  | .lose failure =>
    match w.loop with
    | .serving (.settle []) => { w with loop := .noting failure.classify }
    | _ => w
  | .transport change => { w with session := { w.session with link := change w.session.link } }
  | .close => { w with session := w.session.beginClose }

def run (w : Race) (moves : List Move) : Race := moves.foldl step w

theorem run_append (w : Race) (first second : List Move) :
    w.run (first ++ second) = (w.run first).run second := List.foldl_append

theorem run_proceed_serving (count : Nat) (w : Race) (task : Task)
    (serving : w.loop = .serving task) :
    let after := Task.proceed count w.session.table task
    w.run (List.replicate count .proceed) =
      { w with session := { w.session with table := after.1 }, loop := .serving after.2 } := by
  induction count generalizing w task with
  | zero =>
    show w = _
    obtain ⟨_, _, _⟩ := w
    cases serving
    rfl
  | succ count ih =>
    rw [List.replicate_succ, run, List.foldl_cons, ← run]
    rw [ih (w.step .proceed) (Loop.work w.session task).2 (by rw [step, serving, Loop.turn])]
    rw [step, serving]
    rfl

theorem run_receive (s : Session) (callers : List Caller) (destination : Destination) :
    ∃ count, run ⟨s, callers, .serving .idle⟩
      (.receive destination :: List.replicate count .proceed) =
      ⟨{ s with table := (destination.deliver s.table).1 }, callers, .serving .idle⟩ := by
  have alone : ∃ count, Task.proceed count s.table destination.task =
      ((destination.deliver s.table).1, .idle) := by
    cases destination with
    | request target handler otherwise => exact Task.proceed_seek target handler s.table
    | refusal id failure otherwise =>
      exact Task.proceed_operation s.table (.fail id failure) _ rfl
    | event _ | nobody => exact ⟨0, rfl⟩
  obtain ⟨count, alone⟩ := alone
  refine ⟨count, ?_⟩
  rw [run, List.foldl_cons, ← run]
  rw [run_proceed_serving count _ destination.task rfl]
  simp only [step, Task.idle, alone]

theorem run_proceed_failing (failure : Failure) (callers : List Caller) (endings : List Ending)
    (s : Session) :
    run ⟨s, callers, .failing failure (.settle endings)⟩
        (List.replicate (endings.length + 1) .proceed) =
      ⟨({ s with
          table := endings.foldl (fun t ending => (t.complete ending.1 ending.2).1) s.table
        } : Session).announceEnd failure, callers, .lost⟩ := by
  induction endings generalizing s with
  | nil => rfl
  | cons ending rest ih =>
    rw [List.length_cons, List.replicate_succ, run, List.foldl_cons, ← run]
    exact ih { s with table := (s.table.complete ending.1 ending.2).1 }

theorem run_lose (s : Session) (callers : List Caller) (failure : Failure) :
    ∃ count, run ⟨s, callers, .serving .idle⟩ (.lose failure :: List.replicate count .proceed) =
      ⟨s.lose failure, callers, .lost⟩ := by
  let closed := (s.noteEnd failure.classify).signalDown.detach.closeLink
  let numbers := closed.table.takeAll.2
  let endings := numbers.map fun n => (n, some failure.classify)
  refine ⟨5 + (endings.length + 1), ?_⟩
  rw [← List.replicate_append_replicate, ← List.cons_append, run_append]
  have emptied : run ⟨s, callers, .serving .idle⟩ (.lose failure :: List.replicate 5 .proceed) =
      ⟨{ closed with table := closed.table.takeAll.1 }, callers,
        .failing failure.classify (.settle endings)⟩ := rfl
  rw [emptied, run_proceed_failing, List.foldl_map]
  rfl

end Race

namespace Caller

def turns : Nat → Session → Nat → Caller → Session × Caller
  | 0, s, _, c => (s, c)
  | count + 1, s, n, c =>
    turns count (c.turn s n).1 n { c with stance := (c.turn s n).2 }

/-- A caller that takes its request back cancels it, and tells the gateway if the request was
open. -/
theorem turns_leaving (s : Session) (n : Nat) (c : Caller) (failure : Failure)
    (note : Option Bytes) (leaving : c.stance = .leaving failure note) :
    (turns 3 s n c).1 =
      if (s.cancelRequest n failure).2 then (s.cancelRequest n failure).1.withdraw note
      else (s.cancelRequest n failure).1 := by
  simp only [turns, turn, leaving]
  cases first : ((s.table.unregister n).complete n (some failure)).2 <;>
    simp [cancelRequest, Table.cancel, withdraw, first]

theorem turns_fresh (s : Session) (n : Nat) (c : Caller) (fresh : c.stance = .fresh) :
    (turns 5 s n c).1 =
      match s.register n with
      | (s, .ok ()) => (s.place n c.frame).1
      | (s, .error _) => s := by
  rw [turns, turn, fresh]
  rcases s.register n with ⟨entered, failure | _⟩
  · rfl
  · simp only
    rw [turns, turn, place]
    simp only
    rcases entered.send c.frame with ⟨sent, failure | _⟩
    · simp only
      rw [turns_leaving _ _ _ failure none rfl]
      split <;> rfl
    · rfl

end Caller

namespace Race

theorem callers_place {w : Race} {n : Nat} {c : Caller} (there : w.callers[n]? = some c)
    (session : Session) (stance : Stance) (m : Nat) :
    (w.place n c session stance).callers[m]? =
      if n = m then some { c with stance } else w.callers[m]? := by
  have inside := (List.getElem?_eq_some_iff.mp there).1
  simp only [place, List.getElem?_set, inside, ↓reduceIte]

theorem run_turns (count : Nat) (w : Race) (n : Nat) (c : Caller) (there : w.callers[n]? = some c) :
    w.run (List.replicate count (.turn n)) =
      { w with
        session := (c.turns count w.session n).1
        callers := w.callers.set n (c.turns count w.session n).2 } := by
  induction count generalizing w c with
  | zero =>
    show w = _
    obtain ⟨session, callers, loop⟩ := w
    simp only [Caller.turns, Race.mk.injEq, true_and, and_true]
    apply List.ext_getElem?
    intro m
    rw [List.getElem?_set]
    split
    · rename_i same
      subst same
      split
      · exact there
      · rename_i outside
        exact List.getElem?_eq_none (Nat.le_of_not_lt outside)
    · rfl
  | succ count ih =>
    rw [List.replicate_succ, run, List.foldl_cons, ← run, step]
    simp only [there]
    rw [ih _ { c with stance := (c.turn w.session n).2 } (by rw [callers_place there, if_pos rfl])]
    simp [place, Caller.turns]

theorem run_submit (w : Race) (key : Key) (slot : Slot) (streaming : Bool) (frame : Bytes)
    (withdrawal : Option Bytes) (numbered : w.callers.length = w.session.table.requests.length) :
    (w.run (.ask key slot streaming frame withdrawal ::
        List.replicate 5 (.turn w.callers.length))).session =
      (w.session.submit (Request.new key slot streaming) (.ok frame)).1 := by
  rw [run, List.foldl_cons, ← run]
  rw [run_turns 5 _ w.callers.length { frame, withdrawal } (by simp [step])]
  simp only [step, submit]
  rw [Caller.turns_fresh _ _ _ rfl, numbered]
  have number : (w.session.table.create (Request.new key slot streaming)).2 =
      w.session.table.requests.length := rfl
  rw [number]
  split
  · rename_i entered registered
    rw [registered]
    simp only
    rcases entered.place _ frame with ⟨s, failure | _⟩ <;> simp only
  · rename_i entered failure registered
    rw [registered]

/-- A call that waits and gives up alone is given up. What would be sent to withdraw it goes with an
id only. -/
theorem run_giveUp (w : Race) (call : Call) (c : Caller) (r : Request)
    (there : w.callers[call.request]? = some c) (waiting : c.stance = .waiting)
    (found : w.session.table.request? call.request = some r) (single : r.streaming = false)
    (same : c.withdrawal = call.withdrawal)
    (silent : r.key.id? = none → call.withdrawal = none) :
    (w.run (.giveUp call.request :: List.replicate 3 (.turn call.request))).session =
      w.session.abandon call := by
  rw [run, List.foldl_cons, ← run, step]
  simp only [there]
  rw [run_turns 3 _ call.request { c with stance := c.giveUp w.session.table call.request }
    (by rw [callers_place there, if_pos rfl])]
  simp only [place, abandon, Session.outcome?, found, Option.bind_some]
  have gaveUp : c.giveUp w.session.table call.request =
      if r.isDone then .gone
      else if r.key.id? = none then .ending .cancelled none
      else .leaving .cancelled c.withdrawal := by
    simp only [Caller.giveUp, waiting, found, single, Bool.not_false, Bool.and_true]
    cases r.key <;> simp [Key.id?]
  rw [gaveUp]
  by_cases done : r.isDone = true
  · have ended : r.outcome.isSome = true := done
    rw [if_pos done, if_pos ended]
    rfl
  · have running : ¬ r.outcome.isSome = true := done
    rw [if_neg done, if_neg running]
    by_cases coded : r.key.id? = none
    · rw [if_pos coded, silent coded]
      cases kept : r.key with
      | withId _ | ticker _ =>
        rw [kept] at coded
        cases coded
      | withoutId _ _ =>
        simp only [Caller.turns, Caller.turn, Table.abandon, found, Option.map_some, kept]
        cases (w.session.table.complete call.request (some .cancelled)).2 <;> rfl
    · rw [if_neg coded, Caller.turns_leaving _ _ _ .cancelled c.withdrawal rfl, same]
      cases kept : r.key with
      | withoutId _ _ =>
        rw [kept] at coded
        exact absurd rfl coded
      | withId _ | ticker _ =>
        simp only [cancelRequest, Table.abandon, found, Option.map_some, kept]
        rfl

end Race

end MarketLink.Session
