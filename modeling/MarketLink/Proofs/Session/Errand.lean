import MarketLink.Proofs.Session.Lasting
import MarketLink.Proofs.Session.Outflow
import MarketLink.Proofs.Session.Quiet

set_option autoImplicit false

namespace MarketLink.Session

open Correlation Market Message Time Wire

/-- What somebody comes with. -/
inductive Errand where
  | call (question : Question)
  | stream (feed : Feed)

namespace Errand

/-- The key under a number, which is an id or tells requests for one reply code apart. -/
def key (number : Int) : Errand → Key
  | .call question =>
    match question.code? with
    | some code => .withoutId code number
    | none => .withId number
  | .stream _ => .ticker number

def slot : Errand → Slot
  | .call question => question.slot
  | .stream feed => feed.slot

def streaming : Errand → Bool
  | .call _ => false
  | .stream _ => true

/-- The frame that asks for it; a feed is checked first. -/
def frame (number : Int) : Errand → Except Failure Bytes
  | .call question => (question.frame ((Errand.call question).key number)).mapError .protocol
  | .stream feed => feed.check.bind fun _ => (feed.frame number).mapError .protocol

def withdrawal? (number : Int) : Errand → Option Bytes
  | .call question => question.withdrawal? ((Errand.call question).key number)
  | .stream feed => feed.withdrawal? number

def request (number : Int) (errand : Errand) : Request :=
  Request.new (errand.key number) errand.slot errand.streaming

end Errand

def IsNumber (number : Int) : Prop := 1 ≤ number ∧ number ≤ greatestId

instance (number : Int) : Decidable (IsNumber number) := inferInstanceAs (Decidable (_ ∧ _))

theorem isNumber_bump {counter : Int} (counting : IsNumber counter) :
    (bump counter).1 = counter ∧ IsNumber (bump counter).2 := by
  obtain ⟨least, greatest⟩ := counting
  have some : counter ≠ 0 := by omega
  unfold bump
  rw [if_neg some]
  refine ⟨rfl, ?_⟩
  dsimp only
  split
  · exact ⟨Int.le_refl 1, by decide⟩
  · exact ⟨by omega, by omega⟩

/-- A frame that was queued. -/
inductive Letter where
  | request (n : Nat) (frame : Bytes)
  | withdrawal (n : Nat) (frame : Bytes)
  | other (frame : Bytes)
  deriving Repr, DecidableEq

namespace Letter

def frame : Letter → Bytes
  | .request _ frame | .withdrawal _ frame | .other frame => frame

def isAbout (n : Nat) : Letter → Bool
  | .request m _ | .withdrawal m _ => m == n
  | .other _ => false

end Letter

/-- A session with its callers, their errands and what was queued. -/
structure Office where
  crowd : Crowd
  errands : List (Errand × Int) := []
  posted : List Letter := []

namespace Office

abbrev session (w : Office) : Session := w.crowd.race.session

abbrev caller? (w : Office) (n : Nat) : Option Caller := w.crowd.race.callers[n]?

/-- Something that can happen next. -/
inductive Move where
  /-- Somebody comes with an errand, and makes up a request under a number. -/
  | come (errand : Errand) (number : Int)
  | turn (n : Nat)
  /-- A caller that waits gives up: it is dropped, or its stream is cancelled. -/
  | giveUp (n : Nat)
  | look (n : Nat)
  /-- The time of a call that waits is up; it looks once more. -/
  | expire (n : Nat)
  | draw (question : Question)
  | enter
  | leave
  | switch (kind : Int)
  /-- The loop takes what has come in, unless it is to stop. -/
  | fetch
  | proceed
  | read (reading : Reading)
  | write (stroke : Stroke)
  | close
  | letGo

/-- Something that the session's parties can do, whatever they have come with. -/
def act (w : Office) (move : Race.Move) : Office := { w with crowd := w.crowd.step (.act move) }

def setLink (w : Office) (link : Link) : Office := w.act (.transport fun _ => link)

/-- A frame goes to the link; if it is queued, the letter is kept. -/
def post (w : Office) (letter : Letter) : Office :=
  match w.session.send letter.frame with
  | (s, .ok ()) => { w.setLink s.link with posted := w.posted ++ [letter] }
  | (_, .error _) => w

/-- The letter that a caller's next step queues, if it can be queued. -/
def letter? (w : Office) (n : Nat) : Option Letter :=
  match w.caller? n with
  | some c =>
    match c.stance with
    | .registered => some (.request n c.frame)
    | .telling (some note) => some (.withdrawal n note)
    | _ => none
  | none => none

def letters (w : Office) (n : Nat) : List Letter :=
  (w.letter? n).toList.filter fun letter => (w.session.send letter.frame).2.isOk

/-- The loop takes what has come in, when it has nothing else to do. -/
def fetch (w : Office) : Office :=
  match w.crowd.race.loop with
  | .serving (.settle []) =>
    if w.session.shutdown then w.act (.lose .closed)
    else
      match w.session.link.take with
      | (_, none) => w
      | (link, some (.error failure)) => (w.setLink link).act (.lose failure)
      | (link, some (.ok payload)) =>
        match Arrival.read w.session.offset payload with
        | .error e => (w.setLink link).act (.lose (.protocol e))
        | .ok arrival => (w.setLink link).act (.receive (destination arrival))
  | _ => w

/-- What a move leads to; one that is not possible now does not happen. -/
def step (w : Office) : Move → Office
  | .come errand number =>
    match errand.frame number with
    | .ok frame =>
      if IsNumber number then
        { w.act (.ask (errand.key number) errand.slot errand.streaming frame
            (errand.withdrawal? number)) with
          errands := w.errands ++ [(errand, number)] }
      else w
    | .error _ => w
  | .turn n => { w.act (.turn n) with posted := w.posted ++ w.letters n }
  | .giveUp n => w.act (.giveUp n)
  | .look n => { w with crowd := w.crowd.step (.look n) }
  | .expire n => { w with crowd := w.crowd.step (.expire n) }
  | .draw question => { w with crowd := w.crowd.step (.draw question) }
  | .enter => { w with crowd := w.crowd.step .enter }
  | .leave => { w with crowd := w.crowd.step .leave }
  | .switch kind =>
    match reqMarketDataType kind with
    | .ok frame => w.post (.other frame)
    | .error _ => w
  | .fetch => w.fetch
  | .proceed => w.act .proceed
  | .read reading => w.setLink (w.session.link.read reading)
  | .write stroke => w.setLink (w.session.link.write stroke)
  | .close => w.act .close
  | .letGo => { w with crowd := w.crowd.step .letGo }

def run (w : Office) (moves : List Move) : Office := moves.foldl step w

theorem run_append (w : Office) (first second : List Move) :
    w.run (first ++ second) = (w.run first).run second := List.foldl_append

theorem run_cons (w : Office) (move : Move) (rest : List Move) :
    w.run (move :: rest) = (w.step move).run rest := rfl

/-- An office in which nobody has asked for anything yet; for the rest its session may be in any
state. -/
def opened (s : Session) (firstId : Int) : Office := { crowd := { race := Race.opened s firstId } }

/-- A letter goes on the link, or nothing happens. -/
theorem post_cases (w : Office) (letter : Letter) :
    w.post letter = w ∨
      (w.session.send letter.frame).2 = .ok () ∧
        w.post letter = { w.setLink (w.session.send letter.frame).1.link with
          posted := w.posted ++ [letter] } := by
  unfold post
  rcases w.session.send letter.frame with ⟨s, failure | ⟨⟩⟩
  · exact Or.inl rfl
  · exact Or.inr ⟨rfl, rfl⟩

/-- The loop takes nothing, or it takes a payload or a failure off the link and turns to it. -/
theorem fetch_cases (w : Office) :
    w.fetch = w ∨
      w.crowd.race.loop = .serving .idle ∧
        ((w.session.shutdown = true ∧ w.fetch = w.act (.lose .closed)) ∨
          (w.session.shutdown = false ∧ ∃ link failure,
            w.session.link.take = (link, some (.error failure)) ∧
              w.fetch = (w.setLink link).act (.lose failure)) ∨
          (w.session.shutdown = false ∧ ∃ link payload,
            w.session.link.take = (link, some (.ok payload)) ∧
              ((∃ e, Arrival.read w.session.offset payload = .error e ∧
                  w.fetch = (w.setLink link).act (.lose (.protocol e))) ∨
                ∃ arrival, Arrival.read w.session.offset payload = .ok arrival ∧
                  w.fetch = (w.setLink link).act (.receive (destination arrival))))) := by
  unfold fetch
  split
  · rename_i idle
    cases shutdown : w.session.shutdown with
    | true => exact Or.inr ⟨idle, Or.inl ⟨rfl, rfl⟩⟩
    | false =>
      rw [if_neg Bool.false_ne_true]
      split
      · exact Or.inl rfl
      · rename_i link failure taken
        exact Or.inr ⟨idle, Or.inr (Or.inl ⟨rfl, link, failure, taken, rfl⟩)⟩
      · rename_i link payload taken
        refine Or.inr ⟨idle, Or.inr (Or.inr ⟨rfl, link, payload, taken, ?_⟩)⟩
        cases read : Arrival.read w.session.offset payload with
        | error e => exact Or.inl ⟨e, rfl, rfl⟩
        | ok arrival => exact Or.inr ⟨arrival, rfl, rfl⟩
  · exact Or.inl rfl

/-- Whatever an office does is done by the callers, the loop, the link and the owner. -/
theorem crowd_step (w : Office) (move : Move) :
    ∃ moves : List Crowd.Move, (w.step move).crowd = w.crowd.run moves := by
  cases move with
  | come errand number =>
    simp only [step]
    split
    · split
      · exact ⟨[.act _], rfl⟩
      · exact ⟨[], rfl⟩
    · exact ⟨[], rfl⟩
  | switch kind =>
    simp only [step]
    split
    · rename_i frame _
      rcases w.post_cases (.other frame) with same | ⟨_, same⟩ <;> rw [same]
      · exact ⟨[], rfl⟩
      · exact ⟨[.act (.transport _)], rfl⟩
    · exact ⟨[], rfl⟩
  | fetch =>
    rcases w.fetch_cases with same | ⟨_, ⟨_, same⟩ | ⟨_, link, failure, _, same⟩ |
      ⟨_, link, payload, _, ⟨_, _, same⟩ | ⟨_, _, same⟩⟩⟩ <;>
      rw [step, same]
    · exact ⟨[], rfl⟩
    · exact ⟨[.act (.lose .closed)], rfl⟩
    all_goals exact ⟨[.act (.transport fun _ => link), .act _], rfl⟩
  | turn _ | giveUp _ | proceed | read _ | write _ | close => exact ⟨[.act _], rfl⟩
  | look n => exact ⟨[.look n], rfl⟩
  | expire n => exact ⟨[.expire n], rfl⟩
  | draw question => exact ⟨[.draw question], rfl⟩
  | enter => exact ⟨[.enter], rfl⟩
  | leave => exact ⟨[.leave], rfl⟩
  | letGo => exact ⟨[.letGo], rfl⟩

theorem sound_run {w : Office} (sound : w.crowd.Sound) (moves : List Move) :
    (w.run moves).crowd.Sound := by
  induction moves generalizing w with
  | nil => exact sound
  | cons move rest ih =>
    obtain ⟨acts, same⟩ := w.crowd_step move
    exact ih (same ▸ sound.run acts)

theorem outcome?_run {w : Office} (sound : w.crowd.Sound) {n : Nat} {result : Except Failure Slot}
    (ended : w.session.table.outcome? n = some result) (moves : List Move) :
    (w.run moves).session.table.outcome? n = some result := by
  induction moves generalizing w with
  | nil => exact ended
  | cons move rest ih =>
    obtain ⟨acts, same⟩ := w.crowd_step move
    refine ih (same ▸ sound.run acts) ?_
    rw [session, same]
    exact sound.outcome?_run ended acts

theorem sound_opened (s : Session) (firstId : Int) : (opened s firstId).crowd.Sound := by
  refine ⟨Race.sound_opened s firstId, Int.le_max_right firstId 1, ?_⟩
  intro n told
  cases told

theorem session_run_turns (w : Office) (n count : Nat) :
    (w.run (List.replicate count (.turn n))).crowd.race =
      w.crowd.race.run (List.replicate count (.turn n)) := by
  induction count generalizing w with
  | zero => rfl
  | succ count ih => exact ih (w.step (.turn n))

theorem session_run_come (w : Office) {errand : Errand} {number : Int} {frame : Bytes}
    (isNumber : IsNumber number) (framed : errand.frame number = .ok frame)
    (numbered : w.crowd.race.callers.length = w.session.table.requests.length) :
    (w.run (.come errand number :: List.replicate 5 (.turn w.crowd.race.callers.length))).session =
      (w.session.submit (errand.request number) (.ok frame)).1 := by
  have came : (w.step (.come errand number)).crowd.race =
      w.crowd.race.step (.ask (errand.key number) errand.slot errand.streaming frame
        (errand.withdrawal? number)) := by
    simp only [step, framed, if_pos isNumber]
    rfl
  have submitted := w.crowd.race.run_submit (errand.key number) errand.slot errand.streaming frame
    (errand.withdrawal? number) numbered
  rw [Race.run, List.foldl_cons, ← Race.run, ← came] at submitted
  rw [run_cons, session, session_run_turns, submitted]
  rfl

theorem session_run_cancel (w : Office) (stream : Stream) {c : Caller} {r : Request}
    (there : w.caller? stream.request = some c) (waiting : c.stance = .waiting)
    (found : w.session.table.request? stream.request = some r) (streaming : r.streaming = true)
    (ticker : r.key = .ticker stream.id) (same : c.withdrawal = stream.withdrawal)
    (fresh : stream.cancelled = false) :
    (w.run (.giveUp stream.request :: List.replicate 3 (.turn stream.request))).session =
      (w.session.cancelStream stream).1 := by
  have gaveUp : c.giveUp w.session.table stream.request = .leaving .cancelled c.withdrawal := by
    rw [Caller.giveUp, waiting, found]
    simp [streaming, ticker]
  rw [run_cons, session, session_run_turns]
  have given : (w.step (.giveUp stream.request)).crowd.race =
      w.crowd.race.place stream.request c w.session (.leaving .cancelled c.withdrawal) := by
    show w.crowd.race.step (.giveUp stream.request) = _
    have there : w.crowd.race.callers[stream.request]? = some c := there
    rw [Race.step, there]
    exact congrArg (w.crowd.race.place stream.request c w.session) gaveUp
  rw [given, Race.run_turns 3 _ stream.request { c with stance := .leaving .cancelled c.withdrawal }
    (by rw [Race.callers_place there, if_pos rfl])]
  simp only [Race.place, cancelStream, fresh, Bool.false_eq_true, ↓reduceIte]
  rw [Caller.turns_leaving _ _ _ .cancelled c.withdrawal rfl, same]

theorem race_run_proceed (w : Office) (count : Nat) :
    (w.run (List.replicate count .proceed)).crowd.race =
      w.crowd.race.run (List.replicate count .proceed) := by
  induction count generalizing w with
  | zero => rfl
  | succ count ih => exact ih (w.step .proceed)

/-- A loop that is idle and has its turn alone does what the session's turn does; events apart,
which are told to the owner and to nobody here. -/
theorem session_run_fetch (w : Office) (idle : w.crowd.race.loop = .serving .idle)
    (up : w.session.down = false) :
    (w.session.next? = none ∧ w.fetch = w) ∨ ∃ after count, w.session.next? = some after ∧
      { (w.run (.fetch :: List.replicate count .proceed)).session with
        events := after.events } = after := by
  obtain ⟨⟨⟨s, callers, loop⟩, told, branch⟩, errands, posted⟩ := w
  cases idle
  let w : Office := ⟨⟨⟨s, callers, .serving .idle⟩, told, branch⟩, errands, posted⟩
  have loses : ∀ (link : Link) (failure : Failure), ∃ count,
      (((w.setLink link).act (.lose failure)).run (List.replicate count .proceed)).session =
        ({ s with link } : Session).lose failure := by
    intro link failure
    obtain ⟨count, lost⟩ := Race.run_lose { s with link } callers failure
    refine ⟨count, ?_⟩
    rw [session, race_run_proceed]
    exact congrArg Race.session lost
  have next : ∀ after, s.next? = some after → (∃ count,
      { (w.fetch.run (List.replicate count .proceed)).session with events := after.events } =
      after) →
      (s.next? = none ∧ w.fetch = w) ∨ ∃ after count, s.next? = some after ∧
        { (w.run (.fetch :: List.replicate count .proceed)).session with
          events := after.events } = after :=
    fun after goes ran => Or.inr (ran.elim fun count same => ⟨after, count, goes, same⟩)
  have up : ¬ s.down = true := Bool.eq_false_iff.mp up
  by_cases shutdown : s.shutdown = true
  · have fetched : w.fetch = w.act (.lose .closed) := if_pos shutdown
    obtain ⟨count, lost⟩ := loses s.link .closed
    refine next (s.lose .closed) ((if_neg up).trans (if_pos shutdown)) ⟨count, ?_⟩
    rw [fetched, ← show w.setLink s.link = w from rfl, lost]
  · rcases taken : s.link.take with ⟨link, _ | failure | payload⟩
    · have fetched : w.fetch = w := (if_neg shutdown).trans (by rw [taken])
      refine Or.inl ⟨(if_neg up).trans ((if_neg shutdown).trans ?_), fetched⟩
      rw [taken]
    · have fetched : w.fetch = (w.setLink link).act (.lose failure) :=
        (if_neg shutdown).trans (by rw [taken])
      obtain ⟨count, lost⟩ := loses link failure
      refine next (({ s with link } : Session).lose failure)
        ((if_neg up).trans ((if_neg shutdown).trans ?_)) ⟨count, ?_⟩
      · rw [taken]
      · rw [fetched, lost]
    · cases read : Arrival.read s.offset payload with
      | error e =>
        have fetched : w.fetch = (w.setLink link).act (.lose (.protocol e)) :=
          (if_neg shutdown).trans (by rw [taken]; dsimp only; rw [read])
        obtain ⟨count, lost⟩ := loses link (.protocol e)
        refine next (({ s with link } : Session).lose (.protocol e))
          ((if_neg up).trans ((if_neg shutdown).trans ?_)) ⟨count, ?_⟩
        · rw [taken]
          dsimp only
          rw [route, read]
          rfl
        · rw [fetched, lost]
      | ok arrival =>
        have fetched : w.fetch = (w.setLink link).act (.receive (destination arrival)) :=
          (if_neg shutdown).trans (by rw [taken]; dsimp only; rw [read])
        rcases delivered : (destination arrival).deliver s.table with ⟨table, event⟩
        obtain ⟨count, received⟩ := Race.run_receive { s with link } callers (destination arrival)
        have ran : (((w.setLink link).act (.receive (destination arrival))).run
            (List.replicate count .proceed)).session = { s with link, table } := by
          rw [session, race_run_proceed]
          have received := congrArg Race.session received
          rw [show (({ s with link } : Session).table) = s.table from rfl, delivered] at received
          exact received
        refine next { s with link, table, events := s.events ++ event.toList }
          ((if_neg up).trans ((if_neg shutdown).trans ?_)) ⟨count, ?_⟩
        · rw [taken]
          dsimp only
          rw [route, read]
          simp only [Except.map, delivered]
        · rw [fetched, ran]

end Office

end MarketLink.Session
