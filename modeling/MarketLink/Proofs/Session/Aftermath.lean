import MarketLink.Proofs.Session.TurnedAway

set_option autoImplicit false

namespace MarketLink.Session

open Correlation Time Wire

/-- What the owner is told of a message that no request takes. -/
def Destination.event? : Destination → Option Event
  | .request _ _ otherwise => otherwise
  | .refusal _ _ otherwise => some otherwise
  | .event told => some told
  | .nobody => none

theorem Destination.event?_of_deliver {d : Destination} {t : Table} {told : Event}
    (delivered : (d.deliver t).2 = some told) : d.event? = some told := by
  cases d with
  | request target handler otherwise =>
    unfold deliver at delivered
    dsimp only at delivered
    split at delivered
    · cases delivered
    · exact delivered
  | refusal id failure otherwise =>
    unfold deliver at delivered
    dsimp only at delivered
    split at delivered
    · cases delivered
    · exact delivered
  | event _ => exact delivered
  | nobody => cases delivered

theorem event?_destination_ne (arrival : Message.Arrival) (why : Failure) :
    (destination arrival).event? ≠ some (.connectionClosed why) := by
  intro told
  cases arrival with
  | notice notice =>
    unfold destination noticeDestination at told
    dsimp only at told
    split at told
    · cases told
    · split at told <;> cases told
  | tick _ _ | marketDataType _ _ | snapshotEnd _ | depth _ _ | contractDetails _ _
  | contractDetailsEnd _ | historicalBars _ _ | currentTime _ | managedAccounts _ | nextValidId _
  | unknown _ => cases told

/-- No message that is read makes the owner hear of the end. -/
theorem ne_connectionClosed_of_route {offset : Int} {t after : Table} {payload : Bytes}
    {told : Event} (routed : route offset t payload = .ok (after, some told)) (why : Failure) :
    told ≠ .connectionClosed why := by
  unfold route at routed
  cases read : Message.Arrival.read offset payload with
  | error _ =>
    rw [read] at routed
    cases routed
  | ok arrival =>
    rw [read] at routed
    have delivered := congrArg Prod.snd (Except.ok.inj routed)
    rintro rfl
    exact event?_destination_ne arrival why (Destination.event?_of_deliver delivered)

namespace Race

variable {w : Race} {failure : Failure}

theorem flags_step {move : Move} (other : move ≠ .close) :
    (w.step move).session.closing = w.session.closing ∧
      (w.step move).session.gate = w.session.gate ∧
      (w.step move).session.shutdown = w.session.shutdown := by
  cases move with
  | close => exact absurd rfl other
  | turn n =>
    unfold step
    dsimp only
    split
    · rename_i c _
      obtain ⟨table, link, turned⟩ := c.turn_eq w.session n
      unfold place
      rw [turned]
      exact ⟨rfl, rfl, rfl⟩
    · exact ⟨rfl, rfl, rfl⟩
  | giveUp _ | receive _ | lose _ =>
    unfold step
    dsimp only
    split <;> exact ⟨rfl, rfl, rfl⟩
  | proceed =>
    unfold step Loop.turn
    dsimp only
    cases w.loop with
    | failing failure task =>
      dsimp only
      split
      · unfold announceEnd
        split <;> exact ⟨rfl, rfl, rfl⟩
      · exact ⟨rfl, rfl, rfl⟩
    | serving _ | noting _ | signalling _ | detaching _ | closing _ | clearing _ | lost =>
      exact ⟨rfl, rfl, rfl⟩
  | ask _ _ _ _ _ | transport _ => exact ⟨rfl, rfl, rfl⟩

/-- The owner is told by the last step of the end, and by nothing else. -/
theorem events_step (ends : w.loop.EndsWith failure w.session) (move : Move) :
    ((w.step move).session.events = w.session.events ∧
      ((w.step move).loop = .lost → w.loop = .lost)) ∨
      move = .proceed ∧ w.loop ≠ .lost ∧ (w.step move).loop = .lost ∧
        (w.step move).session.events =
          w.session.events ++ if w.session.closing then [] else [.connectionClosed failure] := by
  by_cases proceeds : move = .proceed
  · subst proceeds
    unfold step
    dsimp only
    cases loop : w.loop with
    | serving _ =>
      rw [loop] at ends
      exact ends.elim
    | noting _ | signalling _ | detaching _ | closing _ | clearing _ =>
      refine Or.inl ⟨rfl, ?_⟩
      intro lost
      cases lost
    | failing own task =>
      rw [loop] at ends
      obtain ⟨⟨rfl, _⟩, endings, rfl, _⟩ := ends
      cases endings with
      | nil =>
        refine Or.inr ⟨rfl, ?_, rfl, ?_⟩
        · intro lost
          cases lost
        · show (w.session.announceEnd own).events = _
          unfold announceEnd
          cases w.session.closing with
          | true => exact (List.append_nil _).symm
          | false => rfl
      | cons ending rest =>
        refine Or.inl ⟨rfl, ?_⟩
        intro lost
        cases lost
    | lost => exact Or.inl ⟨rfl, fun lost => lost⟩
  · obtain ⟨_, _, events, still | ⟨idle, _⟩⟩ := marks_step (w := w) proceeds
    · refine Or.inl ⟨events, ?_⟩
      rw [still]
      exact fun lost => lost
    · rw [idle] at ends
      exact ends.elim

end Race

namespace Crowd

variable {w : Crowd} {failure : Failure}

def Move.isClose : Move → Bool
  | .act .close => true
  | _ => false

/-- The owner begins to end the session: closes it, or lets go of it. -/
def Move.isFarewell : Move → Bool
  | .act .close | .letGo => true
  | _ => false

/-- The flags of a session are what somebody's moves have made of them. -/
structure Flags (s after : Session) (farewell close : Bool) : Prop where
  closing : after.closing = (s.closing || farewell)
  gate : after.gate.closing = (s.gate.closing || close)

theorem Flags.of_same {s after : Session} (closing : after.closing = s.closing)
    (gate : after.gate.closing = s.gate.closing) : Flags s after false false :=
  ⟨by rw [closing, Bool.or_false], by rw [gate, Bool.or_false]⟩

theorem flags_poll (w : Crowd) (n : Nat) (late : Bool) :
    Flags w.race.session (w.poll n late).race.session false false := by
  rcases w.race_poll n late with stays | back
  · rw [stays]
    exact .of_same rfl rfl
  · rw [back]
    have gives : Race.Move.giveUp n ≠ .close := by
      intro same
      cases same
    obtain ⟨closing, gate, _⟩ := Race.flags_step (w := w.race) gives
    exact .of_same closing (congrArg Gate.closing gate)

theorem flags_step (w : Crowd) (move : Move) :
    Flags w.race.session (w.step move).race.session move.isFarewell move.isClose := by
  cases move with
  | act act =>
    by_cases closes : act = .close
    · subst closes
      exact ⟨(Bool.or_true _).symm, (Bool.or_true _).symm⟩
    · obtain ⟨closing, gate, _⟩ := Race.flags_step (w := w.race) closes
      have farewell : (Move.act act).isFarewell = false := by
        cases act <;> first | rfl | exact absurd rfl closes
      have close : (Move.act act).isClose = false := by
        cases act <;> first | rfl | exact absurd rfl closes
      rw [farewell, close]
      exact .of_same closing (congrArg Gate.closing gate)
  | look n => exact w.flags_poll n _
  | expire n => exact w.flags_poll n _
  | draw question =>
    refine .of_same ?_ ?_ <;>
      · unfold step aside keyFor
        dsimp only
        split <;> rfl
  | enter =>
    refine .of_same ?_ ?_ <;>
      · unfold step aside Session.enter Gate.acquire
        cases closing : w.race.session.gate.closing <;> simp [closing]
  | leave => exact .of_same rfl rfl
  | letGo => exact ⟨(Bool.or_true _).symm, (Bool.or_false _).symm⟩

theorem flags_run (w : Crowd) (moves : List Move) :
    Flags w.race.session (w.run moves).race.session (moves.any Move.isFarewell)
      (moves.any Move.isClose) := by
  induction moves generalizing w with
  | nil => exact .of_same rfl rfl
  | cons move rest ih =>
    have first := w.flags_step move
    have later := ih (w.step move)
    refine ⟨later.closing.trans ?_, later.gate.trans ?_⟩
    · rw [first.closing, Bool.or_assoc, List.any_cons]
    · rw [first.gate, Bool.or_assoc, List.any_cons]

theorem events_step (ends : w.race.loop.EndsWith failure w.race.session) (move : Move) :
    ((w.step move).race.session.events = w.race.session.events ∧
        ((w.step move).race.loop = .lost → w.race.loop = .lost)) ∨
      move = .act .proceed ∧ w.race.loop ≠ .lost ∧ (w.step move).race.loop = .lost ∧
        (w.step move).race.session.events = w.race.session.events ++
          if w.race.session.closing then [] else [.connectionClosed failure] := by
  rcases w.race_step_cases move with same | ⟨act, same, whose⟩ | ⟨session, aside, same⟩
  · rw [same]
    exact Or.inl ⟨rfl, fun lost => lost⟩
  · rw [same]
    rcases Race.events_step ends act with silent | ⟨rfl, told⟩
    · exact Or.inl silent
    · rcases whose with rfl | ⟨_, gives⟩
      · exact Or.inr ⟨rfl, told⟩
      · cases gives
  · rw [same]
    exact Or.inl ⟨aside.events, fun lost => lost⟩

theorem events_run_of_lost (ends : w.race.loop.EndsWith failure w.race.session)
    (lost : w.race.loop = .lost) (moves : List Move) :
    (w.run moves).race.session.events = w.race.session.events := by
  induction moves generalizing w with
  | nil => rfl
  | cons move rest ih =>
    rcases events_step ends move with ⟨same, _⟩ | ⟨_, before, _⟩
    · exact (ih (endsWith_step ends move) (lost_step lost move)).trans same
    · exact absurd lost before

/-- Of a run that goes through the end of the connection one step is the last one of the end. The
owner is told there, and nowhere else, unless it has begun to end the session before. -/
theorem events_run (ends : w.race.loop.EndsWith failure w.race.session)
    (under : w.race.loop ≠ .lost) {moves : List Move} (lost : (w.run moves).race.loop = .lost) :
    ∃ early late, moves = early ++ .act .proceed :: late ∧ (w.run early).race.loop ≠ .lost ∧
      (w.run (early ++ [.act .proceed])).race.loop = .lost ∧
      (w.run moves).race.session.events = w.race.session.events ++
        if (w.run early).race.session.closing then [] else [.connectionClosed failure] := by
  induction moves generalizing w with
  | nil => exact absurd lost under
  | cons move rest ih =>
    rcases events_step ends move with ⟨same, back⟩ | ⟨rfl, _, last, told⟩
    · have still := endsWith_step ends move
      obtain ⟨early, late, parts, before, behind, told⟩ :=
        ih still (fun already => under (back already)) lost
      refine ⟨move :: early, late, ?_, before, behind, ?_⟩
      · rw [parts, List.cons_append]
      · rw [← same]
        exact told
    · refine ⟨[], rest, rfl, under, last, ?_⟩
      exact (events_run_of_lost (endsWith_step ends _) last rest).trans told

/-- When nothing goes on any more, the connection is over and nobody is pending. -/
theorem Quiet.isOver (quiet : w.Quiet) (sound : w.Sound)
    (ends : w.race.loop.EndsWith failure w.race.session) : w.race.session.Over failure := by
  have lost := quiet.lost ends
  obtain ⟨ids, codes⟩ := sound.race.empty_of_lost lost (by
    intro c member
    obtain ⟨n, there⟩ := List.mem_iff_getElem?.mp member
    exact quiet.isAtRest there)
  have detached : w.race.session.attached = false := sound.race.detached (by rw [lost]; rfl)
  rw [lost] at ends
  exact ⟨ends.1, detached, ids, codes, sound.counting⟩

theorem stream_of_completed {s after : Session} {stream : Stream} {r : Request}
    (before : s.table.request? stream.request = some r) (running : r.outcome = none)
    (completed : after.table.request? stream.request = some (r.complete (some failure)).1) :
    after.items stream = s.items stream ∧ after.isOver stream = true ∧
      after.lastFailure stream = some failure := by
  have outcome : after.outcome? stream.request = some (.error failure) := by
    rw [Session.outcome?, completed, Option.bind_some, Request.outcome_complete, running]
    rfl
  refine ⟨?_, ?_, ?_⟩
  · rw [Session.items, completed, Session.items, before, Option.map_some, Option.map_some,
      Request.items_complete]
  · rw [isOver, outcome, Option.isSome_some]
  · rw [lastFailure, outcome]

theorem link_step_of_lost (sound : w.Sound) (lost : w.race.loop = .lost) (move : Move) :
    (w.step move).race.session.link = w.race.session.link ∨
      ∃ change, move = .act (.transport change) := by
  have detached : w.race.session.attached = false := sound.race.detached (by rw [lost]; rfl)
  rcases w.race_step_cases move with same | ⟨act, same, whose⟩ | ⟨session, aside, same⟩
  · rw [same]
    exact Or.inl rfl
  · rw [same]
    rcases Race.link_step_of_lost detached lost act with untouched | ⟨change, rfl⟩
    · exact Or.inl untouched
    · rcases whose with acts | ⟨_, gives⟩
      · exact Or.inr ⟨change, acts⟩
      · cases gives
  · rw [same]
    exact Or.inl aside.link

/-- Whoever comes behind the end never waits, and is through with the failure of the connection. -/
theorem late_run (sound : w.Sound) (ends : w.race.loop.EndsWith failure w.race.session)
    (lost : w.race.loop = .lost) (later : List Move) {n : Nat} {c : Caller}
    (behind : w.race.callers.length ≤ n) (there : (w.run later).race.callers[n]? = some c) :
    c.stance ≠ .waiting ∧
      (c.stance = .gone → (w.run later).race.session.outcome? n = some (.error failure)) := by
  have nobody : w.race.LateFrom failure w.race.callers.length := by
    intro m other beyond found
    rw [List.getElem?_eq_none beyond] at found
    cases found
  have late := lateFrom_run nobody sound ends lost later n c behind there
  constructor
  · intro waiting
    rw [waiting] at late
    exact late
  · intro gone
    rw [gone] at late
    exact late

theorem untouched_opened (settings : Settings) (clientId offset : Int) (link : Link) (version : Int)
    (timeText : String) (firstId : Int) :
    let w := opened settings clientId offset link version timeText firstId
    w.race.loop.Untouched w.race.session :=
  ⟨rfl, rfl, rfl⟩

theorem placed_opened (settings : Settings) (clientId offset : Int) (link : Link) (version : Int)
    (timeText : String) (firstId : Int) (moves : List Move) :
    ((opened settings clientId offset link version timeText firstId).run moves).race.Placed :=
  placed_run (Or.inl rfl)
  (Or.inl (untouched_opened settings clientId offset link version timeText firstId))
    moves

/-- The owner has begun to end the session if it has made such a move. -/
theorem flags_opened (settings : Settings) (clientId offset : Int) (link : Link) (version : Int)
    (timeText : String) (firstId : Int) (moves : List Move) :
    let w := (opened settings clientId offset link version timeText firstId).run moves
    w.race.session.closing = moves.any Move.isFarewell ∧
      w.race.session.gate.closing = moves.any Move.isClose := by
  have flags := flags_run (opened settings clientId offset link version timeText firstId) moves
  exact ⟨flags.closing.trans (Bool.false_or _), flags.gate.trans (Bool.false_or _)⟩

/-- When the loop finds that the connection has ended, nothing of the end has been done before, and
from now on the end goes on with the failure as it is reported. -/
theorem ends_of_lose (settings : Settings) (clientId offset : Int) (link : Link) (version : Int)
    (timeText : String) (firstId : Int) (before : List Move) (failure : Failure) :
    let w := (opened settings clientId offset link version timeText firstId).run before
    w.race.loop = .serving .idle →
      w.race.session.events = [] ∧
        (w.step (.act (.lose failure))).race.loop.EndsWith failure.classify
          (w.step (.act (.lose failure))).race.session := by
  intro w idle
  have start := untouched_opened settings clientId offset link version timeText firstId
  rcases untouched_or_endsWith_run (Or.inl start) before with untouched | ⟨_, ends⟩
  · refine ⟨?_, Race.endsWith_lose untouched idle failure⟩
    rw [idle] at untouched
    exact untouched.2.2
  · rw [idle] at ends
    exact ends.elim

/-- The loop turns to the end, and nothing else happens. -/
theorem step_lose (idle : w.race.loop = .serving .idle) (failure : Failure) :
    w.step (.act (.lose failure)) =
      { w with race := { w.race with loop := .noting failure.classify } } := by
  unfold step Race.step
  dsimp only
  rw [idle]
  rfl

theorem expects_of_lose (idle : w.race.loop = .serving .idle) (failure : Failure) {n : Nat}
    {r : Request} (awaited : w.race.awaited? n = some r) :
    (w.step (.act (.lose failure))).Expects failure.classify n r (w.branch n ≠ .outcome) := by
  rw [step_lose idle]
  exact Or.inl ⟨r, awaited, Or.inl rfl, (Decidable.em (w.branch n = .outcome)).imp_right Or.inl⟩

/-- Where nothing goes on any more, a caller whose frame was not queued when the connection ended
has been refused, or its request has ended with the failure of the connection. -/
theorem Quiet.unsent {moves : List Move} (quiet : (w.run moves).Quiet) (sound : w.Sound)
    (ends : w.race.loop.EndsWith failure w.race.session) (placed : w.race.Placed) {n : Nat}
    {c : Caller} {r : Request} (there : w.race.callers[n]? = some c)
    (registered : c.stance = .registered)
    (found : w.race.session.table.request? n = some r) (running : r.outcome = none)
    (patient : Patient n w moves) :
    w.Refused moves failure n c ∨
      if r.streaming then (w.run moves).race.session.outcome? n = some (.error failure)
      else (w.run moves).told.lookup n = some (.error failure) := by
  rcases unsent_run sound ends placed there registered found (Or.inl rfl) patient with
    unsent | refused | expects
  · have resting := quiet.isAtRest unsent
    rw [Caller.isAtRest, registered] at resting
    cases resting
  · exact Or.inl refused
  · have got := quiet.expected (sound.run moves) (endsWith_run ends moves) expects
    refine Or.inr ?_
    split
    · rename_i streaming
      rw [if_pos streaming] at got
      rw [Session.outcome?, got, Option.bind_some, Request.outcome_complete, running]
      rfl
    · rename_i single
      rw [if_neg single, running] at got
      obtain ⟨result, told, none | ⟨rfl, _⟩⟩ := got
      · cases none
      · exact told

/-- What the owner is told between the end and the place where nothing goes on any more. -/
theorem events_of_lose (settings : Settings) (clientId offset : Int) (link : Link) (version : Int)
    (timeText : String) (firstId : Int) (before : List Move) (failure : Failure)
    {after : List Move} :
    let w := (opened settings clientId offset link version timeText firstId).run before
    let v := w.run (.act (.lose failure) :: after)
    w.race.loop = .serving .idle → v.race.loop = .lost →
      ∃ early late, after = early ++ .act .proceed :: late ∧
        (w.run (.act (.lose failure) :: early)).race.loop ≠ .lost ∧
        (w.run (.act (.lose failure) :: early ++ [.act .proceed])).race.loop = .lost ∧
        v.race.session.events = if (before ++ early).any Move.isFarewell then []
          else [.connectionClosed failure.classify] := by
  intro w v idle lost
  obtain ⟨untold, begun⟩ :=
    ends_of_lose settings clientId offset link version timeText firstId before failure idle
  have under : (w.step (.act (.lose failure))).race.loop ≠ .lost := by
    rw [step_lose idle]
    intro already
    cases already
  have silent : (w.step (.act (.lose failure))).race.session.events = [] := by
    rw [step_lose idle]
    exact untold
  obtain ⟨early, late, parts, front, behind, told⟩ := events_run begun under lost
  refine ⟨early, late, parts, front, behind, ?_⟩
  have closing : (w.run (.act (.lose failure) :: early)).race.session.closing =
      (before ++ early).any Move.isFarewell := by
    have flags := (flags_opened settings clientId offset link version timeText firstId
      (before ++ .act (.lose failure) :: early)).1
    rw [run_append] at flags
    rw [flags, List.any_append, List.any_append]
    rfl
  have told : v.race.session.events = (w.step (.act (.lose failure))).race.session.events ++
      if (w.run (.act (.lose failure) :: early)).race.session.closing then []
      else [.connectionClosed failure.classify] := told
  rw [told, silent, List.nil_append, closing]

/-- However callers, calls, the loop, the link and the owner take turns: when the loop finds that
the connection has ended, the rest comes by itself to where nothing goes on any more. There every
call whose frame was queued has come back, unless it was dropped or its time was up: with the
failure under which the end is reported, or with what its request held already, as it must if it
stood at its first branch. A caller whose frame was not queued yet fares so too, unless it is
refused when it sends. Every stream that was open has the items that it had, is over, and has that
failure. What had ended before has the outcome that it had, and what calls had been told they have
been told. The owner has been told of the end once, if it had not begun to close or to let go of the
session when the last step of the end was done, and otherwise not at all; and no message tells it.

From then on the failure stays, the session is not connected, the owner is told nothing more,
outcomes stay what they are, and nobody but the reader and the writer of the link touches it.
Whoever comes with a request may register it, but never waits, and has taken it back with that
failure in the end. Where nothing goes on, both tables are empty, and a call whose arguments can be
sent is turned away: with that failure, or as closed once the owner has closed the session. -/
theorem end_of_connection_reaches_everyone (settings : Settings) (clientId offset : Int)
    (link : Link) (version : Int) (timeText : String) (firstId : Int) (before : List Move)
    (failure : Failure) (after : List Move) :
    let w := (opened settings clientId offset link version timeText firstId).run before
    let ending : List Move := .act (.lose failure) :: after
    let v := w.run ending
    let reported := failure.classify
    w.race.loop = .serving .idle →
      (∃ more : List Move, (∀ move ∈ more, move.isOwn = true) ∧ (v.run more).Quiet) ∧
      (v.Quiet →
        -- calls that waited
        (∀ n r, w.race.awaited? n = some r → r.streaming = false → Patient n w ending →
          ∃ result, v.told.lookup n = some result ∧ (r.outcome = some result ∨
            result = .error reported ∧ (w.branch n ≠ .outcome ∨ r.outcome = none))) ∧
        -- callers whose frame was not queued yet
        (∀ n c r, w.race.callers[n]? = some c → c.stance = .registered →
          w.race.session.table.request? n = some r → r.outcome = none → Patient n w ending →
          w.Refused ending reported n c ∨
            if r.streaming then v.race.session.outcome? n = some (.error reported)
            else v.told.lookup n = some (.error reported)) ∧
        -- streams that were open
        (∀ stream r, w.race.awaited? stream.request = some r → r.streaming = true →
          r.outcome = none → Patient stream.request w ending →
          v.race.session.items stream = w.race.session.items stream ∧
            v.race.session.isOver stream = true ∧
            v.race.session.lastFailure stream = some reported) ∧
        -- what had ended before
        (∀ n result, w.race.session.outcome? n = some result →
          v.race.session.outcome? n = some result) ∧
        (∀ n result, w.told.lookup n = some result → v.told.lookup n = some result) ∧
        -- the owner
        (∀ offset t payload next told, route offset t payload = .ok (next, some told) →
          ∀ why, told ≠ .connectionClosed why) ∧
        (∃ early late, after = early ++ .act .proceed :: late ∧
          (w.run (.act (.lose failure) :: early)).race.loop ≠ .lost ∧
          (w.run (.act (.lose failure) :: early ++ [.act .proceed])).race.loop = .lost ∧
          v.race.session.events =
            if (before ++ early).any Move.isFarewell then [] else [.connectionClosed reported]) ∧
        -- for ever after
        ∀ later : List Move,
          let z := v.run later
          z.race.session.terminal = some reported ∧ z.race.session.isConnected = false ∧
          z.race.session.events = v.race.session.events ∧
          (∀ n result, v.race.session.outcome? n = some result →
            z.race.session.outcome? n = some result) ∧
          -- whoever comes later, whoever else moves
          (∀ move, (z.step move).race.session.link = z.race.session.link ∨
            ∃ change, move = .act (.transport change)) ∧
          (∀ (n : Nat) (c : Caller), v.race.callers.length ≤ n → z.race.callers[n]? = some c →
            c.stance ≠ .waiting ∧
              (c.stance = .gone → z.race.session.outcome? n = some (.error reported))) ∧
          -- whoever comes later alone
          (z.Quiet →
            let turned := if (before ++ after ++ later).any Move.isClose then .closed else reported
            z.race.session.table.byId = [] ∧ z.race.session.table.byCode = [] ∧
            (∀ question, ∃ key, (z.race.session.keyFor question).2 = .ok key ∧
              ∀ frame, question.frame key = .ok frame →
                TurnedAway z.race.session turned (z.race.session.ask question)) ∧
            (∀ feed, feed.check = .ok () → ∃ id, z.race.session.table.allocate.2 = .ok id ∧
              ∀ frame, feed.frame id = .ok frame →
                TurnedAway z.race.session turned (z.race.session.subscribe feed)) ∧
            ∀ kind frame, Message.reqMarketDataType kind = .ok frame →
              TurnedAway z.race.session turned (z.race.session.setMarketDataType kind))) := by
  intro w ending v reported idle
  obtain ⟨-, begun⟩ :=
    ends_of_lose settings clientId offset link version timeText firstId before failure idle
  have turned := step_lose idle failure
  have sound : w.Sound :=
    (sound_opened settings clientId offset link version timeText firstId).run before
  have started := sound.step (.act (.lose failure))
  have soundEnd : v.Sound := started.run after
  have ends : v.race.loop.EndsWith reported v.race.session := endsWith_run begun after
  refine ⟨exists_quiet soundEnd ends, ?_⟩
  intro quiet
  have lost := quiet.lost ends
  have expected : ∀ n r, w.race.awaited? n = some r → Patient n w ending →
      if r.streaming then v.race.session.table.request? n = some (r.complete (some reported)).1
      else ∃ result, v.told.lookup n = some result ∧ (r.outcome = some result ∨
        result = .error reported ∧ (w.branch n ≠ .outcome ∨ r.outcome = none)) := by
    intro n r awaited patient
    exact quiet.expected soundEnd ends
      ((expects_of_lose idle failure awaited).run started begun patient.2.2)
  refine ⟨?_, ?_, ?_, ?_, ?_, fun _ _ _ _ _ routed => ne_connectionClosed_of_route routed,
    events_of_lose settings clientId offset link version timeText firstId before failure idle lost,
    ?_⟩
  · intro n r awaited single patient
    have got := expected n r awaited patient
    rwa [single] at got
  · intro n c r there registered found running patient
    have placed : (w.step (.act (.lose failure))).race.Placed := by
      rw [turned]
      exact placed_opened settings clientId offset link version timeText firstId before
    have unsent := Quiet.unsent (w := w.step (.act (.lose failure))) quiet started begun placed
      (by rw [turned]; exact there) registered (by rw [turned]; exact found) running patient.2.2
    refine unsent.imp_left ?_
    rintro ⟨early, late, own, parts, refused⟩
    exact ⟨.act (.lose failure) :: early, late, own, congrArg _ parts, refused⟩
  · intro stream r awaited streaming running patient
    have got := expected stream.request r awaited patient
    rw [if_pos streaming] at got
    obtain ⟨_, _, _, found⟩ := Race.awaited?_eq_some_iff.mp awaited
    exact stream_of_completed found running got
  · intro n result ended
    have still : (w.step (.act (.lose failure))).race.session.outcome? n = some result := by
      rw [turned]
      exact ended
    exact outcome?_run_of_some begun still after
  · intro n result told
    exact lookup_told_run told ending
  · intro later z
    have soundLater : z.Sound := soundEnd.run later
    have endsLater : z.race.loop.EndsWith reported z.race.session := endsWith_run ends later
    have lostLater : z.race.loop = .lost := lost_run lost later
    have marks := endsLater
    rw [lostLater] at marks
    refine ⟨marks.1, ?_, events_run_of_lost ends lost later,
      fun n result ended => outcome?_run_of_some ends ended later,
      fun move => link_step_of_lost soundLater lostLater move,
      fun n c behind there => late_run soundEnd ends lost later behind there, ?_⟩
    · rw [isConnected, marks.2]
      rfl
    · intro quietLater turned
      have past := quietLater.isOver soundLater endsLater
      have closing : z.race.session.gate.closing =
          (before ++ after ++ later).any Move.isClose := by
        have flags := (flags_opened settings clientId offset link version timeText firstId
          (before ++ ending ++ later)).2
        rw [run_append, run_append] at flags
        rw [flags, List.any_append, List.any_append, List.any_append, List.any_append]
        rfl
      have same : turned = z.race.session.lateFailure reported := by
        rw [lateFailure, closing]
      rw [same]
      exact ⟨past.byId, past.byCode, past.ask, fun _ => past.subscribe _,
        fun _ _ encodes => past.setMarketDataType encodes⟩

def callAndStream : List Move :=
  [.act (.ask (.withId 1) (.historicalBars none) false [1] none), .act (.turn 0), .act (.turn 0),
    .act (.ask (.ticker 2) (.marketData false) true [2] none), .act (.turn 1), .act (.turn 1),
    .act (.receive (destination (.tick 2 (.marketDataType 3)))), .act .proceed, .act .proceed]

/-- The loop goes through the end of the connection, and the call polls. -/
def throughTheEnd : List Move := List.replicate 8 (.act .proceed) ++ [.look 0]

/-- The other side resets the connection while a call and a stream wait. -/
def afterReset : Crowd :=
  ((opened {} 7 0 {} 176 "" 1).run callAndStream).run
    (.act (.lose (.io (.ofKind .connectionReset))) :: throughTheEnd)

theorem reset_reaches_call_and_stream :
    ((opened {} 7 0 {} 176 "" 1).run callAndStream).race.loop = .serving .idle ∧
      afterReset.Quiet ∧ afterReset.told.lookup 0 = some (.error .closed) ∧
      afterReset.race.session.items ⟨2, 1, none, false⟩ = [.tick (.marketDataType 3)] ∧
      afterReset.race.session.lastFailure ⟨2, 1, none, false⟩ = some .closed ∧
      afterReset.race.session.table.byId = [] ∧
      (afterReset.race.session.ask .currentTime).2 = .error .closed := by
  have idle : ((opened {} 7 0 {} 176 "" 1).run callAndStream).race.loop = .serving .idle := rfl
  have stances : afterReset.race.callers.map Caller.stance = [.gone, .waiting] := rfl
  have kinds : afterReset.race.session.table.requests.map Request.streaming = [false, true] := rfl
  have rested : afterReset.Rested := by
    refine ⟨rfl, ?_⟩
    intro n c there
    have all : afterReset.race.callers.all Caller.isAtRest = true := rfl
    exact List.all_eq_true.mp all c (List.mem_of_getElem? there)
  have quiet : afterReset.Quiet := by
    refine rested.quiet ?_
    intro n r awaited
    obtain ⟨c, there, waiting, found⟩ := Race.awaited?_eq_some_iff.mp awaited
    have stance : (afterReset.race.callers.map Caller.stance)[n]? = some .waiting := by
      rw [List.getElem?_map, there, Option.map_some, waiting]
    have kind : (afterReset.race.session.table.requests.map Request.streaming)[n]? =
        some r.streaming := by
      rw [List.getElem?_map]
      exact congrArg (Option.map Request.streaming) found
    rw [stances] at stance
    rw [kinds] at kind
    match n with
    | 0 => cases stance
    | 1 => exact (Option.some.inj kind).symm
    | n + 2 => cases stance
  have patient : ∀ n, Patient n ((opened {} 7 0 {} 176 "" 1).run callAndStream)
      (.act (.lose (.io (.ofKind .connectionReset))) :: throughTheEnd) := by
    intro n
    have own : throughTheEnd.all Move.isOwn = true := rfl
    refine ⟨?_, ?_, patient_of_own (List.all_eq_true.mp own)⟩ <;>
      · intro same
        cases same
  obtain ⟨calls, _, streams, _, _, _, _, later⟩ :=
    (end_of_connection_reaches_everyone {} 7 0 {} 176 "" 1 callAndStream
      (.io (.ofKind .connectionReset)) throughTheEnd idle).2 quiet
  obtain ⟨items, _, ended⟩ := streams ⟨2, 1, none, false⟩ _ rfl rfl rfl (patient 1)
  obtain ⟨_, _, _, _, _, _, empty⟩ := later []
  obtain ⟨noIds, _, asked, _⟩ := empty quiet
  obtain ⟨key, _, turned⟩ := asked .currentTime
  obtain ⟨result, told, none | ⟨rfl, _⟩⟩ := calls 0 _ rfl rfl (patient 0)
  · cases none
  · exact ⟨idle, quiet, told, items, ended, noIds, (turned _ rfl).told⟩

/-- Whoever comes behind the end registers its request before it is refused. -/
theorem late_call_is_registered :
    let late := afterReset.run
      [.act (.ask (.withId 3) (.historicalBars none) false [3] none), .act (.turn 2)]
    afterReset.race.session.terminal = some .closed ∧
      late.race.session.table.byId = [(3, 2)] ∧ late.race.session.outcome? 2 = none := by
  decide +kernel

end Crowd

end MarketLink.Session
