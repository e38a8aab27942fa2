import MarketLink.Proofs.Correlation.Items
import MarketLink.Proofs.Session.Crowd

set_option autoImplicit false

namespace MarketLink.Session

open Correlation Time Wire

theorem send_eq (s : Session) (frame : Bytes) : ∃ link, (s.send frame).1 = { s with link } := by
  unfold send
  split
  · exact ⟨_, rfl⟩
  · exact ⟨s.link, rfl⟩

/-- A caller changes the table and the link, and nothing else. -/
theorem Caller.turn_eq (c : Caller) (s : Session) (n : Nat) :
    ∃ table link, (c.turn s n).1 = { s with table, link } := by
  unfold Caller.turn
  cases c.stance with
  | fresh =>
    unfold Session.register
    dsimp only
    rcases s.table.register n with ⟨table, failure | ⟨⟩⟩ <;> exact ⟨table, s.link, rfl⟩
  | registered =>
    obtain ⟨link, sent⟩ := s.send_eq c.frame
    dsimp only
    revert sent
    rcases s.send c.frame with ⟨after, failure | ⟨⟩⟩ <;> exact fun sent => ⟨s.table, link, sent⟩
  | leaving _ _ | ending _ _ => exact ⟨_, s.link, rfl⟩
  | telling note =>
    cases note with
    | none => exact ⟨s.table, s.link, rfl⟩
    | some frame =>
      obtain ⟨link, sent⟩ := s.send_eq frame
      exact ⟨s.table, link, sent⟩
  | refused | waiting | gone => exact ⟨s.table, s.link, rfl⟩

/-- The connection ends with a failure. The failure has been kept from the second place of the loop
on, and everybody has been told from the third one on; the completions that are left are all with
that failure. -/
def Loop.EndsWith (failure : Failure) (s : Session) : Loop → Prop
  | .serving _ => False
  | .noting own => own = failure ∧ s.terminal = none ∧ s.down = false
  | .signalling own => own = failure ∧ s.terminal = some failure ∧ s.down = false
  | .detaching own | .closing own | .clearing own =>
    own = failure ∧ s.terminal = some failure ∧ s.down = true
  | .failing own task =>
    (own = failure ∧ s.terminal = some failure ∧ s.down = true) ∧
      ∃ endings, task = .settle endings ∧ ∀ ending ∈ endings, ending.2 = some failure
  | .lost => s.terminal = some failure ∧ s.down = true

/-- While the loop serves, nothing of the end has been done. -/
def Loop.Untouched (s : Session) : Loop → Prop
  | .serving _ => s.terminal = none ∧ s.down = false ∧ s.events = []
  | _ => False

section Loop

variable {s after : Session} {loop : Loop} {failure : Failure}

theorem Loop.EndsWith.congr (ends : loop.EndsWith failure s)
    (terminal : after.terminal = s.terminal) (down : after.down = s.down) :
    loop.EndsWith failure after := by
  unfold Loop.EndsWith at ends ⊢
  rw [terminal, down]
  exact ends

theorem Loop.Untouched.congr (untouched : loop.Untouched s) (terminal : after.terminal = s.terminal)
    (down : after.down = s.down) (events : after.events = s.events) : loop.Untouched after := by
  unfold Loop.Untouched at untouched ⊢
  rw [terminal, down, events]
  exact untouched

theorem Loop.EndsWith.closedFailure_of_down (ends : loop.EndsWith failure s)
    (down : s.down = true) :
    s.closedFailure = failure := by
  have kept : s.terminal = some failure := by
    cases loop with
    | serving _ => exact ends.elim
    | noting _ | signalling _ =>
      have up := ends.2.2
      rw [down] at up
      cases up
    | detaching _ | closing _ | clearing _ => exact ends.2.1
    | failing _ _ => exact ends.1.2.1
    | lost => exact ends.1
  rw [closedFailure, kept]
  rfl

end Loop

namespace Race

variable {w : Race} {failure : Failure}

/-- What nobody but the loop changes of a session. The loop itself is only moved on by others when
it has nothing to do: to a message, or to the end of the connection. -/
theorem marks_step {move : Move} (other : move ≠ .proceed) :
    (w.step move).session.terminal = w.session.terminal ∧
      (w.step move).session.down = w.session.down ∧
      (w.step move).session.events = w.session.events ∧
      ((w.step move).loop = w.loop ∨ w.loop = .serving .idle ∧
        ((∃ task, (w.step move).loop = .serving task) ∨
          ∃ failure, move = .lose failure ∧ (w.step move).loop = .noting failure.classify)) := by
  cases move with
  | proceed => exact absurd rfl other
  | turn n =>
    unfold step
    dsimp only
    split
    · rename_i c _
      obtain ⟨table, link, turned⟩ := c.turn_eq w.session n
      unfold place
      rw [turned]
      exact ⟨rfl, rfl, rfl, Or.inl rfl⟩
    · exact ⟨rfl, rfl, rfl, Or.inl rfl⟩
  | giveUp n =>
    unfold step
    dsimp only
    split <;> exact ⟨rfl, rfl, rfl, Or.inl rfl⟩
  | receive destination =>
    unfold step
    dsimp only
    split
    · rename_i idle
      exact ⟨rfl, rfl, rfl, Or.inr ⟨idle, Or.inl ⟨_, rfl⟩⟩⟩
    · exact ⟨rfl, rfl, rfl, Or.inl rfl⟩
  | lose failure =>
    unfold step
    dsimp only
    split
    · rename_i idle
      exact ⟨rfl, rfl, rfl, Or.inr ⟨idle, Or.inr ⟨failure, rfl, rfl⟩⟩⟩
    · exact ⟨rfl, rfl, rfl, Or.inl rfl⟩
  | ask _ _ _ _ _ | transport _ | close => exact ⟨rfl, rfl, rfl, Or.inl rfl⟩

theorem attached_step {move : Move} (other : move ≠ .proceed) :
    (w.step move).session.attached = w.session.attached := by
  cases move with
  | proceed => exact absurd rfl other
  | turn n =>
    unfold step
    dsimp only
    split
    · rename_i c _
      obtain ⟨table, link, turned⟩ := c.turn_eq w.session n
      unfold place
      rw [turned]
    · rfl
  | giveUp _ | receive _ | lose _ =>
    unfold step
    dsimp only
    split <;> rfl
  | ask _ _ _ _ _ | transport _ | close => rfl

theorem endsWith_step (ends : w.loop.EndsWith failure w.session) (move : Move) :
    (w.step move).loop.EndsWith failure (w.step move).session := by
  by_cases proceeds : move = .proceed
  · subst proceeds
    unfold step
    dsimp only
    cases loop : w.loop with
    | serving _ =>
      rw [loop] at ends
      exact ends.elim
    | noting own =>
      rw [loop] at ends
      obtain ⟨rfl, terminal, down⟩ := ends
      refine ⟨rfl, ?_, down⟩
      show w.session.terminal.or (some own) = some own
      rw [terminal, Option.none_or]
    | signalling own =>
      rw [loop] at ends
      exact ⟨ends.1, ends.2.1, rfl⟩
    | detaching own | closing own =>
      rw [loop] at ends
      exact ends
    | clearing own =>
      rw [loop] at ends
      refine ⟨ends, _, rfl, ?_⟩
      intro ending member
      obtain ⟨_, _, rfl⟩ := List.mem_map.mp member
      exact congrArg some ends.1
    | failing own task =>
      rw [loop] at ends
      obtain ⟨kept, endings, rfl, all⟩ := ends
      cases endings with
      | nil =>
        obtain ⟨rfl, terminal, down⟩ := kept
        show (w.session.announceEnd own).terminal = _ ∧ (w.session.announceEnd own).down = true
        unfold announceEnd
        split <;> exact ⟨terminal, down⟩
      | cons ending rest =>
        exact ⟨kept, rest, rfl, fun later member => all later (List.mem_cons_of_mem ending member)⟩
    | lost =>
      rw [loop] at ends
      exact ends
  · obtain ⟨terminal, down, _, same | ⟨idle, _⟩⟩ := marks_step proceeds
    · rw [same]
      exact ends.congr terminal down
    · rw [idle] at ends
      exact ends.elim

/-- Until the end of the connection begins, nothing of it is done. -/
theorem untouched_step (untouched : w.loop.Untouched w.session) (move : Move) :
    (w.step move).loop.Untouched (w.step move).session ∨
      ∃ failure, (w.step move).loop.EndsWith failure (w.step move).session := by
  by_cases proceeds : move = .proceed
  · subst proceeds
    unfold step
    dsimp only
    cases loop : w.loop with
    | serving task =>
      rw [loop] at untouched
      exact Or.inl untouched
    | noting _ | signalling _ | detaching _ | closing _ | clearing _ | failing _ _ | lost =>
      rw [loop] at untouched
      exact untouched.elim
  · obtain ⟨terminal, down, events, same | ⟨idle, ⟨task, serves⟩ | ⟨failure, _, begun⟩⟩⟩ :=
      marks_step proceeds
    · rw [same]
      exact Or.inl (untouched.congr terminal down events)
    · rw [idle] at untouched
      rw [serves, Loop.Untouched, terminal, down, events]
      exact Or.inl untouched
    · rw [idle] at untouched
      refine Or.inr ⟨failure.classify, ?_⟩
      rw [begun, Loop.EndsWith, terminal, down]
      exact ⟨rfl, untouched.1, untouched.2.1⟩

theorem endsWith_lose (untouched : w.loop.Untouched w.session) (idle : w.loop = .serving .idle)
    (failure : Failure) :
    (w.step (.lose failure)).loop.EndsWith failure.classify (w.step (.lose failure)).session := by
  rw [idle] at untouched
  unfold step
  dsimp only
  rw [idle]
  exact ⟨rfl, untouched.1, untouched.2.1⟩

/-- The link is in its place until the failure has been kept. -/
def Placed (w : Race) : Prop :=
  w.session.attached = true ∨ w.session.terminal.isSome = true

theorem Placed.step (placed : w.Placed)
    (state : w.loop.Untouched w.session ∨ ∃ failure, w.loop.EndsWith failure w.session)
    (move : Move) : (w.step move).Placed := by
  by_cases proceeds : move = .proceed
  · subst proceeds
    unfold Race.step
    dsimp only
    cases loop : w.loop with
    | noting own =>
      refine Or.inr ?_
      show (w.session.terminal.or (some own)).isSome = true
      rw [Option.isSome_or, Option.isSome_some, Bool.or_true]
    | detaching own =>
      rw [loop] at state
      rcases state with none | ⟨failure, _, kept, _⟩
      · exact none.elim
      · exact Or.inr (Option.isSome_of_eq_some kept)
    | failing own task =>
      simp only [Loop.turn]
      split
      · unfold announceEnd Placed
        split <;> exact placed
      · exact placed
    | serving _ | signalling _ | closing _ | clearing _ | lost => exact placed
  · unfold Placed
    rw [attached_step proceeds, (marks_step proceeds).1]
    exact placed

/-- Where the link is gone, whoever sends gets the failure of the connection. -/
theorem Placed.send_of_detached (placed : w.Placed) (ends : w.loop.EndsWith failure w.session)
    (detached : w.session.attached = false) (frame : Bytes) :
    (w.session.send frame).2 = .error failure := by
  have kept := placed.resolve_left (Bool.eq_false_iff.mp detached)
  have terminal : w.session.terminal = some failure := by
    cases loop : w.loop with
    | serving _ =>
      rw [loop] at ends
      exact ends.elim
    | noting _ =>
      rw [loop] at ends
      rw [ends.2.1] at kept
      cases kept
    | signalling _ | detaching _ | closing _ | clearing _ =>
      rw [loop] at ends
      exact ends.2.1
    | failing _ _ =>
      rw [loop] at ends
      exact ends.1.2.1
    | lost =>
      rw [loop] at ends
      exact ends.1
  rw [send_detached detached, closedFailure, terminal]
  rfl

section Requests

variable {n : Nat} {r : Request}

/-- A caller may complete its own request, and leaves the requests of others. -/
theorem request?_turn (c : Caller) (s : Session) (m n : Nat) :
    (c.turn s m).1.table.request? n = s.table.request? n ∨
      ∃ own note, m = n ∧ c.stance = .ending own note ∧
        (c.turn s m).1.table.request? n =
          (s.table.request? n).map fun r => (r.complete (some own)).1 := by
  unfold Caller.turn
  cases stance : c.stance with
  | fresh =>
    refine Or.inl ?_
    have same := s.table.requests_register m
    unfold Session.register
    dsimp only
    revert same
    rcases s.table.register m with ⟨table, failure | ⟨⟩⟩ <;>
      exact fun same => congrArg (fun requests => requests[n]?) same
  | registered =>
    refine Or.inl ?_
    have same := congrArg (Table.request? · n) (table_send s c.frame)
    dsimp only
    revert same
    rcases s.send c.frame with ⟨after, failure | ⟨⟩⟩ <;> exact fun same => same
  | leaving _ _ => exact Or.inl (Table.request?_unregister s.table m n)
  | ending own note =>
    by_cases same : m = n
    · refine Or.inr ⟨own, note, same, rfl, ?_⟩
      show (s.table.complete m (some own)).1.request? n = _
      rw [Table.complete_fst, Table.request?_update, if_pos same]
    · exact Or.inl (Table.request?_complete_of_ne s.table (Ne.symm same) _)
  | telling note => exact Or.inl (congrArg (Table.request? · n) (table_withdraw s note))
  | refused | waiting | gone => exact Or.inl rfl

/-- While the connection ends, and behind its end, a request stays what it is, or it is completed:
with the failure of the connection, or by its own caller. -/
theorem request?_step (ends : w.loop.EndsWith failure w.session)
    (found : w.session.table.request? n = some r) (move : Move) :
    (w.step move).session.table.request? n = some r ∨
      ∃ own, (w.step move).session.table.request? n = some (r.complete (some own)).1 ∧
        (own = failure ∨ ∃ c note, w.callers[n]? = some c ∧ c.stance = .ending own note) := by
  cases move with
  | ask key slot streaming frame withdrawal => exact Or.inl (Table.request?_create_of_some found _)
  | turn m =>
    unfold step
    dsimp only
    split
    · rename_i c there
      rcases request?_turn c w.session m n with same | ⟨own, note, rfl, stance, completed⟩
      · exact Or.inl (same.trans found)
      · rw [found] at completed
        exact Or.inr ⟨own, completed, Or.inr ⟨c, note, there, stance⟩⟩
    · exact Or.inl found
  | giveUp m =>
    unfold step
    dsimp only
    split <;> exact Or.inl found
  | receive _ | lose _ =>
    unfold step
    dsimp only
    split <;> exact Or.inl found
  | transport _ | close => exact Or.inl found
  | proceed =>
    unfold step
    dsimp only
    cases loop : w.loop with
    | serving _ =>
      rw [loop] at ends
      exact ends.elim
    | noting _ | signalling _ | detaching _ | closing _ | clearing _ | lost => exact Or.inl found
    | failing own task =>
      rw [loop] at ends
      obtain ⟨_, endings, rfl, all⟩ := ends
      cases endings with
      | nil =>
        refine Or.inl ?_
        show (w.session.announceEnd own).table.request? n = _
        rw [(table_announceEnd w.session own).1, found]
      | cons ending rest =>
        obtain ⟨m, with?⟩ := ending
        cases (all (m, with?) List.mem_cons_self : with? = some failure)
        show (w.session.table.complete m (some failure)).1.request? n = _ ∨ _
        by_cases same : m = n
        · refine Or.inr ⟨failure, ?_, Or.inl rfl⟩
          show (w.session.table.complete m (some failure)).1.request? n = _
          rw [Table.complete_fst, Table.request?_update, if_pos same, found]
          rfl
        · exact Or.inl ((Table.request?_complete_of_ne _ (Ne.symm same) _).trans found)

theorem outcome?_step_of_some (ends : w.loop.EndsWith failure w.session)
    {result : Except Failure Slot} (ended : w.session.outcome? n = some result) (move : Move) :
    (w.step move).session.outcome? n = some result := by
  obtain ⟨r, found, outcome⟩ := Option.bind_eq_some_iff.mp ended
  rcases request?_step ends found move with same | ⟨own, completed, _⟩
  · rw [Session.outcome?, same, Option.bind_some, outcome]
  · rw [Session.outcome?, completed, Option.bind_some, Request.outcome_complete, outcome]
    rfl

/-- Who waits for a request waits on, and the request is completed with the failure of the
connection if it is completed. -/
theorem awaited?_step (ends : w.loop.EndsWith failure w.session) (awaited : w.awaited? n = some r)
    {move : Move} (stays : move ≠ .giveUp n) :
    (w.step move).awaited? n = some r ∨
      (w.step move).awaited? n = some (r.complete (some failure)).1 := by
  obtain ⟨c, there, waiting, found⟩ := awaited?_eq_some_iff.mp awaited
  have still := waiting_step there waiting stays
  rcases request?_step ends found move with same | ⟨own, completed, rfl | ⟨_, note, also, ending⟩⟩
  · exact Or.inl (awaited?_eq_some_iff.mpr ⟨c, still, waiting, same⟩)
  · exact Or.inr (awaited?_eq_some_iff.mpr ⟨c, still, waiting, completed⟩)
  · cases there.symm.trans also
    rw [waiting] at ending
    cases ending

end Requests

end Race

namespace Crowd

variable {w : Crowd} {failure : Failure} {n : Nat}

/-- What a move does to the session, its callers and its loop: nothing, a step of the race, which is
somebody's giving up if a call comes back, or something aside from all requests. -/
theorem race_step_cases (w : Crowd) (move : Move) :
    (w.step move).race = w.race ∨
      (∃ act, (w.step move).race = w.race.step act ∧ (move = .act act ∨ ∃ n, act = .giveUp n)) ∨
      ∃ session, Aside w.race.session session ∧ (w.step move).race = { w.race with session } := by
  rcases w.step_cases move with ⟨act, acts, same⟩ | ⟨n, late, _, same⟩ | ⟨session, aside, same⟩
  · exact Or.inr (Or.inl ⟨act, congrArg race same, Or.inl acts⟩)
  · rcases w.poll_cases n late with ⟨_, stays⟩ | ⟨r, result, _, _, _, back⟩
    · exact Or.inl (by rw [same, stays])
    · exact Or.inr (Or.inl ⟨.giveUp n, congrArg race (same.trans back), Or.inr ⟨n, rfl⟩⟩)
  · exact Or.inr (Or.inr ⟨session, aside, congrArg race same⟩)

theorem endsWith_step (ends : w.race.loop.EndsWith failure w.race.session) (move : Move) :
    (w.step move).race.loop.EndsWith failure (w.step move).race.session := by
  rcases w.race_step_cases move with same | ⟨act, same, _⟩ | ⟨session, aside, same⟩
  · rw [same]
    exact ends
  · rw [same]
    exact Race.endsWith_step ends act
  · rw [same]
    exact ends.congr aside.terminal aside.down

theorem endsWith_run (ends : w.race.loop.EndsWith failure w.race.session) (moves : List Move) :
    (w.run moves).race.loop.EndsWith failure (w.run moves).race.session := by
  induction moves generalizing w with
  | nil => exact ends
  | cons move rest ih => exact ih (endsWith_step ends move)

/-- The loop serves and nothing of the end has been done, or the connection ends with some
failure. -/
theorem untouched_or_endsWith_run
    (state : w.race.loop.Untouched w.race.session ∨
      ∃ failure, w.race.loop.EndsWith failure w.race.session) (moves : List Move) :
    (w.run moves).race.loop.Untouched (w.run moves).race.session ∨
      ∃ failure, (w.run moves).race.loop.EndsWith failure (w.run moves).race.session := by
  induction moves generalizing w with
  | nil => exact state
  | cons move rest ih =>
    refine ih ?_
    rcases state with untouched | ⟨failure, ends⟩
    · rcases w.race_step_cases move with same | ⟨act, same, _⟩ | ⟨session, aside, same⟩
      · rw [same]
        exact Or.inl untouched
      · rw [same]
        exact Race.untouched_step untouched act
      · rw [same]
        exact Or.inl (untouched.congr aside.terminal aside.down aside.events)
    · exact Or.inr ⟨failure, endsWith_step ends move⟩

theorem outcome?_run_of_some (ends : w.race.loop.EndsWith failure w.race.session)
    {result : Except Failure Slot} (ended : w.race.session.outcome? n = some result)
    (moves : List Move) : (w.run moves).race.session.outcome? n = some result := by
  induction moves generalizing w with
  | nil => exact ended
  | cons move rest ih =>
    refine ih (endsWith_step ends move) ?_
    rcases w.race_step_cases move with same | ⟨act, same, _⟩ | ⟨session, aside, same⟩
    · rw [same, ended]
    · rw [same]
      exact Race.outcome?_step_of_some ends ended act
    · rw [same, Session.outcome?, aside.request?, ← Session.outcome?, ended]

/-- The link leaves its place behind the failure that is kept. -/
theorem placed_run (placed : w.race.Placed)
    (state : w.race.loop.Untouched w.race.session ∨
      ∃ failure, w.race.loop.EndsWith failure w.race.session) (moves : List Move) :
    (w.run moves).race.Placed := by
  induction moves generalizing w with
  | nil => exact placed
  | cons move rest ih =>
    refine ih ?_ (untouched_or_endsWith_run state [move])
    rcases w.race_step_cases move with same | ⟨act, same, _⟩ | ⟨session, aside, same⟩
    · rw [same]
      exact placed
    · rw [same]
      exact placed.step state act
    · rw [same]
      show session.attached = true ∨ session.terminal.isSome = true
      rw [aside.attached, aside.terminal]
      exact placed

theorem lookup_told_run {result : Except Failure Slot} (told : w.told.lookup n = some result)
    (moves : List Move) : (w.run moves).told.lookup n = some result := by
  induction moves generalizing w with
  | nil => exact told
  | cons move rest ih =>
    refine ih ?_
    rcases w.step_cases move with ⟨act, _, same⟩ | ⟨m, late, _, same⟩ | ⟨session, _, same⟩
    · rw [same, told]
    · rcases w.poll_cases m late with ⟨_, stays⟩ | ⟨_, other, _, _, _, back⟩
      · rw [same, stays, told]
      · rw [same, back, List.lookup_append, told, Option.some_or]
    · rw [same]
      exact told

/-- Who waits for a request goes on waiting: it is not dropped, a stream is not cancelled, and its
time is not up when it polls that. -/
def Patient (n : Nat) : Crowd → List Move → Prop
  | _, [] => True
  | w, move :: rest =>
    move ≠ .act (.giveUp n) ∧ (move = .expire n → w.branch n ≠ .deadline) ∧
      Patient n (w.step move) rest

/-- Somebody waits for a request that stays what it was until it is completed with the failure of
the connection, or it was a call that has come back. What such a call has been told is what its
request held when the connection ended, or that failure: this one only if the request held nothing,
or the call stood midway in its branches. -/
def Expects (w : Crowd) (failure : Failure) (n : Nat) (r : Request) (midway : Prop) : Prop :=
  (∃ other, w.race.awaited? n = some other ∧ (other = r ∨ other = (r.complete (some failure)).1) ∧
      (w.branch n = .outcome ∨ midway ∨ r.outcome = none)) ∨
    r.streaming = false ∧ ∃ result, w.told.lookup n = some result ∧
      (r.outcome = some result ∨ result = .error failure ∧ (midway ∨ r.outcome = none))

/-- A second completion changes nothing. -/
theorem complete_of_same {r other : Request}
    (same : other = r ∨ other = (r.complete (some failure)).1) :
    (other.complete (some failure)).1 = (r.complete (some failure)).1 := by
  rcases same with rfl | rfl
  · rfl
  · exact Request.complete_complete r _ _

theorem polled?_of_awaited (ends : w.race.loop.EndsWith failure w.race.session) {r other : Request}
    {midway : Prop} (awaited : w.race.awaited? n = some other)
    (same : other = r ∨ other = (r.complete (some failure)).1)
    (stands : w.branch n = .outcome ∨ midway ∨ r.outcome = none) {late : Bool}
    (timely : late = true → w.branch n ≠ .deadline) {result : Except Failure Slot}
    (ready : w.race.session.polled? n late (w.branch n) = some result) :
    r.outcome = some result ∨ result = .error failure ∧ (midway ∨ r.outcome = none) := by
  obtain ⟨c, _, _, found⟩ := Race.awaited?_eq_some_iff.mp awaited
  have outcome : w.race.session.outcome? n = other.outcome := by
    rw [Session.outcome?, found, Option.bind_some]
  cases branch : w.branch n with
  | outcome =>
    rw [branch, polled?, outcome] at ready
    rcases same with rfl | rfl
    · exact Or.inl ready
    · rw [Request.outcome_complete] at ready
      cases held : r.outcome with
      | some own =>
        rw [held] at ready
        exact Or.inl ready
      | none =>
        rw [held] at ready
        exact Or.inr ⟨(Option.some.inj ready).symm, Or.inr rfl⟩
  | down =>
    rw [branch, polled?] at ready
    rw [branch] at stands
    split at ready
    · rename_i down
      rw [ends.closedFailure_of_down down] at ready
      exact Or.inr ⟨(Option.some.inj ready).symm, stands.resolve_left Branch.noConfusion⟩
    · cases ready
  | deadline =>
    rw [branch, polled?] at ready
    split at ready
    · rename_i up
      exact absurd branch (timely up)
    · cases ready

/-- A step of the race keeps what somebody expects who goes on waiting. -/
theorem Expects.act {r : Request} {midway : Prop} (expects : w.Expects failure n r midway)
    (ends : w.race.loop.EndsWith failure w.race.session) {act : Race.Move} (stays : act ≠ .giveUp n)
    (told : List (Nat × Except Failure Slot))
    (kept : ∀ result, w.told.lookup n = some result → told.lookup n = some result) :
    Expects { w with race := w.race.step act, told } failure n r midway := by
  rcases expects with ⟨other, awaited, same, stands⟩ | ⟨single, result, back, fits⟩
  · refine Or.inl ?_
    rcases Race.awaited?_step ends awaited stays with still | completed
    · exact ⟨other, still, same, stands⟩
    · exact ⟨_, completed, Or.inr (complete_of_same same), stands⟩
  · exact Or.inr ⟨single, result, kept _ back, fits⟩

theorem Sound.lookup_told_of_awaited (sound : w.Sound) {r : Request}
    (awaited : w.race.awaited? n = some r) : w.told.lookup n = none := by
  cases told : w.told.lookup n with
  | none => rfl
  | some _ =>
    obtain ⟨c, there, past⟩ := sound.past n (by rw [told]; rfl)
    obtain ⟨_, also, waiting, _⟩ := Race.awaited?_eq_some_iff.mp awaited
    cases there.symm.trans also
    rw [Caller.isPast, waiting] at past
    cases past

/-- A call polls: another one, or this one, which comes back with what it expects or goes on to its
next branch. -/
theorem Expects.poll {r : Request} {midway : Prop} (expects : w.Expects failure n r midway)
    (sound : w.Sound) (ends : w.race.loop.EndsWith failure w.race.session) (m : Nat) {late : Bool}
    (timely : m = n → late = true → w.branch n ≠ .deadline) :
    (w.poll m late).Expects failure n r midway := by
  by_cases streams : ∀ r, w.race.awaited? m = some r → r.streaming = true
  · rw [poll_of_streaming streams]
    exact expects
  push Not at streams
  obtain ⟨waiter, awaits, single⟩ := streams
  rw [ne_eq, Bool.not_eq_true] at single
  by_cases own : m = n
  · subst own
    rcases expects with ⟨other, awaited, same, stands⟩ | ⟨_, result, told, _⟩
    · cases awaits.symm.trans awaited
      cases ready : w.race.session.polled? m late (w.branch m) with
      | some result =>
        rw [poll_of_ready awaits single ready]
        refine Or.inr ⟨?_, result, ?_,
          polled?_of_awaited ends awaited same stands (timely rfl) ready⟩
        · rcases same with rfl | rfl
          · exact single
          · rwa [Request.streaming_complete] at single
        · rw [List.lookup_append, sound.lookup_told_of_awaited awaits, Option.none_or,
            List.lookup_cons_self]
      | none =>
        rw [poll_of_pending awaits single ready]
        refine Or.inl ⟨waiter, awaits, same, Or.inr ?_⟩
        -- a request that holds something is found by a call that polls its outcome
        rcases stands with first | rest
        · obtain ⟨_, _, _, found⟩ := Race.awaited?_eq_some_iff.mp awaited
          rw [first, polled?, Session.outcome?, found, Option.bind_some] at ready
          rcases same with rfl | rfl
          · exact Or.inr ready
          · rw [Request.outcome_complete] at ready
            cases ready
        · exact rest
    · rw [sound.lookup_told_of_awaited awaits] at told
      cases told
  · cases ready : w.race.session.polled? m late (w.branch m) with
    | some result =>
      rw [poll_of_ready awaits single ready]
      refine expects.act ends (fun gives => own (Race.Move.giveUp.inj gives)) _ ?_
      intro result told
      rw [List.lookup_append, told, Option.some_or]
    | none =>
      rw [poll_of_pending awaits single ready]
      have same : Function.update w.branch m (w.branch m).next n = w.branch n :=
        Function.update_of_ne (Ne.symm own) _ _
      unfold Expects at expects ⊢
      dsimp only
      rw [same]
      exact expects

theorem Expects.step {r : Request} {midway : Prop} (expects : w.Expects failure n r midway)
    (sound : w.Sound) (ends : w.race.loop.EndsWith failure w.race.session) {move : Move}
    (stays : move ≠ .act (.giveUp n)) (timely : move = .expire n → w.branch n ≠ .deadline) :
    (w.step move).Expects failure n r midway := by
  rcases w.step_cases move with ⟨act, rfl, same⟩ | ⟨m, late, polls, same⟩ | ⟨session, aside, same⟩
  · rw [same]
    refine expects.act ends ?_ w.told fun _ told => told
    rintro rfl
    exact stays rfl
  · rw [same]
    refine expects.poll sound ends m ?_
    rintro rfl up
    rcases polls with ⟨_, early⟩ | ⟨expires, _⟩
    · rw [early] at up
      cases up
    · exact timely expires
  · rw [same]
    have waits : (w.aside session).race.awaited? n = w.race.awaited? n := by
      unfold Race.awaited? Crowd.aside
      rw [aside.request? n]
    rw [Expects, waits]
    exact expects

theorem Expects.run {r : Request} {midway : Prop} (expects : w.Expects failure n r midway)
    (sound : w.Sound) (ends : w.race.loop.EndsWith failure w.race.session) {moves : List Move}
    (patient : Patient n w moves) : (w.run moves).Expects failure n r midway := by
  induction moves generalizing w with
  | nil => exact expects
  | cons move rest ih =>
    obtain ⟨stays, timely, later⟩ := patient
    exact ih (expects.step sound ends stays timely) (sound.step move)
      (endsWith_step ends move) later

/-- A caller comes to send its frame, and the frame is refused: with the failure of the connection
where the link is gone. -/
def Refused (w : Crowd) (moves : List Move) (failure : Failure) (n : Nat) (c : Caller) : Prop :=
  ∃ early late own, moves = early ++ .act (.turn n) :: late ∧
    (w.run early).race.callers[n]? = some c ∧
    ((w.run early).race.session.send c.frame).2 = .error own ∧
    ((w.run early).race.session.attached = false → own = failure)

/-- Nobody but a caller itself sends its frame, and until then its request is at most completed with
the failure of the connection. -/
theorem unsent_step (ends : w.race.loop.EndsWith failure w.race.session) {c : Caller} {r : Request}
    (there : w.race.callers[n]? = some c) (registered : c.stance = .registered)
    (found : w.race.session.table.request? n = some r) {move : Move}
    (other : move ≠ .act (.turn n)) :
    (w.step move).race.callers[n]? = some c ∧
      ((w.step move).race.session.table.request? n = some r ∨
        (w.step move).race.session.table.request? n = some (r.complete (some failure)).1) := by
  rcases w.race_step_cases move with same | ⟨act, same, whose⟩ | ⟨session, aside, same⟩
  · rw [same]
    exact ⟨there, Or.inl found⟩
  · rw [same]
    constructor
    · rcases Race.callers_step_cases there act with stays | ⟨turns, _⟩ | ⟨_, given⟩
      · exact stays
      · rcases whose with rfl | ⟨m, gives⟩
        · exact absurd (congrArg Move.act turns) other
        · rw [gives] at turns
          cases turns
      · have still : c.giveUp w.race.session.table n = c.stance := by
          unfold Caller.giveUp
          rw [registered]
        rw [given, still]
    · rcases Race.request?_step ends found act with stays |
        ⟨own, completed, rfl | ⟨_, _, also, ending⟩⟩
      · exact Or.inl stays
      · exact Or.inr completed
      · cases there.symm.trans also
        rw [registered] at ending
        cases ending
  · rw [same]
    exact ⟨there, Or.inl ((aside.request? n).trans found)⟩

theorem awaited?_of_sent {c : Caller} {r : Request} (there : w.race.callers[n]? = some c)
    (registered : c.stance = .registered) (found : w.race.session.table.request? n = some r)
    (sent : (w.race.session.send c.frame).2 = .ok ()) :
    (w.step (.act (.turn n))).race.awaited? n = some r := by
  rcases whole : w.race.session.send c.frame with ⟨after, failure | ⟨⟩⟩
  · rw [whole] at sent
    cases sent
  have turned : c.turn w.race.session n = (after, .waiting) := by
    unfold Caller.turn
    rw [registered]
    dsimp only
    rw [whole]
  have stepped : w.race.step (.turn n) = w.race.place n c after .waiting := by
    unfold Race.step
    dsimp only
    rw [there]
    dsimp only
    rw [turned]
  refine Race.awaited?_eq_some_iff.mpr ⟨{ c with stance := .waiting }, ?_, rfl, ?_⟩
  · show (w.race.step (.turn n)).callers[n]? = _
    rw [stepped, Race.callers_place there, if_pos rfl]
  · show (w.race.step (.turn n)).session.table.request? n = _
    rw [stepped]
    have same := congrArg (Table.request? · n) (table_send w.race.session c.frame)
    rw [whole] at same
    exact same.trans found

/-- A caller whose frame was not queued when the connection ended has not come to send it yet, is
refused, or waits from there on. -/
theorem unsent_run (sound : w.Sound) (ends : w.race.loop.EndsWith failure w.race.session)
    (placed : w.race.Placed) {c : Caller} {r other : Request} (there : w.race.callers[n]? = some c)
    (registered : c.stance = .registered)
    (found : w.race.session.table.request? n = some other)
    (same : other = r ∨ other = (r.complete (some failure)).1) {moves : List Move}
    (patient : Patient n w moves) :
    (w.run moves).race.callers[n]? = some c ∨ w.Refused moves failure n c ∨
      (w.run moves).Expects failure n r True := by
  induction moves generalizing w other with
  | nil => exact Or.inl there
  | cons move rest ih =>
    have next := endsWith_step ends move
    by_cases turns : move = .act (.turn n)
    · subst turns
      cases sent : (w.race.session.send c.frame).2 with
      | error own =>
        refine Or.inr (Or.inl ⟨[], rest, own, rfl, there, sent, fun detached => ?_⟩)
        have gone := placed.send_of_detached ends detached c.frame
        exact Except.error.inj (sent.symm.trans gone)
      | ok _ =>
        have awaited := awaited?_of_sent there registered found sent
        have expects : (w.step (.act (.turn n))).Expects failure n r True :=
          Or.inl ⟨other, awaited, same, Or.inr (Or.inl trivial)⟩
        exact Or.inr (Or.inr (expects.run (sound.step _) next patient.2.2))
    · obtain ⟨stays, request⟩ := unsent_step ends there registered found turns
      have held : ∃ later, (w.step move).race.session.table.request? n = some later ∧
          (later = r ∨ later = (r.complete (some failure)).1) := by
        rcases request with still | completed
        · exact ⟨other, still, same⟩
        · exact ⟨_, completed, Or.inr (complete_of_same same)⟩
      obtain ⟨later, found, same⟩ := held
      have placed : (w.step move).race.Placed := placed_run placed (Or.inr ⟨failure, ends⟩) [move]
      rcases ih (sound.step move) next placed stays found same patient.2.2 with
        unsent | ⟨early, late, own, parts, stands, sent, gone⟩ | expects
      · exact Or.inl unsent
      · refine Or.inr (Or.inl ⟨move :: early, late, own, ?_, stands, sent, gone⟩)
        rw [parts, List.cons_append]
      · exact Or.inr (Or.inr expects)

end Crowd

end MarketLink.Session
