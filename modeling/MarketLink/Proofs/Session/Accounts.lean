import MarketLink.Proofs.Session.Ending
import MarketLink.Proofs.Session.Posted

set_option autoImplicit false

namespace MarketLink

/-- A failure that is reported as it is: the other side has not gone away, nor did this side ask. -/
theorem Failure.classify_classify (failure : Failure) :
    failure.classify.classify = failure.classify := by
  unfold classify
  split <;> rfl

namespace Session

open Correlation Message Wire

/-- A link goes on: a fault that it has stays, and it admits senders as before. -/
structure Link.GoesOn (l after : Link) : Prop where
  fault : ∀ failure, l.fault = some failure → after.fault = some failure
  closing : after.gate.closing = l.gate.closing

namespace Link

theorem GoesOn.refl (l : Link) : GoesOn l l := ⟨fun _ same => same, rfl⟩

theorem Written.goesOn {l after : Link} (written : Written l after) : GoesOn l after :=
  ⟨fun _ same => written.fault.trans same, congrArg Gate.closing written.gate⟩

theorem goesOn_raise (l : Link) (failure : Failure) : GoesOn l (l.raise failure) := by
  unfold raise
  split
  · exact GoesOn.refl l
  · exact ⟨fun own same => by dsimp only; rw [same, Option.some_or], rfl⟩

theorem goesOn_send (l : Link) (frame : Bytes) : GoesOn l (l.send frame).1 := by
  rcases l.send_cases frame with ⟨_, same⟩ | same <;> rw [same]
  · exact GoesOn.refl l
  · exact ⟨fun _ same => same, rfl⟩

theorem goesOn_take (l : Link) : GoesOn l l.take.1 := by
  unfold take
  split
  · exact GoesOn.refl l
  · split
    · exact ⟨fun _ same => same, rfl⟩
    · split <;> exact GoesOn.refl l

/-- The failure behind the last payload is the fault, or the connection has been closed. -/
theorem take_error {l after : Link} {failure : Failure}
    (taken : l.take = (after, some (.error failure))) :
    after = l ∧ (failure = .closed ∨ l.fault = some failure) := by
  unfold take at taken
  split at taken
  · cases taken
    exact ⟨rfl, Or.inl rfl⟩
  · split at taken
    · cases taken
    · split at taken
      · rename_i fault raised
        cases taken
        exact ⟨rfl, Or.inr raised⟩
      · split at taken
        · cases taken
        · cases taken
          exact ⟨rfl, Or.inl rfl⟩

theorem goesOn_read (l : Link) (reading : Reading) : GoesOn l (l.read reading) := by
  refine ⟨?_, congrArg Gate.closing (readOn_read l reading).gate⟩
  intro failure same
  cases reading with
  | bytes bytes =>
    simp only [read, receive]
    split
    · split
      · exact same
      · exact (goesOn_raise _ _).fault failure same
    · exact same
  | finish =>
    simp only [read, receiveEnd]
    split
    · split
      · exact same
      · exact (goesOn_raise _ _).fault failure same
    · exact same
  | fault fault =>
    simp only [read, receiveFault]
    split
    · split
      · exact same
      · exact (goesOn_raise _ _).fault failure same
    · exact same
  | stop =>
    simp only [read, stopReading]
    split <;> exact same

theorem goesOn_write (l : Link) (stroke : Stroke) : GoesOn l (l.write stroke) := by
  cases stroke with
  | wake => exact (written_startWriting l).goesOn
  | wakeLast =>
    simp only [write, startLastWriting]
    split <;> exact ⟨fun _ same => same, rfl⟩
  | chunk => exact (written_writeChunk l).goesOn
  | fault count fault? =>
    simp only [write, writeFault]
    split
    · split
      · exact ⟨fun _ same => same, rfl⟩
      · obtain ⟨fault, closing⟩ := goesOn_raise _ (writeFailure fault?)
        exact ⟨fault, closing⟩
    · exact GoesOn.refl l

end Link

/-- A failure that may have ended the connection: it was asked for, or a message could not be read,
or it is the fault of the link, as faults are reported. -/
def Explains (s : Session) (failure : Failure) : Prop :=
  failure = .closed ∨ (∃ e, failure = .protocol e) ∨
    ∃ fault, s.link.fault = some fault ∧ failure = fault.classify

theorem Explains.congr {s after : Session} {failure : Failure} (explains : s.Explains failure)
    (goesOn : ∀ fault, s.link.fault = some fault → after.link.fault = some fault) :
    after.Explains failure := by
  rcases explains with closed | protocol | ⟨fault, raised, same⟩
  · exact Or.inl closed
  · exact Or.inr (Or.inl protocol)
  · exact Or.inr (Or.inr ⟨fault, goesOn fault raised, same⟩)

theorem Explains.classify {s : Session} {failure : Failure} (explains : s.Explains failure) :
    failure.classify = failure := by
  rcases explains with rfl | ⟨_, rfl⟩ | ⟨fault, _, rfl⟩
  · rfl
  · rfl
  · exact fault.classify_classify

/-- What a failed connection leaves behind stays: the failure that was kept, and the fault. -/
structure Keeps (s after : Session) : Prop where
  terminal : ∀ failure, s.terminal = some failure → after.terminal = some failure
  fault : ∀ failure, s.link.fault = some failure → after.link.fault = some failure

theorem Keeps.trans {first second third : Session} (before : Keeps first second)
    (next : Keeps second third) : Keeps first third :=
  ⟨fun failure same => next.terminal failure (before.terminal failure same),
    fun failure same => next.fault failure (before.fault failure same)⟩

namespace Race

/-- The loop finds no end, and the link is left alone. -/
def Move.isUsual : Move → Bool
  | .lose _ | .transport _ => false
  | .ask _ _ _ _ _ | .turn _ | .giveUp _ | .receive _ | .proceed | .close => true

theorem Move.ne_lose_of_isUsual {move : Move} (usual : move.isUsual = true) (failure : Failure) :
    move ≠ .lose failure := by
  rintro rfl
  cases usual

theorem Move.ne_transport_of_isUsual {move : Move} (usual : move.isUsual = true)
    (change : Link → Link) : move ≠ .transport change := by
  rintro rfl
  cases usual

/-- What one of the parties does to a race. The loop finds an end that something explains. -/
inductive Leads (w : Race) : Race → Prop where
  | rest : Leads w w
  | act (move : Move) (usual : move.isUsual = true) : Leads w (w.step move)
  | lose (failure : Failure) (explains : w.session.Explains failure.classify) :
    Leads w (w.step (.lose failure))
  | link (link : Link) (goesOn : Link.GoesOn w.session.link link) :
    Leads w { w with session := { w.session with link } }
  | aside (session : Session) (aside : Crowd.Aside w.session session) : Leads w { w with session }

variable {w after : Race}

theorem Sound.leads (sound : w.Sound) (leads : Leads w after) : after.Sound := by
  cases leads with
  | rest => exact sound
  | act move _ => exact sound.step move
  | lose failure _ => exact sound.step (.lose failure)
  | link link _ => exact sound.step (.transport fun _ => link)
  | aside session aside => exact aside.sound sound

theorem goesOn_turn (c : Caller) (s : Session) (n : Nat) :
    (c.turn s n).1.attached = s.attached ∧ Link.GoesOn s.link (c.turn s n).1.link := by
  constructor
  · obtain ⟨table, link, same⟩ := c.turn_eq s n
    rw [same]
  · have sends : ∀ frame, Link.GoesOn s.link (s.send frame).1.link := by
      intro frame
      unfold Session.send
      split
      · exact Link.goesOn_send s.link frame
      · exact Link.GoesOn.refl s.link
    rw [Office.link_turn]
    split
    · exact sends _
    · exact sends _
    · exact Link.GoesOn.refl s.link

/-- Behind the start of a session: if its end has begun, the failure is one that explains it; the
link stays in its place, and admits senders, until the failure is kept. -/
structure Accounted (w : Race) : Prop where
  ends : w.loop.Untouched w.session ∨
    ∃ failure, w.loop.EndsWith failure w.session ∧ w.session.Explains failure
  place : w.session.attached = true ∧ w.session.link.gate.closing = false ∨
    w.session.attached = false ∧ w.session.terminal.isSome = true

/-- Nobody has been told of the end before its failure was kept. -/
theorem Accounted.marks (accounted : w.Accounted) :
    w.session.terminal = none ∧ w.session.down = false ∨
      ∃ failure, w.session.terminal = some failure ∧ w.session.Explains failure := by
  rcases accounted.ends with untouched | ⟨failure, ends, explains⟩
  · cases loop : w.loop with
    | serving _ =>
      rw [loop] at untouched
      exact Or.inl ⟨untouched.1, untouched.2.1⟩
    | noting _ | signalling _ | detaching _ | closing _ | clearing _ | failing _ _ | lost =>
      rw [loop] at untouched
      exact untouched.elim
  · cases loop : w.loop with
    | serving _ =>
      rw [loop] at ends
      exact ends.elim
    | noting _ =>
      rw [loop] at ends
      exact Or.inl ends.2
    | signalling _ | detaching _ | closing _ | clearing _ =>
      rw [loop] at ends
      exact Or.inr ⟨failure, ends.2.1, explains⟩
    | failing _ _ =>
      rw [loop] at ends
      exact Or.inr ⟨failure, ends.1.2.1, explains⟩
    | lost =>
      rw [loop] at ends
      exact Or.inr ⟨failure, ends.1, explains⟩

/-- What nobody but the loop changes of the link and its place. -/
theorem place_step (w : Race) {move : Move} (other : move ≠ .proceed)
    (usual : ∀ change, move ≠ .transport change) :
    (w.step move).session.attached = w.session.attached ∧
      Link.GoesOn w.session.link (w.step move).session.link := by
  have same : w.session.attached = w.session.attached ∧
      Link.GoesOn w.session.link w.session.link := ⟨rfl, Link.GoesOn.refl _⟩
  cases move with
  | turn n =>
    unfold step
    dsimp only
    split
    · exact goesOn_turn _ w.session n
    · exact same
  | giveUp _ | receive _ | lose _ =>
    unfold step
    dsimp only
    split <;> exact same
  | ask _ _ _ _ _ | close => exact same
  | proceed => exact absurd rfl other
  | transport change => exact absurd rfl (usual change)

theorem keeps_turn (s : Session) (loop : Loop) : Keeps s (loop.turn s).1 := by
  have same : Keeps s s := ⟨fun _ same => same, fun _ same => same⟩
  cases loop with
  | noting failure =>
    refine ⟨fun own kept => ?_, fun _ same => same⟩
    show s.terminal.or (some failure) = some own
    rw [kept, Option.some_or]
  | closing failure =>
    exact ⟨fun _ same => same, fun _ same => (Link.fault_close s.link).trans same⟩
  | failing failure task =>
    simp only [Loop.turn]
    split
    · unfold announceEnd
      split <;> exact ⟨fun _ same => same, fun _ same => same⟩
    · exact ⟨fun _ same => same, fun _ same => same⟩
  | serving _ | signalling _ | detaching _ | clearing _ | lost =>
    exact ⟨fun _ same => same, fun _ same => same⟩

theorem keeps_step (w : Race) {move : Move} (usual : ∀ change, move ≠ .transport change) :
    Keeps w.session (w.step move).session := by
  by_cases proceeds : move = .proceed
  · subst proceeds
    exact keeps_turn w.session w.loop
  · have terminal := (marks_step (w := w) proceeds).1
    exact ⟨fun _ same => terminal.trans same, (w.place_step proceeds usual).2.fault⟩

theorem Leads.keeps (leads : Leads w after) : Keeps w.session after.session := by
  cases leads with
  | rest => exact ⟨fun _ same => same, fun _ same => same⟩
  | act move usual => exact w.keeps_step (Move.ne_transport_of_isUsual usual)
  | lose failure _ => exact w.keeps_step nofun
  | link link goesOn => exact ⟨fun _ same => same, goesOn.fault⟩
  | aside session aside =>
    refine ⟨fun _ same => aside.terminal.trans same, fun _ same => ?_⟩
    rw [aside.link]
    exact same

/-- The link leaves its place behind the failure that was kept, and closes behind that. -/
theorem place_proceed (sound : w.Sound)
    (place : w.session.attached = true ∧ w.session.link.gate.closing = false ∨
      w.session.attached = false ∧ w.session.terminal.isSome = true)
    (kept : ∀ failure, w.loop = .detaching failure → w.session.terminal.isSome = true) :
    (w.step .proceed).session.attached = true ∧
        (w.step .proceed).session.link.gate.closing = false ∨
      (w.step .proceed).session.attached = false ∧
        (w.step .proceed).session.terminal.isSome = true := by
  have detached := sound.detached
  unfold step Loop.turn
  dsimp only
  cases loop : w.loop with
  | detaching failure => exact Or.inr ⟨rfl, kept failure loop⟩
  | closing failure =>
    refine Or.inr (place.resolve_left ?_)
    rw [detached (by rw [loop]; rfl)]
    exact fun there => Bool.false_ne_true there.1
  | noting failure =>
    refine place.imp_right fun ⟨gone, _⟩ => ⟨gone, ?_⟩
    show (w.session.terminal.or (some failure)).isSome = true
    rw [Option.isSome_or, Option.isSome_some, Bool.or_true]
  | failing failure task =>
    dsimp only
    split
    · unfold announceEnd
      split <;> exact place
    · exact place
  | serving _ | signalling _ | clearing _ | lost => exact place

/-- The end of a connection begins in one way only. -/
theorem untouched_step_of_usual (untouched : w.loop.Untouched w.session) {move : Move}
    (usual : move.isUsual = true) : (w.step move).loop.Untouched (w.step move).session := by
  by_cases proceeds : move = .proceed
  · subst proceeds
    unfold step Loop.turn
    dsimp only
    cases loop : w.loop with
    | serving task =>
      rw [loop] at untouched
      exact untouched
    | noting _ | signalling _ | detaching _ | closing _ | clearing _ | failing _ _ | lost =>
      rw [loop] at untouched
      exact untouched.elim
  · obtain ⟨terminal, down, events, same | ⟨idle, ⟨task, serves⟩ | ⟨failure, begins, _⟩⟩⟩ :=
      marks_step proceeds
    · rw [same]
      exact untouched.congr terminal down events
    · rw [idle] at untouched
      rw [serves, Loop.Untouched, terminal, down, events]
      exact untouched
    · exact absurd begins (Move.ne_lose_of_isUsual usual failure)

theorem untouched_or_endsWith_lose (untouched : w.loop.Untouched w.session) (failure : Failure) :
    (w.step (.lose failure)).loop.Untouched (w.step (.lose failure)).session ∨
      (w.step (.lose failure)).loop.EndsWith failure.classify (w.step (.lose failure)).session := by
  have other : Move.lose failure ≠ .proceed := nofun
  obtain ⟨terminal, down, events, same | ⟨idle, _⟩⟩ := marks_step (w := w) other
  · rw [same]
    exact Or.inl (untouched.congr terminal down events)
  · exact Or.inr (endsWith_lose untouched idle failure)

/-- Whatever the parties do, the end of the connection stays accounted for. -/
theorem Accounted.leads (accounted : w.Accounted) (sound : w.Sound) (leads : Leads w after) :
    after.Accounted := by
  have keeps := leads.keeps
  have aside_of : ∀ move, move ≠ .proceed → (∀ change, move ≠ .transport change) →
      ((w.step move).session.attached = true ∧ (w.step move).session.link.gate.closing = false ∨
        (w.step move).session.attached = false ∧ (w.step move).session.terminal.isSome = true) := by
    intro move other usual
    obtain ⟨attached, goesOn⟩ := w.place_step other usual
    rw [attached, goesOn.closing, (marks_step (w := w) other).1]
    exact accounted.place
  constructor
  · rcases accounted.ends with untouched | ⟨failure, ends, explains⟩
    · cases leads with
      | rest => exact Or.inl untouched
      | act move usual => exact Or.inl (untouched_step_of_usual untouched usual)
      | lose failure explains =>
        exact (untouched_or_endsWith_lose untouched failure).imp_right fun ends =>
          ⟨failure.classify, ends, explains.congr keeps.fault⟩
      | link link _ => exact Or.inl (untouched.congr rfl rfl rfl)
      | aside session aside =>
        exact Or.inl (untouched.congr aside.terminal aside.down aside.events)
    · refine Or.inr ⟨failure, ?_, explains.congr keeps.fault⟩
      cases leads with
      | rest => exact ends
      | act move _ => exact endsWith_step ends move
      | lose own _ => exact endsWith_step ends (.lose own)
      | link link _ => exact ends.congr rfl rfl
      | aside session aside => exact ends.congr aside.terminal aside.down
  · cases leads with
    | rest => exact accounted.place
    | act move usual =>
      by_cases proceeds : move = .proceed
      · subst proceeds
        refine place_proceed sound accounted.place fun failure detaching => ?_
        rcases accounted.ends with untouched | ⟨own, ends, _⟩
        · rw [detaching] at untouched
          exact untouched.elim
        · rw [detaching] at ends
          rw [ends.2.1]
          rfl
      · exact aside_of move proceeds (Move.ne_transport_of_isUsual usual)
    | lose failure _ => exact aside_of _ nofun nofun
    | link link goesOn =>
      show w.session.attached = true ∧ link.gate.closing = false ∨ _
      rw [goesOn.closing]
      exact accounted.place
    | aside session aside =>
      show session.attached = true ∧ session.link.gate.closing = false ∨
        session.attached = false ∧ session.terminal.isSome = true
      rw [aside.attached, aside.link, aside.terminal]
      exact accounted.place

end Race

namespace Office

variable {w : Office}

theorem leads_poll (w : Crowd) (n : Nat) (late : Bool) :
    Race.Leads w.race (w.poll n late).race := by
  rcases w.race_poll n late with same | same <;> rw [same]
  · exact .rest
  · exact .act (.giveUp n) rfl

/-- A move of an office is two steps of its parties at most: the loop takes something off the link,
and turns to it. -/
theorem leads_step (w : Office) (move : Move) : ∃ between,
    Race.Leads w.crowd.race between ∧ Race.Leads between (w.step move).crowd.race := by
  have once : ∀ {after}, Race.Leads w.crowd.race after →
      ∃ between, Race.Leads w.crowd.race between ∧ Race.Leads between after :=
    fun leads => ⟨_, leads, .rest⟩
  cases move with
  | come errand number =>
    simp only [step]
    split
    · split
      · exact once (.act (.ask _ _ _ _ _) rfl)
      · exact once .rest
    · exact once .rest
  | turn n => exact once (.act (.turn n) rfl)
  | giveUp n => exact once (.act (.giveUp n) rfl)
  | look n => exact once (leads_poll w.crowd n _)
  | expire n => exact once (leads_poll w.crowd n _)
  | draw question => exact once (.aside _ (Crowd.aside_keyFor _ question))
  | enter => exact once (.aside _ (Crowd.aside_enter _))
  | leave => exact once (.aside _ (Crowd.aside_leave _))
  | letGo => exact once (.aside _ (Crowd.aside_letGo _))
  | switch kind =>
    simp only [step]
    split
    · rename_i frame _
      rcases w.post_cases (.other frame) with same | ⟨_, same⟩ <;> rw [same]
      · exact once .rest
      · refine once (.link _ ?_)
        rcases w.session.send_cases frame with ⟨_, same⟩ | same <;>
          rw [show (Letter.other frame).frame = frame from rfl, same]
        · exact Link.GoesOn.refl _
        · exact ⟨fun _ same => same, rfl⟩
    · exact once .rest
  | fetch =>
    rcases w.fetch_cases with same | ⟨_, ⟨_, same⟩ | ⟨_, link, failure, taken, same⟩ |
      ⟨_, link, payload, taken, ⟨e, _, same⟩ | ⟨arrival, _, same⟩⟩⟩ <;>
      rw [step, same]
    · exact once .rest
    · exact once (.lose .closed (Or.inl rfl))
    all_goals
      have goesOn := w.session.link.goesOn_take
      rw [taken] at goesOn
      refine ⟨_, .link link goesOn, ?_⟩
    · refine .lose failure ?_
      obtain ⟨rfl, rfl | raised⟩ := Link.take_error taken
      · exact Or.inl rfl
      · exact Or.inr (Or.inr ⟨failure, raised, rfl⟩)
    · exact .lose (.protocol e) (Or.inr (Or.inl ⟨e, rfl⟩))
    · exact .act (.receive (destination arrival)) rfl
  | proceed => exact once (.act .proceed rfl)
  | read reading => exact once (.link _ (Link.goesOn_read _ reading))
  | write stroke => exact once (.link _ (Link.goesOn_write _ stroke))
  | close => exact once (.act .close rfl)

theorem accounted_step (sound : w.crowd.Sound) (accounted : w.crowd.race.Accounted) (move : Move) :
    (w.step move).crowd.race.Accounted ∧ Keeps w.session (w.step move).session := by
  obtain ⟨between, first, second⟩ := w.leads_step move
  have next := accounted.leads sound.race first
  exact ⟨next.leads (sound.race.leads first) second, first.keeps.trans second.keeps⟩

theorem sound_step (sound : w.crowd.Sound) (move : Move) : (w.step move).crowd.Sound :=
  sound_run sound [move]

theorem accounted_run (sound : w.crowd.Sound) (accounted : w.crowd.race.Accounted)
    (moves : List Move) :
    (w.run moves).crowd.race.Accounted ∧ Keeps w.session (w.run moves).session := by
  induction moves generalizing w with
  | nil => exact ⟨accounted, fun _ same => same, fun _ same => same⟩
  | cons move rest ih =>
    obtain ⟨next, keeps⟩ := accounted_step sound accounted move
    obtain ⟨last, also⟩ := ih (sound_step sound move) next
    exact ⟨last, keeps.trans also⟩

end Office

end Session

end MarketLink
