import MarketLink.Proofs.Session.Accounts

set_option autoImplicit false

namespace MarketLink.Session

open Correlation Message Wire

/-- How somebody learns that the connection has failed. -/
inductive Route where
  | refusal
  | absence
  | signal
  | teardown
  deriving Repr, DecidableEq

/-- What somebody is told because the connection has failed. -/
structure Notice where
  request? : Option Nat
  route : Route
  failure : Failure
  deriving Repr, DecidableEq

def refusal (s : Session) (request? : Option Nat) (frame : Bytes) : List Notice :=
  match (s.send frame).2 with
  | .ok () => []
  | .error failure => [⟨request?, if s.attached then .refusal else .absence, failure⟩]

namespace Office

/-- What is reported by a move. A frame that withdraws a request is sent to no avail, and nobody is
told. -/
def told (w : Office) : Move → List Notice
  | .turn n =>
    match w.caller? n with
    | some c =>
      match c.stance with
      | .registered => w.session.refusal (some n) c.frame
      | _ => []
    | none => []
  | .switch kind =>
    match reqMarketDataType kind with
    | .ok frame => w.session.refusal none frame
    | .error _ => []
  | .look n | .expire n =>
    match w.crowd.race.awaited? n with
    | some r =>
      if !r.streaming && w.crowd.branch n == .down && w.session.down then
        [⟨some n, .signal, w.session.closedFailure⟩]
      else []
    | none => []
  | .proceed =>
    match w.crowd.race.loop with
    | .failing _ (.settle ((n, some failure) :: _)) =>
      if (w.session.table.outcome? n).isNone then [⟨some n, .teardown, failure⟩] else []
    | _ => []
  | _ => []

/-- What is reported in a run. -/
def reports (w : Office) : List Move → List Notice
  | [] => []
  | move :: rest => w.told move ++ (w.step move).reports rest

variable {w : Office} {report : Notice}

/-- A sender is told the fault of the link where the link refuses it, and where the link is gone the
failure that was kept. -/
theorem mem_refusal (accounted : w.crowd.race.Accounted) {request? : Option Nat} {frame : Bytes}
    (member : report ∈ w.session.refusal request? frame) :
    report.route = .refusal ∧ w.session.link.fault = some report.failure ∨
      report.route = .absence ∧ w.session.terminal = some report.failure := by
  have place := accounted.place
  unfold Session.refusal Session.send at member
  cases attached : w.session.attached with
  | true =>
    rw [attached] at member place
    have opened : w.session.link.gate.closing = false := by
      rcases place with ⟨_, opened⟩ | ⟨gone, _⟩
      · exact opened
      · cases gone
    left
    simp only [↓reduceIte, Link.send, opened, Bool.false_eq_true] at member
    cases fault : w.session.link.fault with
    | none =>
      rw [fault] at member
      cases member
    | some failure =>
      rw [fault] at member
      rw [List.mem_singleton.mp member]
      exact ⟨rfl, rfl⟩
  | false =>
    rw [attached] at member place
    have kept : w.session.terminal.isSome = true := by
      rcases place with ⟨there, _⟩ | ⟨_, kept⟩
      · cases there
      · exact kept
    obtain ⟨failure, terminal⟩ := Option.isSome_iff_exists.mp kept
    right
    simp only [Bool.false_eq_true, ↓reduceIte, closedFailure, terminal, Option.getD_some] at member
    rw [List.mem_singleton.mp member]
    exact ⟨rfl, terminal⟩

/-- A report names the fault of the link, or the failure that was kept; and a request that was in
the table is completed with what is reported about it. -/
structure Fits (w : Office) (report : Notice) : Prop where
  refusal : report.route = .refusal → w.session.link.fault = some report.failure
  terminal : report.route ≠ .refusal → w.session.terminal = some report.failure
  outcome : report.route = .teardown →
    ∃ n, report.request? = some n ∧ w.session.table.outcome? n = some (.error report.failure)

theorem fits_of_terminal (direct : report.route ≠ .refusal) (live : report.route ≠ .teardown)
    (terminal : w.session.terminal = some report.failure) : w.Fits report :=
  ⟨fun same => absurd same direct, fun _ => terminal, fun same => absurd same live⟩

/-- Whoever is told of the end finds the failure that was kept. -/
theorem terminal_of_down (accounted : w.crowd.race.Accounted) (down : w.session.down = true) :
    w.session.terminal = some w.session.closedFailure := by
  rcases accounted.marks with ⟨_, up⟩ | ⟨failure, terminal, _⟩
  · cases up.symm.trans down
  · rw [closedFailure, terminal]
    rfl

theorem fits_of_refusal (accounted : w.crowd.race.Accounted) {request? : Option Nat} {frame : Bytes}
    (member : report ∈ w.session.refusal request? frame) : w.Fits report := by
  rcases mem_refusal accounted member with ⟨route, fault⟩ | ⟨route, terminal⟩
  · exact ⟨fun _ => fault, fun other => absurd route other,
      fun same => by cases route.symm.trans same⟩
  · exact fits_of_terminal (by rw [route]; nofun) (by rw [route]; nofun) terminal

/-- The loop completes what it has found in the table with the failure that was kept. -/
theorem fits_of_teardown (sound : w.crowd.Sound) (accounted : w.crowd.race.Accounted)
    (member : report ∈ w.told .proceed) : (w.step .proceed).Fits report := by
  unfold told at member
  dsimp only at member
  split at member
  · rename_i own n failure rest loop
    split at member
    · rename_i open?
      rw [List.mem_singleton.mp member]
      have ends : own = failure ∧ w.session.terminal = some failure := by
        rcases accounted.ends with untouched | ⟨kept, ends, _⟩
        · rw [loop] at untouched
          exact untouched.elim
        · rw [loop] at ends
          obtain ⟨⟨rfl, terminal, _⟩, endings, same, all⟩ := ends
          cases same
          cases all _ List.mem_cons_self
          exact ⟨rfl, terminal⟩
      have inside : n < w.session.table.requests.length := by
        refine sound.race.subjects n ?_
        rw [loop]
        exact List.mem_cons_self
      have found : w.session.table.request? n = some w.session.table.requests[n] :=
        List.getElem?_eq_getElem inside
      have running : w.session.table.requests[n].outcome = none := by
        have running := Option.isNone_iff_eq_none.mp open?
        rw [Table.outcome?, found] at running
        exact running
      have kept := (accounted_step sound accounted .proceed).2.terminal _ ends.2
      refine ⟨(by rintro ⟨⟩), fun _ => kept, fun _ => ⟨n, rfl, ?_⟩⟩
      have completed := (Table.complete_of_open found running (some failure)).2
      have next : (w.step .proceed).session.table =
          (w.session.table.complete n (some failure)).1 := by
        show (w.crowd.race.step .proceed).session.table = _
        rw [Race.step, loop]
        rfl
      rw [next, completed]
      rfl
    · cases member
  · cases member

theorem fits_told (sound : w.crowd.Sound) (accounted : w.crowd.race.Accounted) {move : Move}
    (member : report ∈ w.told move) : (w.step move).Fits report := by
  have keeps := (accounted_step sound accounted move).2
  have direct : w.Fits report → report.route ≠ .teardown → (w.step move).Fits report :=
    fun fits live => ⟨fun same => keeps.fault _ (fits.refusal same),
      fun other => keeps.terminal _ (fits.terminal other), fun same => absurd same live⟩
  have refused : ∀ request? frame, report ∈ w.session.refusal request? frame →
      (w.step move).Fits report := by
    intro request? frame member
    refine direct (fits_of_refusal accounted member) ?_
    rcases mem_refusal accounted member with ⟨route, _⟩ | ⟨route, _⟩ <;> rw [route] <;> nofun
  have heard : ∀ n, report ∈ w.told (.look n) → (w.step move).Fits report := by
    intro n member
    unfold told at member
    dsimp only at member
    split at member
    · split at member
      · rename_i ends
        have down : w.session.down = true := (Bool.and_eq_true_iff.mp ends).2
        rw [List.mem_singleton.mp member] at direct ⊢
        exact direct (fits_of_terminal nofun nofun (terminal_of_down accounted down)) nofun
      · cases member
    · cases member
  cases move with
  | turn n =>
    unfold told at member
    dsimp only at member
    split at member
    · split at member
      · exact refused _ _ member
      · cases member
    · cases member
  | switch kind =>
    unfold told at member
    dsimp only at member
    split at member
    · exact refused _ _ member
    · cases member
  | look n | expire n => exact heard n member
  | proceed => exact fits_of_teardown sound accounted member
  | come _ _ | giveUp _ | draw _ | enter | leave | fetch | read _ | write _ | close | letGo =>
    cases member

theorem Fits.run (fits : w.Fits report) (sound : w.crowd.Sound) (accounted : w.crowd.race.Accounted)
    (moves : List Move) : (w.run moves).Fits report := by
  have keeps := (accounted_run sound accounted moves).2
  refine ⟨fun same => keeps.fault _ (fits.refusal same),
    fun other => keeps.terminal _ (fits.terminal other), fun same => ?_⟩
  obtain ⟨n, request, ended⟩ := fits.outcome same
  exact ⟨n, request, outcome?_run sound ended moves⟩

theorem fits_reports (sound : w.crowd.Sound) (accounted : w.crowd.race.Accounted)
    {moves : List Move} (member : report ∈ w.reports moves) : (w.run moves).Fits report := by
  induction moves generalizing w with
  | nil => cases member
  | cons move rest ih =>
    have next := (accounted_step sound accounted move).1
    rcases List.mem_append.mp member with now | later
    · exact (fits_told sound accounted now).run (sound_step sound move) next rest
    · exact ih (sound_step sound move) next later

end Office

/-- Nothing of the end of a session has happened. -/
structure Begins (s : Session) : Prop where
  terminal : s.terminal = none
  down : s.down = false
  events : s.events = []
  attached : s.attached = true
  admitting : s.link.gate.closing = false

theorem not_isPeerReset_of_classify {failure : Failure} (same : failure.classify = failure) :
    failure.isPeerReset = false := by
  cases reset : failure.isPeerReset with
  | false => rfl
  | true =>
    rw [Failure.classify, reset, Bool.or_true, if_pos rfl] at same
    rw [← same] at reset
    cases reset

namespace Office

theorem accounted_opened {s : Session} (begins : Begins s) (firstId : Int) :
    (opened s firstId).crowd.race.Accounted :=
  ⟨Or.inl ⟨begins.terminal, begins.down, begins.events⟩,
    Or.inl ⟨begins.attached, begins.admitting⟩⟩

/-- What everybody is told when a connection fails. The failure that the session keeps is explained
by the fault of the link, a message that could not be read, or a wish to end, and is never that the
other side has gone away; whoever finds the link gone, is told of the end or has its request
completed gets that failure, and a request completed so has that outcome. A sender that the link
itself refuses gets the fault as it was raised; so all are told the same if and only if there is no
such sender, or the fault is reported as it is. -/
theorem one_story_iff (s : Session) (begins : Begins s) (firstId : Int) (moves : List Move) :
    (∀ failure, ((opened s firstId).run moves).session.terminal = some failure →
      ((opened s firstId).run moves).session.Explains failure ∧ failure.classify = failure ∧
        failure.isPeerReset = false) ∧
      (∀ report ∈ (opened s firstId).reports moves, report.route ≠ .refusal →
        ((opened s firstId).run moves).session.terminal = some report.failure) ∧
      (∀ report ∈ (opened s firstId).reports moves, report.route = .teardown →
        ∃ n, report.request? = some n ∧
          ((opened s firstId).run moves).session.outcome? n = some (.error report.failure)) ∧
      (∀ report ∈ (opened s firstId).reports moves, report.route = .refusal →
        ((opened s firstId).run moves).session.link.fault = some report.failure) ∧
      ∀ failure, ((opened s firstId).run moves).session.terminal = some failure →
        ((∀ report ∈ (opened s firstId).reports moves, report.failure = failure) ↔
          (∀ report ∈ (opened s firstId).reports moves, report.route ≠ .refusal) ∨
            ((opened s firstId).run moves).session.link.fault = some failure) := by
  have sound := sound_opened s firstId
  have accounted := accounted_opened begins firstId
  have fits : ∀ report ∈ (opened s firstId).reports moves,
      ((opened s firstId).run moves).Fits report :=
      fun _ member => fits_reports sound accounted member
  have last := (accounted_run sound accounted moves).1
  refine ⟨?_, fun report member => (fits report member).terminal,
    fun report member => (fits report member).outcome,
    fun report member => (fits report member).refusal, ?_⟩
  · intro failure terminal
    rcases last.marks with ⟨none, _⟩ | ⟨own, kept, explains⟩
    · cases none.symm.trans terminal
    · cases kept.symm.trans terminal
      exact ⟨explains, explains.classify, not_isPeerReset_of_classify explains.classify⟩
  · intro failure terminal
    constructor
    · intro same
      by_cases direct : ∀ report ∈ (opened s firstId).reports moves, report.route ≠ .refusal
      · exact Or.inl direct
      · obtain ⟨report, member, refused⟩ : ∃ report ∈ (opened s firstId).reports moves,
            report.route = .refusal := by
          simpa using direct
        exact Or.inr (same report member ▸ (fits report member).refusal refused)
    · intro either report member
      by_cases refused : report.route = .refusal
      · have fault := (fits report member).refusal refused
        rcases either with direct | known
        · exact absurd refused (direct report member)
        · exact Option.some.inj (fault.symm.trans known)
      · exact Option.some.inj (((fits report member).terminal refused).symm.trans terminal)

/-- Two calls wait; the connection is reset, and the loop goes through the end. The first call is
told of it, the second one is completed, and a third one comes too late. -/
def resetting : List Move :=
  [.come (.call .currentTime) 1, .turn 0, .turn 0, .come (.call .managedAccounts) 1, .turn 1,
    .turn 1, .read (.fault (.ofKind .connectionReset)), .fetch, .proceed, .proceed, .look 0,
    .look 0, .proceed,
    .proceed, .proceed, .proceed, .come (.call .currentTime) 2, .turn 2, .turn 2]

theorem all_are_told_that_it_is_closed :
    Begins (ofReady {} 7 0 {} 176 "" 1) ∧
      ((opened (ofReady {} 7 0 {} 176 "" 1) 1).reports resetting).map Notice.route =
        [.signal, .teardown, .absence] ∧
      ∀ report ∈ (opened (ofReady {} 7 0 {} 176 "" 1) 1).reports resetting,
        report.failure = .closed := by
  have begins : Begins (ofReady {} 7 0 {} 176 "" 1) := ⟨rfl, rfl, rfl, rfl, rfl⟩
  obtain ⟨-, -, -, -, same⟩ := one_story_iff _ begins 1 resetting
  have routes : ((opened (ofReady {} 7 0 {} 176 "" 1) 1).reports resetting).map Notice.route =
      [.signal, .teardown, .absence] := by decide +kernel
  refine ⟨begins, routes, (same .closed (by decide +kernel)).mpr (Or.inl ?_)⟩
  intro report member refused
  have route : report.route ∈ [Route.signal, .teardown, .absence] :=
    routes ▸ List.mem_map_of_mem member
  rw [refused] at route
  revert route
  decide

/-- The connection is reset, and a call is sent before the loop has taken notice. The call is told
of the reset, and a call that waits that the connection is closed. -/
theorem sender_is_told_the_fault_itself :
    ((opened (ofReady {} 7 0 {} 176 "" 1) 1).run
        [.come (.call .currentTime) 1, .turn 0, .turn 0, .read (.fault (.ofKind .connectionReset)),
          .come (.call .currentTime) 2, .turn 1, .turn 1, .fetch, .proceed, .proceed,
          .look 0, .look 0]).session.terminal = some .closed ∧
      (opened (ofReady {} 7 0 {} 176 "" 1) 1).reports
        [.come (.call .currentTime) 1, .turn 0, .turn 0, .read (.fault (.ofKind .connectionReset)),
          .come (.call .currentTime) 2, .turn 1, .turn 1, .fetch, .proceed, .proceed, .look 0,
          .look 0] =
        [⟨some 1, .refusal, .io (.ofKind .connectionReset)⟩, ⟨some 0, .signal, .closed⟩] := by
  decide +kernel

end Office

end MarketLink.Session
