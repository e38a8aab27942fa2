import MarketLink.Proofs.Session.Suited

set_option autoImplicit false

namespace MarketLink.Session

open Correlation Message Wire

section Link

variable {l : Link} {failure : Failure}

/-- The reader brings about failures of the connection only. -/
theorem Link.fault_read {reading : Reading} (raised : (l.read reading).fault = some failure) :
    l.fault = some failure ∨ failure.ofConnection = true := by
  cases reading with
  | bytes bytes =>
    simp only [Link.read, Link.receive] at raised
    split at raised
    · split at raised
      · exact Or.inl raised
      · exact Link.fault_raise raised rfl rfl
    · exact Or.inl raised
  | finish =>
    simp only [Link.read, Link.receiveEnd] at raised
    split at raised
    · split at raised
      · exact Or.inl raised
      · exact Link.fault_raise raised rfl rfl
    · exact Or.inl raised
  | fault fault =>
    simp only [Link.read, Link.receiveFault] at raised
    split at raised
    · split at raised
      · exact Or.inl raised
      · exact Link.fault_raise raised rfl rfl
    · exact Or.inl raised
  | stop =>
    simp only [Link.read, Link.stopReading] at raised
    split at raised <;> exact Or.inl raised

end Link

/-- Neither the link nor the session has kept a failure that must not be. -/
structure Sober (s : Session) : Prop where
  fault : ∀ failure, s.link.fault = some failure → failure.isInternal = false
  terminal : ∀ failure, s.terminal = some failure → failure.isInternal = false

section Sober

variable {s after : Session} {failure : Failure}

theorem Sober.congr (sober : s.Sober) (fault : after.link.fault = s.link.fault)
    (terminal : after.terminal = s.terminal) : after.Sober :=
  ⟨by rw [fault]; exact sober.fault, by rw [terminal]; exact sober.terminal⟩

theorem Sober.closedFailure (sober : s.Sober) : s.closedFailure.isInternal = false := by
  unfold Session.closedFailure
  cases kept : s.terminal with
  | none => rfl
  | some failure => exact sober.terminal failure kept

theorem fault_send (s : Session) (frame : Bytes) : (s.send frame).1.link.fault = s.link.fault := by
  rcases s.send_cases frame with ⟨_, same⟩ | same <;> rw [same]

theorem Sober.send (sober : s.Sober) {frame : Bytes} (unsent : (s.send frame).2 = .error failure) :
    failure.isInternal = false := by
  rw [send_snd] at unsent
  split at unsent
  · unfold Link.send at unsent
    split at unsent
    · cases unsent
      rfl
    · split at unsent
      · rename_i raised
        cases unsent
        exact sober.fault failure raised
      · cases unsent
  · cases unsent
    exact sober.closedFailure

end Sober

def Stance.failure? : Stance → Option Failure
  | .leaving failure _ | .ending failure _ => some failure
  | .fresh | .refused | .registered | .waiting | .telling _ | .gone => none

def Loop.failure? : Loop → Option Failure
  | .noting failure | .signalling failure | .detaching failure | .closing failure
    | .clearing failure
  | .failing failure _ => some failure
  | .serving _ | .lost => none

section Caller

variable {c : Caller} {s : Session} {n : Nat} {failure : Failure}

theorem Caller.failure?_turn (fails : (c.turn s n).2.failure? = some failure) :
    c.stance.failure? = some failure ∨ (s.send c.frame).2 = .error failure := by
  cases stance : c.stance with
  | fresh =>
    cases accepted : (s.table.register n).2 with
    | ok _ =>
      rw [Race.Caller.turn_of_accepted stance accepted] at fails
      cases fails
    | error refused =>
      rw [Race.Caller.turn_of_refused stance accepted] at fails
      cases fails
  | registered =>
    cases sent : (s.send c.frame).2 with
    | ok _ =>
      rw [Race.Caller.turn_of_sent stance sent] at fails
      cases fails
    | error own =>
      rw [Race.Caller.turn_of_unsent stance sent] at fails
      cases fails
      exact Or.inr rfl
  | leaving own note =>
    rw [Caller.turn, stance] at fails
    exact Or.inl fails
  | refused | waiting | ending _ _ | telling _ | gone =>
    rw [Caller.turn, stance] at fails
    cases fails

theorem Caller.failure?_giveUp {t : Table} (fails : (c.giveUp t n).failure? = some failure) :
    c.stance.failure? = some failure ∨ failure = .cancelled := by
  unfold Caller.giveUp at fails
  split at fails
  · split at fails
    · cases fails
    · split at fails <;> exact Or.inr (Option.some.inj fails).symm
  · exact Or.inl fails

end Caller

namespace Race

/-- Everybody keeps to the terms. -/
structure Fair (p : Terms) (w : Race) : Prop where
  holds : p.Holds w.session.table
  fits : p.Fits w.session.table w.loop.task
  sober : w.session.Sober
  loop : ∀ failure, w.loop.failure? = some failure → failure.isInternal = false
  callers : ∀ (n : Nat) (c : Caller) (failure : Failure), w.callers[n]? = some c →
    c.stance.failure? = some failure → failure.isInternal = false

section Fair

variable {p q : Terms} {w : Race}

theorem Fair.extend (fair : w.Fair p) (grows : p.Extends q) : w.Fair q :=
  ⟨fair.holds.extend grows, fair.fits.extend grows, fair.sober, fair.loop, fair.callers⟩

/-- A step that neither a caller nor a request notices. -/
theorem Fair.rest (fair : w.Fair p) {session : Session} {loop : Loop}
    (requests : session.table.requests = w.session.table.requests)
    (fits : p.Fits w.session.table loop.task) (sober : session.Sober)
    (fails : ∀ failure, loop.failure? = some failure → failure.isInternal = false) :
    Fair p { w with session, loop } :=
  ⟨fair.holds.of_requests requests, fits.ebb (Terms.ebbs_of_requests requests), sober, fails,
    fair.callers⟩

/-- A caller moves, and completes at most its own request, as the request may fail. -/
theorem Fair.place (fair : w.Fair p) {n : Nat} {c : Caller} (there : w.callers[n]? = some c)
    {session : Session} {stance : Stance} (holds : p.Holds session.table)
    (ebbs : Terms.Ebbs w.session.table session.table) (sober : session.Sober)
    (fails : ∀ failure, stance.failure? = some failure → failure.isInternal = false) :
    (w.place n c session stance).Fair p := by
  refine ⟨holds, fair.fits.ebb ebbs, sober, fair.loop, ?_⟩
  intro m other failure found own
  rw [callers_place there] at found
  split at found
  · cases found
    exact fails failure own
  · exact fair.callers m other failure found own

theorem Fair.giveUp (fair : w.Fair p) (n : Nat) : (w.step (.giveUp n)).Fair p := by
  unfold step
  dsimp only
  split
  · rename_i c there
    refine fair.place there fair.holds (Terms.ebbs_of_requests rfl) fair.sober ?_
    intro failure fails
    rcases Caller.failure?_giveUp fails with own | rfl
    · exact fair.callers n c failure there own
    · rfl
  · exact fair

theorem Fair.table_turn (fair : w.Fair p) {n : Nat} {c : Caller} (there : w.callers[n]? = some c)
    (spares : ∀ n failure, failure.isInternal = false → p.mayFail n failure)
    (inside : n < w.session.table.requests.length) :
    p.Holds (c.turn w.session n).1.table ∧
      Terms.Ebbs w.session.table (c.turn w.session n).1.table := by
  have untouched : (c.turn w.session n).1.table.requests = w.session.table.requests →
      p.Holds (c.turn w.session n).1.table ∧
        Terms.Ebbs w.session.table (c.turn w.session n).1.table :=
    fun same => ⟨fair.holds.of_requests same, Terms.ebbs_of_requests same⟩
  unfold Caller.turn at untouched ⊢
  cases stance : c.stance with
  | fresh =>
    rw [stance] at untouched
    have same := w.session.table.requests_register n
    unfold Session.register at untouched ⊢
    revert same untouched
    dsimp only
    rcases w.session.table.register n with ⟨table, failure | ⟨⟩⟩ <;>
      exact fun untouched same => untouched same
  | registered =>
    rw [stance] at untouched
    have same := congrArg Table.requests (table_send w.session c.frame)
    revert same untouched
    dsimp only
    rcases w.session.send c.frame with ⟨s, failure | ⟨⟩⟩ <;>
      exact fun untouched same => untouched same
  | leaving _ _ =>
    rw [stance] at untouched
    exact untouched (w.session.table.requests_unregister n)
  | ending failure note =>
    have own := fair.callers n c failure there (by rw [stance]; rfl)
    exact ⟨fair.holds.complete ⟨inside, spares n failure own⟩,
      Terms.ebbs_complete _ n (some failure)⟩
  | telling note =>
    rw [stance] at untouched
    exact untouched (congrArg Table.requests (table_withdraw w.session note))
  | refused | waiting | gone =>
    rw [stance] at untouched
    exact untouched rfl

theorem Fair.turn (fair : w.Fair p) (sound : w.Sound)
    (spares : ∀ n failure, failure.isInternal = false → p.mayFail n failure) (n : Nat) :
    (w.step (.turn n)).Fair p := by
  unfold step
  dsimp only
  split
  · rename_i c there
    obtain ⟨holds, ebbs⟩ := fair.table_turn there spares (sound.inside there)
    refine fair.place there holds ebbs (fair.sober.congr ?_ ?_) ?_
    · rw [Office.link_turn]
      split
      · exact fault_send _ _
      · exact fault_send _ _
      · rfl
    · obtain ⟨table, link, same⟩ := c.turn_eq w.session n
      rw [same]
    · intro failure fails
      rcases Caller.failure?_turn fails with own | unsent
      · exact fair.callers n c failure there own
      · exact fair.sober.send unsent
  · exact fair

theorem Fair.work (fair : w.Fair p) (sound : w.Sound) (lawful : p.Lawful w.session.table)
    {loop : Loop} (left : loop.task = (Loop.work w.session w.loop.task).2)
    (fails : ∀ failure, loop.failure? = some failure → failure.isInternal = false) :
    Fair p { w with session := (Loop.work w.session w.loop.task).1, loop } := by
  obtain ⟨holds, fits⟩ := fair.holds.advance lawful sound.filed sound.created fair.fits
  exact ⟨holds, left ▸ fits, fair.sober.congr rfl rfl, fails, fair.callers⟩

theorem Fair.proceed (fair : w.Fair p) (sound : w.Sound) (lawful : p.Lawful w.session.table)
    (spares : ∀ n failure, failure.isInternal = false → p.mayFail n failure) :
    (w.step .proceed).Fair p := by
  have idle : p.Fits w.session.table .idle := fun _ member => absurd member List.not_mem_nil
  have goes := fair.loop
  have work := @Fair.work p w fair sound lawful
  unfold step Loop.turn
  dsimp only
  cases loop : w.loop with
  | serving task =>
    rw [loop] at work
    exact work rfl nofun
  | noting failure =>
    rw [loop] at goes
    refine fair.rest rfl idle ⟨fair.sober.fault, ?_⟩ goes
    intro kept terminal
    have terminal : w.session.terminal.or (some failure) = some kept := terminal
    cases first : w.session.terminal with
    | some own =>
      rw [first] at terminal
      cases terminal
      exact fair.sober.terminal kept first
    | none =>
      rw [first] at terminal
      cases terminal
      exact goes failure rfl
  | signalling failure | detaching failure =>
    rw [loop] at goes
    exact fair.rest rfl idle (fair.sober.congr rfl rfl) goes
  | closing failure =>
    rw [loop] at goes
    exact fair.rest rfl (fun n => spares n failure (goes failure rfl))
      (fair.sober.congr (Link.fault_close _) rfl) goes
  | clearing failure =>
    rw [loop] at work goes
    exact work rfl goes
  | failing failure task =>
    dsimp only
    split
    · refine fair.rest ?_ idle ?_ nofun
      · exact congrArg Table.requests (table_announceEnd w.session failure).1
      · unfold announceEnd
        split
        · exact fair.sober
        · exact fair.sober.congr rfl rfl
    · rw [loop] at work goes
      exact work rfl goes
  | lost => exact fair.rest rfl idle fair.sober nofun

theorem Fair.lose (fair : w.Fair p) {failure : Failure} (calm : failure.isInternal = false) :
    (w.step (.lose failure)).Fair p := by
  unfold step
  dsimp only
  split
  · refine fair.rest rfl (fun _ member => absurd member List.not_mem_nil) fair.sober ?_
    rintro own ⟨⟩
    exact Failure.isInternal_classify calm
  · exact fair

theorem Fair.receive (fair : w.Fair p) {a : Arrival}
    (spares : ∀ n failure, failure.isInternal = false → p.mayFail n failure)
    (deals : ∀ target handler otherwise, destination a = .request target handler otherwise →
      p.deals target handler) : (w.step (.receive (destination a))).Fair p := by
  unfold step
  dsimp only
  split
  · refine fair.rest rfl ?_ fair.sober nofun
    show p.Fits w.session.table (destination a).task
    cases goes : destination a with
    | request target handler otherwise => exact deals target handler otherwise goes
    | refusal id failure otherwise =>
      intro n
      refine spares n failure ?_
      cases a with
      | notice notice =>
        simp only [destination, noticeDestination] at goes
        split at goes
        · cases goes
        · split at goes <;> cases goes
          rfl
      | _ => cases goes
    | event _ | nobody => exact fun _ member => absurd member List.not_mem_nil
  · exact fair

theorem Fair.link (fair : w.Fair p) {link : Link}
    (fault : ∀ failure, link.fault = some failure →
      w.session.link.fault = some failure ∨ failure.ofConnection = true) :
    (w.step (.transport fun _ => link)).Fair p := by
  refine fair.rest rfl fair.fits ⟨?_, fair.sober.terminal⟩ fair.loop
  intro failure raised
  exact (fault failure raised).elim (fair.sober.fault failure)
    Failure.not_isInternal_of_ofConnection

theorem Fair.aside (fair : w.Fair p) {session : Session} (aside : Crowd.Aside w.session session) :
    Fair p { w with session } :=
  fair.rest aside.requests fair.fits
    (fair.sober.congr (congrArg Link.fault aside.link) aside.terminal) fair.loop

theorem Fair.ask (fair : w.Fair p) {key : Key} {slot : Slot} {streaming : Bool} {frame : Bytes}
    {withdrawal : Option Bytes}
    (there : p.brief? w.session.table.requests.length = some ⟨slot.kind, streaming⟩) :
    (w.step (.ask key slot streaming frame withdrawal)).Fair p := by
  refine ⟨fair.holds.create there, fair.fits.ebb (Terms.ebbs_create _ _), fair.sober.congr rfl rfl,
    fair.loop, ?_⟩
  intro n c failure found fails
  rcases getElem?_append_singleton_cases found with before | ⟨_, rfl⟩
  · exact fair.callers n c failure before fails
  · cases fails

end Fair

end Race

end MarketLink.Session
