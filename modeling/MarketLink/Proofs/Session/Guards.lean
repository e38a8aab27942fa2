import MarketLink.Proofs.Gate
import MarketLink.Proofs.Session.Hall

set_option autoImplicit false

namespace MarketLink.Session

open Correlation Wire

/-- Gate and signal are as they were, and an ended loop stays ended. -/
structure Calm (w after : Crowd) : Prop where
  gate : after.race.session.gate = w.race.session.gate
  shutdown : after.race.session.shutdown = w.race.session.shutdown
  lost : w.race.loop = .lost → after.race.loop = .lost

theorem calm_act (w : Crowd) {move : Race.Move} (other : move ≠ .close) :
    Calm w (w.step (.act move)) := by
  obtain ⟨_, gate, shutdown⟩ := Race.flags_step (w := w.race) other
  exact ⟨gate, shutdown, fun lost => Crowd.lost_step lost (.act move)⟩

theorem calm_draw (w : Crowd) (question : Question) : Calm w (w.step (.draw question)) := by
  refine ⟨?_, ?_, fun lost => lost⟩ <;>
    · unfold Crowd.step Crowd.aside keyFor
      dsimp only
      split <;> rfl

namespace Hall

variable {h after : Hall}

/-- What a caller that is there, the loop or the link does of itself. Only a call that is minded
gives up. -/
structure Inner (h : Hall) (act : Race.Move) : Prop where
  open' : act ≠ .close
  nobody : ∀ key slot streaming frame withdrawal, act ≠ .ask key slot streaming frame withdrawal
  giving : ∀ n, act = .giveUp n → ∃ visit ∈ h.visits, visit.minds n = true

theorem minds_of_call? {v n : Nat} (call : h.call? v = some n) :
    ∃ visit ∈ h.visits, visit.minds n = true := by
  unfold call? at call
  split at call
  · rename_i m found
    cases call
    exact ⟨_, List.mem_of_getElem? found, beq_self_eq_true n⟩
  · cases call

/-- The move is neither a request that comes, nor a caller that gives up, nor the beginning of the
end. -/
def isPlain : Race.Move → Bool
  | .turn _ | .receive _ | .proceed | .lose _ | .transport _ => true
  | .ask _ _ _ _ _ | .giveUp _ | .close => false

theorem inner_of_isPlain {act : Race.Move} (plain : isPlain act = true) : h.Inner act := by
  refine ⟨?_, ?_, ?_⟩
  · rintro rfl
    cases plain
  · rintro _ _ _ _ _ rfl
    cases plain
  · rintro _ rfl
    cases plain

theorem inner_giveUp {v n : Nat} (call : h.call? v = some n) : h.Inner (.giveUp n) := by
  refine ⟨nofun, nofun, ?_⟩
  intro m same
  cases same
  exact minds_of_call? call

theorem holds_step (holds : Hall → Prop) (stays : holds h)
    (acts : ∀ act, h.Inner act → holds (h.act act))
    (attends : ∀ v visit, h.visits[v]? = some visit → holds (h.attend v visit))
    (carries : ∀ c closer, h.closers[c]? = some closer → holds (h.carryOn c closer))
    (comes : ∀ purpose, holds { h with visits := h.visits ++ [.outside purpose] })
    (arrives : holds { h with closers := h.closers ++ [.flagging] })
    (draws : ∀ question, holds { h with crowd := h.crowd.step (.draw question) }) (move : Move) :
    holds (h.step move) := by
  cases move with
  | attend v =>
    simp only [step]
    split
    · rename_i visit there
      exact attends v visit there
    · exact stays
  | turn n => exact acts _ (inner_of_isPlain rfl)
  | look v branch =>
    simp only [step]
    split
    · rename_i n call
      split
      · exact acts _ (inner_giveUp call)
      · exact stays
    · exact stays
  | heed =>
    simp only [step]
    split
    · exact acts _ (inner_of_isPlain rfl)
    · exact stays
  | proceed | receive _ | lose _ | transport _ => exact acts _ (inner_of_isPlain rfl)
  | carryOn c =>
    simp only [step]
    split
    · rename_i closer there
      exact carries c closer there
    · exact stays
  | visit purpose => exact comes purpose
  | arrive => exact arrives
  | giveUp v =>
    simp only [step]
    split
    · rename_i n call
      exact acts _ (inner_giveUp call)
    · exact stays
  | draw question => exact draws question

/-- Every caller that is not at rest is minded by a visit, and every visit that minds a request
finds its caller. -/
structure Minded (h : Hall) : Prop where
  crowd : h.crowd.Sound
  minded : ∀ n c, h.caller? n = some c → c.isAtRest = false →
    ∃ visit ∈ h.visits, visit.minds n = true
  there : ∀ n, (∃ visit ∈ h.visits, visit.minds n = true) → n < h.crowd.race.callers.length

theorem turn_of_isAtRest {c : Caller} (resting : c.isAtRest = true) (s : Session) (n : Nat) :
    c.turn s n = (s, c.stance) := by
  unfold Caller.isAtRest at resting
  unfold Caller.turn
  cases stance : c.stance with
  | refused | waiting | gone => rfl
  | fresh | registered | leaving _ _ | ending _ _ | telling _ =>
    rw [stance] at resting
    cases resting

/-- Callers move by steps of their own, or give up while they are minded; nobody comes. -/
theorem Minded.act (minded : h.Minded) {move : Race.Move} (inner : h.Inner move) :
    (h.act move).Minded := by
  have long : (h.act move).crowd.race.callers.length = h.crowd.race.callers.length := by
    show (h.crowd.race.step move).callers.length = _
    cases move with
    | turn n | giveUp n =>
      unfold Race.step
      dsimp only
      split
      · exact List.length_set
      · rfl
    | receive _ | lose _ =>
      unfold Race.step
      dsimp only
      split <;> rfl
    | ask key slot streaming frame withdrawal =>
      exact absurd rfl (inner.nobody key slot streaming frame withdrawal)
    | proceed | transport _ | close => rfl
  refine ⟨minded.crowd.step (.act move), ?_, fun n minds => long ▸ minded.there n minds⟩
  intro n c there busy
  have inside : n < h.crowd.race.callers.length := long ▸ (List.getElem?_eq_some_iff.mp there).1
  have before : h.crowd.race.callers[n]? = some h.crowd.race.callers[n] :=
    List.getElem?_eq_getElem inside
  rcases Race.callers_step_cases before move with same | ⟨_, same⟩ | ⟨gives, _⟩
  · exact minded.minded n _ (same.symm.trans there ▸ before) busy
  · refine minded.minded n _ before ?_
    cases resting : h.crowd.race.callers[n].isAtRest with
    | false => rfl
    | true =>
      cases same.symm.trans there
      rw [turn_of_isAtRest resting] at busy
      exact absurd resting (Bool.eq_false_iff.mp busy)
  · exact inner.giving n gives

theorem Minded.mark (minded : h.Minded) {session : Session}
    (aside : Crowd.Aside h.session session) :
    (h.mark session).Minded :=
  ⟨⟨aside.sound minded.crowd.race, aside.counting minded.crowd.counting, minded.crowd.past⟩,
    minded.minded, minded.there⟩

/-- A visit goes on, and minds what it minded unless the caller is at rest. -/
theorem Minded.go (minded : h.Minded) {v : Nat} {visit next : Visit}
    (there : h.visits[v]? = some visit) (on : ∀ n c, visit.minds n = true → h.caller? n = some c →
      c.isAtRest = false →
      next.minds n = true)
    (known : ∀ n, next.minds n = true → n < h.crowd.race.callers.length) :
    (h.go v next).Minded := by
  refine ⟨minded.crowd, ?_, ?_⟩
  · intro n c found busy
    exact exists_mem_set there (minded.minded n c found busy)
      fun minds => on n c minds found busy
  · rintro n ⟨other, member, minds⟩
    rcases List.mem_or_eq_of_mem_set member with old | rfl
    · exact minded.there n ⟨other, old, minds⟩
    · exact known n minds

/-- A visit that minds nothing before and behind. -/
theorem Minded.go_of_idle (minded : h.Minded) {v : Nat} {visit next : Visit}
    (there : h.visits[v]? = some visit) (idle : ∀ n, visit.minds n = false)
    (free : ∀ n, next.minds n = false) : (h.go v next).Minded :=
  minded.go there (fun n _ minds => by rw [idle n] at minds; cases minds)
    fun n minds => by rw [free n] at minds; cases minds

theorem Minded.ask (minded : h.Minded) {v : Nat} {purpose : Purpose}
    (there : h.visits[v]? = some (.inside purpose)) (key : Key) (slot : Slot) (streaming : Bool)
    (frame : Bytes) (withdrawal : Option Bytes) :
    ((h.act (.ask key slot streaming frame withdrawal)).go v
      (.minding h.crowd.race.callers.length streaming)).Minded := by
  have inside := (List.getElem?_eq_some_iff.mp there).1
  have long : ((h.act (.ask key slot streaming frame withdrawal)).go v
      (.minding h.crowd.race.callers.length streaming)).crowd.race.callers.length =
        h.crowd.race.callers.length + 1 := List.length_append
  refine ⟨minded.crowd.step (.act (.ask key slot streaming frame withdrawal)), ?_, ?_⟩
  · intro n c found busy
    have found : (h.crowd.race.callers ++ [_])[n]? = some c := found
    by_cases old : n < h.crowd.race.callers.length
    · rw [List.getElem?_append_left old] at found
      exact exists_mem_set there (minded.minded n c found busy) nofun
    · have last : n = h.crowd.race.callers.length := by
        have within := (List.getElem?_eq_some_iff.mp found).1
        rw [List.length_append] at within
        have one : n < h.crowd.race.callers.length + 1 := within
        omega
      subst last
      exact ⟨_, List.mem_set inside _, beq_self_eq_true _⟩
  · rintro n ⟨other, member, minds⟩
    rw [long]
    rcases List.mem_or_eq_of_mem_set member with old | rfl
    · exact Nat.lt_succ_of_lt (minded.there n ⟨other, old, minds⟩)
    · cases eq_of_beq minds
      exact Nat.lt_succ_self _

/-- Whatever a visit does next, everybody who is under way is minded. -/
theorem Minded.attend (minded : h.Minded) {v : Nat} {visit : Visit}
    (there : h.visits[v]? = some visit) : (h.attend v visit).Minded := by
  cases visit with
  | outside purpose =>
    simp only [Hall.attend]
    split
    · rename_i session entered
      exact (minded.mark (aside_of_enter entered)).go_of_idle there (fun _ => rfl) fun _ => rfl
    · exact minded.go_of_idle there (fun _ => rfl) fun _ => rfl
  | inside purpose =>
    cases purpose with
    | request key slot streaming frame withdrawal =>
      simp only [Hall.attend]
      split
      · exact minded.ask there key slot streaming _ withdrawal
      · exact minded.go_of_idle there (fun _ => rfl) fun _ => rfl
    | notice frame =>
      simp only [Hall.attend]
      split
      · rename_i frame
        have sent : (h.act (.transport fun _ => (h.session.send frame).1.link)).Minded :=
          minded.act (inner_of_isPlain rfl)
        exact sent.go_of_idle there (fun _ => rfl) fun _ => rfl
      · exact minded.go_of_idle there (fun _ => rfl) fun _ => rfl
  | minding n streaming =>
    simp only [Hall.attend]
    split
    · rename_i c found
      split
      · rename_i through
        refine minded.go there ?_ fun _ minds => by cases minds
        intro m other minds also busy
        cases eq_of_beq minds
        cases found.symm.trans also
        unfold Caller.isThrough at through
        unfold Caller.isAtRest at busy
        cases stance : c.stance <;> rw [stance] at through busy <;> simp at through busy
      · exact minded
    · exact minded
  | leaving =>
    refine (minded.mark (Crowd.aside_leave h.session)).go_of_idle there (fun _ => rfl) fun _ => ?_
    split <;> rfl
  | notifying =>
    have left : (h.go v .gone).Minded := minded.go_of_idle there (fun _ => rfl) fun _ => rfl
    obtain ⟨crowd, busy, known⟩ := left
    exact ⟨crowd, busy, known⟩
  | turnedAway | gone => exact minded

theorem aside_flags (s : Session) (closing shutdown : Bool) (gate : Gate) :
    Crowd.Aside s { s with closing, gate, shutdown } :=
  ⟨rfl, rfl, rfl, rfl, rfl, rfl, rfl, rfl, fun counting => counting⟩

theorem Minded.carryOn (minded : h.Minded) (c : Nat) (closer : Closer) :
    (h.carryOn c closer).Minded := by
  have marked : ∀ session, Crowd.Aside h.session session → ∀ next,
      ((h.mark session).put c next).Minded := by
    intro session aside next
    obtain ⟨crowd, busy, known⟩ := minded.mark aside
    exact ⟨crowd, busy, known⟩
  have put : ∀ next keeper, Minded { h.put c next with keeper } := fun _ _ =>
    ⟨minded.crowd, minded.minded, minded.there⟩
  cases closer with
  | flagging | shutting | signalling => exact marked _ (aside_flags ..) _
  | waiting waiter => cases waiter <;> exact put _ h.keeper
  | queueing =>
    simp only [Hall.carryOn]
    split
    · exact put _ _
    · exact minded
  | joining =>
    simp only [Hall.carryOn]
    split
    · exact put _ _
    · exact minded
  | returned => exact minded

theorem Minded.step (minded : h.Minded) (move : Move) : (h.step move).Minded := by
  refine holds_step Minded minded (fun _ inner => minded.act inner)
    (fun _ _ there => minded.attend there)
    (fun c closer _ => minded.carryOn c closer) ?_ ?_ ?_ move
  · intro purpose
    refine ⟨minded.crowd, ?_, ?_⟩
    · intro n c there busy
      obtain ⟨other, member, minds⟩ := minded.minded n c there busy
      exact ⟨other, List.mem_append_left _ member, minds⟩
    · rintro n ⟨other, member, minds⟩
      rcases List.mem_append.mp member with old | fresh
      · exact minded.there n ⟨other, old, minds⟩
      · cases List.mem_singleton.mp fresh
        cases minds
  · exact ⟨minded.crowd, minded.minded, minded.there⟩
  · intro question
    exact ⟨minded.crowd.step (.draw question), minded.minded, minded.there⟩

/-- A closer has made sure of what it is past. If it is parked it will be noticed. -/
structure Assured (h : Hall) (closer : Closer) : Prop where
  shut : closer.isShut = true → h.session.gate.closing = true
  signalled : closer.isSignalled = true → h.session.shutdown = true
  drained : closer.isDrained = true → h.session.gate.active = 0
  joined : closer = .returned → h.crowd.race.loop = .lost
  heard : closer = .waiting (.parked false) →
    0 < h.session.gate.active ∨ ∃ visit ∈ h.visits, visit = .notifying

/-- The gate counts the guards, and all closers have made sure of what they are past. -/
structure Guarded (h : Hall) : Prop where
  guards : h.session.gate.active = h.visits.countP Visit.hasGuard
  assured : ∀ closer ∈ h.closers, h.Assured closer

/-- What changes neither the gate nor the signal, and does not revive the loop. -/
theorem Guarded.calm (guarded : h.Guarded) {crowd : Crowd} (calm : Calm h.crowd crowd) :
    Guarded { h with crowd } := by
  obtain ⟨gate, shutdown, lost⟩ := calm
  have gate : (Hall.session { h with crowd }).gate = h.session.gate := gate
  have shutdown : (Hall.session { h with crowd }).shutdown = h.session.shutdown := shutdown
  refine ⟨(congrArg Gate.active gate).trans guarded.guards, ?_⟩
  intro closer member
  obtain ⟨shut, signalled, drained, joined, heard⟩ := guarded.assured closer member
  constructor
  · rw [gate]
    exact shut
  · rw [shutdown]
    exact signalled
  · rw [gate]
    exact drained
  · exact fun returned => lost (joined returned)
  · rw [gate]
    exact heard

theorem Guarded.act (guarded : h.Guarded) {move : Race.Move} (other : move ≠ .close) :
    (h.act move).Guarded :=
  guarded.calm (calm_act h.crowd other)

theorem Guarded.ask (guarded : h.Guarded) (key : Key) (slot : Slot) (streaming : Bool)
    (frame : Bytes) (withdrawal : Option Bytes) :
    (h.act (.ask key slot streaming frame withdrawal)).Guarded :=
  guarded.act nofun

theorem Guarded.transport (guarded : h.Guarded) (change : Link → Link) :
    (h.act (.transport change)).Guarded :=
  guarded.act nofun

theorem Guarded.go (guarded : h.Guarded) {v : Nat} {visit next : Visit}
    (there : h.visits[v]? = some visit) (same : next.hasGuard = visit.hasGuard)
    (told : visit ≠ .notifying) : (h.go v next).Guarded := by
  have counted := countP_set_add Visit.hasGuard there next
  rw [same] at counted
  refine ⟨guarded.guards.trans (Nat.add_right_cancel counted).symm, ?_⟩
  intro closer member
  obtain ⟨shut, signalled, drained, joined, heard⟩ := guarded.assured closer member
  refine ⟨shut, signalled, drained, joined, fun parked => (heard parked).imp_right ?_⟩
  exact fun somebody => exists_mem_set there somebody fun notifying => absurd notifying told

theorem Guarded.enter (guarded : h.Guarded) {v : Nat} {purpose : Purpose}
    (there : h.visits[v]? = some (.outside purpose)) {session : Session}
    (entered : h.session.enter = some session) :
    ((h.mark session).go v (.inside purpose)).Guarded := by
  have opened : h.session.gate.closing = false ∧
      session = { h.session with
        gate := { h.session.gate with active := h.session.gate.active + 1 } } := by
    unfold Session.enter Gate.acquire at entered
    by_cases closing : h.session.gate.closing = true
    · rw [if_pos closing] at entered
      cases entered
    · rw [if_neg closing] at entered
      exact ⟨Bool.eq_false_iff.mpr closing, (Option.some.inj entered).symm⟩
  obtain ⟨opened, rfl⟩ := opened
  refine ⟨?_, ?_⟩
  · have counted := countP_set_add Visit.hasGuard there (.inside purpose)
    show h.session.gate.active + 1 = (h.visits.set v (.inside purpose)).countP Visit.hasGuard
    rw [guarded.guards]
    exact counted.symm
  · intro closer member
    obtain ⟨shut, signalled, _, joined, _⟩ := guarded.assured closer member
    have early : closer.isShut = false := by
      cases is : closer.isShut with
      | false => rfl
      | true =>
        rw [shut is] at opened
        cases opened
    refine ⟨shut, signalled, ?_, joined, fun _ => Or.inl (Nat.succ_pos _)⟩
    intro drained
    cases closer with
    | flagging | shutting | signalling => cases drained
    | waiting _ | queueing | joining | returned => cases early

/-- A visit gives its guard back. If it was the last one and somebody waits, they are about to be
told. -/
theorem Guarded.leave (guarded : h.Guarded) {v : Nat} (there : h.visits[v]? = some .leaving) :
    ((h.mark h.session.leave).go v
      (if h.session.gate.release.2 then .notifying else .gone)).Guarded := by
  have idle : Visit.hasGuard (if h.session.gate.release.2 then .notifying else .gone) = false := by
    split <;> rfl
  have counted :=
    countP_set_add Visit.hasGuard there (if h.session.gate.release.2 then .notifying else .gone)
  rw [idle] at counted
  have counted : (h.visits.set v _).countP Visit.hasGuard + 1 = h.visits.countP Visit.hasGuard :=
    counted
  have active := guarded.guards
  refine ⟨?_, ?_⟩
  · show h.session.gate.active - 1 = _
    rw [active, ← counted]
    rfl
  · intro closer member
    obtain ⟨shut, signalled, drained, joined, _⟩ := guarded.assured closer member
    refine ⟨shut, signalled, ?_, joined, ?_⟩
    · intro is
      have none := drained is
      omega
    · intro parked
      have closing := shut (by rw [parked]; rfl)
      by_cases last : h.session.gate.active - 1 = 0
      · refine Or.inr ⟨.notifying, ?_, rfl⟩
        have drained : h.session.gate.release.2 = true := by
          unfold Gate.release
          dsimp only
          rw [closing, last]
          rfl
        have inside := (List.getElem?_eq_some_iff.mp there).1
        show Visit.notifying ∈
          h.visits.set v (if h.session.gate.release.2 then .notifying else .gone)
        rw [drained]
        exact List.mem_set inside _
      · exact Or.inl (Nat.pos_of_ne_zero last)

/-- A visit tells those who wait, and none of them is parked unnoticed then. -/
theorem Guarded.notify (guarded : h.Guarded) {v : Nat} (there : h.visits[v]? = some .notifying) :
    Guarded { h.go v .gone with closers := h.closers.map Closer.notice } := by
  refine ⟨guarded.guards.trans (countP_set_add Visit.hasGuard there .gone).symm, ?_⟩
  intro closer member
  obtain ⟨before, was, rfl⟩ := List.mem_map.mp member
  obtain ⟨shut, signalled, drained, joined, _⟩ := guarded.assured before was
  cases before with
  | waiting waiter =>
    refine ⟨shut, signalled, ?_, nofun, ?_⟩
    · cases waiter <;> exact drained
    · cases waiter <;> exact nofun
  | flagging | shutting | signalling | queueing | joining | returned =>
    exact ⟨shut, signalled, drained, joined, nofun⟩

theorem Guarded.attend (guarded : h.Guarded) {v : Nat} {visit : Visit}
    (there : h.visits[v]? = some visit) : (h.attend v visit).Guarded := by
  cases visit with
  | outside purpose =>
    simp only [Hall.attend]
    split
    · rename_i session entered
      exact guarded.enter there entered
    · exact guarded.go there rfl (by simp)
  | inside purpose =>
    cases purpose with
    | request key slot streaming frame withdrawal =>
      simp only [Hall.attend]
      split
      · rename_i frame
        have asked := guarded.ask key slot streaming frame withdrawal
        exact asked.go there rfl (by simp)
      · exact guarded.go there rfl (by simp)
    | notice frame =>
      simp only [Hall.attend]
      split
      · rename_i frame
        have sent := guarded.transport fun _ => (h.session.send frame).1.link
        exact sent.go there rfl (by simp)
      · exact guarded.go there rfl (by simp)
  | minding n streaming =>
    simp only [Hall.attend]
    split
    · split
      · exact guarded.go there rfl (by simp)
      · exact guarded
    · exact guarded
  | leaving => exact guarded.leave there
  | notifying => exact guarded.notify there
  | turnedAway | gone => exact guarded

theorem Guarded.put (guarded : h.Guarded) {c : Nat} {next : Closer} (keeper : Option Nat)
    (assured : h.Assured next) : Guarded { h.put c next with keeper } := by
  refine ⟨guarded.guards, ?_⟩
  intro closer member
  have known : h.Assured closer := by
    rcases List.mem_or_eq_of_mem_set member with old | rfl
    · exact guarded.assured closer old
    · exact assured
  exact ⟨known.shut, known.signalled, known.drained, known.joined, known.heard⟩

theorem put_same {c : Nat} {closer : Closer} (there : h.closers[c]? = some closer) :
    h.put c closer = h := by
  obtain ⟨inside, rfl⟩ := List.getElem?_eq_some_iff.mp there
  show ({ h with closers := h.closers.set c h.closers[c] } : Hall) = h
  rw [List.set_getElem_self]

theorem Guarded.carryOn (guarded : h.Guarded) {c : Nat} {closer : Closer}
    (there : h.closers[c]? = some closer) : (h.carryOn c closer).Guarded := by
  obtain ⟨shut, signalled, drained, _, _⟩ := guarded.assured closer (List.mem_of_getElem? there)
  cases closer with
  | flagging =>
    have marked : (h.mark { h.session with closing := true }).Guarded :=
      guarded.calm ⟨rfl, rfl, fun lost => lost⟩
    exact marked.put h.keeper ⟨nofun, nofun, nofun, nofun, nofun⟩
  | shutting =>
    have marked : (h.mark { h.session with gate := h.session.gate.beginClose.1 }).Guarded :=
      ⟨guarded.guards, fun closer member =>
        { guarded.assured closer member with shut := fun _ => rfl }⟩
    exact marked.put h.keeper ⟨fun _ => rfl, nofun, nofun, nofun, nofun⟩
  | signalling =>
    have marked : (h.mark { h.session with shutdown := true }).Guarded :=
      ⟨guarded.guards, fun closer member =>
        { guarded.assured closer member with signalled := fun _ => rfl }⟩
    exact marked.put h.keeper ⟨fun _ => shut rfl, fun _ => rfl, nofun, nofun, nofun⟩
  | waiting waiter =>
    have past : ∀ next : Waiter, (next = .returned → h.session.gate.active = 0) →
        (next = .parked false → 0 < h.session.gate.active) → h.Assured (.waiting next) := by
      intro next drained parked
      refine ⟨fun _ => shut rfl, fun _ => signalled rfl, fun is => drained (eq_of_beq is),
        nofun, ?_⟩
      rintro ⟨⟩
      exact Or.inl (parked rfl)
    cases waiter with
    | returned =>
      exact guarded.put h.keeper
        ⟨fun _ => shut rfl, fun _ => signalled rfl, fun _ => drained rfl, nofun, nofun⟩
    | starting => exact guarded.put h.keeper (past (.enlisted false) nofun nofun)
    | enlisted noticed =>
      show Guarded (h.put c
        (.waiting (if h.session.gate.active = 0 then .returned else .parked noticed)))
      by_cases none : h.session.gate.active = 0
      · rw [if_pos none]
        exact guarded.put h.keeper (past .returned (fun _ => none) nofun)
      · rw [if_neg none]
        exact guarded.put h.keeper (past (.parked noticed) nofun fun _ => Nat.pos_of_ne_zero none)
    | parked noticed =>
      cases noticed with
      | true => exact guarded.put h.keeper (past .starting nofun nofun)
      | false =>
        have stays : h.carryOn c (.waiting (.parked false)) = h := put_same there
        rw [stays]
        exact guarded
  | queueing =>
    simp only [Hall.carryOn]
    split
    · exact guarded.put _
        ⟨fun _ => shut rfl, fun _ => signalled rfl, fun _ => drained rfl, nofun, nofun⟩
    · exact guarded
  | joining =>
    simp only [Hall.carryOn]
    split
    · rename_i lost
      exact guarded.put _
        ⟨fun _ => shut rfl, fun _ => signalled rfl, fun _ => drained rfl, fun _ => lost, nofun⟩
    · exact guarded
  | returned => exact guarded

theorem Guarded.step (guarded : h.Guarded) (move : Move) : (h.step move).Guarded := by
  refine holds_step Guarded guarded (fun _ inner => guarded.act inner.open')
    (fun _ _ there => guarded.attend there) (fun _ _ there => guarded.carryOn there) ?_ ?_ ?_ move
  · intro purpose
    refine ⟨?_, ?_⟩
    · show h.session.gate.active = (h.visits ++ [Visit.outside purpose]).countP Visit.hasGuard
      rw [List.countP_append]
      exact guarded.guards
    · intro closer member
      obtain ⟨shut, signalled, drained, joined, heard⟩ := guarded.assured closer member
      refine ⟨shut, signalled, drained, joined, fun parked => (heard parked).imp_right ?_⟩
      rintro ⟨other, notifying, same⟩
      exact ⟨other, List.mem_append_left _ notifying, same⟩
  · refine ⟨guarded.guards, ?_⟩
    intro closer member
    have known : h.Assured closer := by
      rcases List.mem_append.mp member with old | fresh
      · exact guarded.assured closer old
      · cases List.mem_singleton.mp fresh
        exact ⟨nofun, nofun, nofun, nofun, nofun⟩
    exact ⟨known.shut, known.signalled, known.drained, known.joined, known.heard⟩
  · exact fun question => guarded.calm (calm_draw h.crowd question)

def Locked (h : Hall) : Prop := ∀ c, h.keeper = some c ↔ h.closers[c]? = some .joining

theorem Locked.put (locked : h.Locked) {c : Nat} {closer next : Closer}
    (there : h.closers[c]? = some closer) (before : closer ≠ .joining) (after : next ≠ .joining) :
    (h.put c next).Locked := by
  intro d
  show h.keeper = some d ↔ (h.closers.set c next)[d]? = some .joining
  rw [locked d, List.getElem?_set]
  by_cases same : c = d
  · subst same
    have inside := (List.getElem?_eq_some_iff.mp there).1
    simp only [there, ↓reduceIte, inside, Option.some.injEq, before, after]
  · rw [if_neg same]

theorem Locked.carryOn (locked : h.Locked) {c : Nat} {closer : Closer}
    (there : h.closers[c]? = some closer) : (h.carryOn c closer).Locked := by
  have inside := (List.getElem?_eq_some_iff.mp there).1
  cases closer with
  | flagging | shutting | signalling => exact locked.put there nofun nofun
  | waiting waiter => cases waiter <;> exact locked.put there nofun nofun
  | queueing =>
    simp only [Hall.carryOn]
    split
    · rename_i free
      intro d
      show some c = some d ↔ (h.closers.set c .joining)[d]? = some .joining
      rw [List.getElem?_set]
      by_cases same : c = d
      · subst same
        simp only [↓reduceIte, inside]
      · rw [if_neg same, ← locked d, free]
        simp only [Option.some.injEq, same, reduceCtorEq]
    · exact locked
  | joining =>
    simp only [Hall.carryOn]
    split
    · intro d
      show none = some d ↔ (h.closers.set c .returned)[d]? = some .joining
      rw [List.getElem?_set]
      by_cases same : c = d
      · subst same
        simp only [reduceCtorEq, ↓reduceIte, inside, Option.some.injEq]
      · have kept := (locked c).mpr there
        rw [if_neg same, ← locked d, kept]
        simp only [reduceCtorEq, Option.some.injEq, same]
    · exact locked
  | returned => exact locked

theorem Locked.attend (locked : h.Locked) (v : Nat) (visit : Visit) :
    (h.attend v visit).Locked := by
  cases visit with
  | outside purpose =>
    simp only [Hall.attend]
    split <;> exact locked
  | inside purpose =>
    cases purpose with
    | request key slot streaming frame withdrawal =>
      simp only [Hall.attend]
      split <;> exact locked
    | notice frame =>
      simp only [Hall.attend]
      split <;> exact locked
  | minding n streaming =>
    simp only [Hall.attend]
    split
    · split <;> exact locked
    · exact locked
  | notifying =>
    intro c
    show h.keeper = some c ↔ (h.closers.map Closer.notice)[c]? = some .joining
    rw [locked c, List.getElem?_map]
    cases h.closers[c]? with
    | none => exact Iff.rfl
    | some closer => cases closer <;> simp [Closer.notice]
  | turnedAway | leaving | gone => exact locked

theorem Locked.step (locked : h.Locked) (move : Move) : (h.step move).Locked := by
  refine holds_step Locked locked (fun _ _ => locked) (fun v visit _ => locked.attend v visit)
    (fun _ _ there => locked.carryOn there) (fun _ => locked) ?_ (fun _ => locked) move
  intro c
  show h.keeper = some c ↔ (h.closers ++ [.flagging])[c]? = some .joining
  rw [locked c, List.getElem?_append]
  split
  · exact Iff.rfl
  · rename_i outside
    rw [List.getElem?_eq_none (Nat.le_of_not_lt outside)]
    cases c - h.closers.length <;> simp

/-- What holds between any two moves. -/
structure Sound (h : Hall) : Prop where
  minded : h.Minded
  guarded : h.Guarded
  locked : h.Locked

theorem Sound.step (sound : h.Sound) (move : Move) : (h.step move).Sound :=
  ⟨sound.minded.step move, sound.guarded.step move, sound.locked.step move⟩

theorem Sound.run (sound : h.Sound) (moves : List Move) : (h.run moves).Sound := by
  induction moves generalizing h with
  | nil => exact sound
  | cons move rest ih => exact ih (sound.step move)

theorem sound_opened {s : Session} (free : s.gate.active = 0) (firstId : Int) :
    (opened s firstId).Sound := by
  refine ⟨⟨⟨Race.sound_opened s firstId, Int.le_max_right firstId 1, nofun⟩, nofun, ?_⟩,
    ⟨free, nofun⟩, ?_⟩
  · rintro n ⟨_, member, _⟩
    cases member
  · intro c
    show none = some c ↔ ([] : List Closer)[c]? = some .joining
    simp

end Hall

end MarketLink.Session
