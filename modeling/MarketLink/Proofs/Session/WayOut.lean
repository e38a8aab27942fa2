import Mathlib
import MarketLink.Proofs.Session.Guards

set_option autoImplicit false

namespace MarketLink.Session

open Correlation Wire

theorem sum_map_set {α : Type} (f : α → Nat) {xs : List α} {i : Nat} {x : α}
    (there : xs[i]? = some x) (next : α) :
    ((xs.set i next).map f).sum + f x = (xs.map f).sum + f next := by
  induction xs generalizing i with
  | nil => cases there
  | cons y rest ih =>
    cases i with
    | zero =>
      cases there
      simp only [List.set_cons_zero, List.map_cons, List.sum_cons]
      omega
    | succ i =>
      have later := ih there
      simp only [List.set_cons_succ, List.map_cons, List.sum_cons]
      omega

theorem enter_of_closing {s : Session} (shut : s.gate.closing = true) : s.enter = none := by
  rcases s.enter_cases with ⟨_, closed⟩ | ⟨admitting, _⟩
  · exact closed
  · rw [shut] at admitting
    cases admitting

namespace Visit

def isOver : Visit → Bool
  | .turnedAway | .gone => true
  | .outside _ | .inside _ | .minding _ _ | .leaving | .notifying => false

/-- How many steps a visit has before it at most when the gate is closed, its request counted in as
long as it has not come in with it. -/
def toGo : Visit → Nat
  | .inside _ => 10
  | .minding _ _ => 3
  | .leaving => 2
  | .outside _ | .notifying => 1
  | .turnedAway | .gone => 0

end Visit

/-- How many steps a caller has before it at most when waiting has an end. -/
def Stance.toGo : Stance → Nat
  | .fresh => 6
  | .registered => 5
  | .waiting => 4
  | .leaving _ _ => 3
  | .ending _ _ => 2
  | .telling _ => 1
  | .refused | .gone => 0

/-- How many steps a closer has before it at most when nobody is inside and the loop has ended. -/
def Closer.toGo : Closer → Nat
  | .flagging => 8
  | .shutting => 7
  | .signalling | .waiting (.parked _) => 6
  | .waiting .starting => 5
  | .waiting (.enlisted _) => 4
  | .waiting .returned => 3
  | .queueing => 2
  | .joining => 1
  | .returned => 0

def Closer.phase : Closer → Nat
  | .flagging => 0
  | .shutting => 1
  | .signalling => 2
  | .waiting _ => 3
  | .queueing => 4
  | .joining => 5
  | .returned => 6

theorem Closer.isSignalled_iff (closer : Closer) : closer.isSignalled = true ↔
    3 ≤ closer.phase := by
  cases closer <;> simp [isSignalled, phase]

theorem Closer.eq_returned_iff (closer : Closer) : closer = .returned ↔ 6 ≤ closer.phase := by
  cases closer <;> simp [phase]

theorem Caller.toGo_turn {c : Caller} (busy : c.isAtRest = false) (s : Session) (n : Nat) :
    (c.turn s n).2.toGo < c.stance.toGo := by
  unfold Caller.isAtRest at busy
  unfold Caller.turn
  cases stance : c.stance with
  | refused | waiting | gone =>
    rw [stance] at busy
    cases busy
  | fresh =>
    dsimp only
    rcases s.register n with ⟨_, failure | _⟩
    · exact Nat.succ_pos 5
    · exact Nat.lt_succ_self 5
  | registered =>
    dsimp only
    rcases s.send c.frame with ⟨_, failure | _⟩
    · exact Nat.lt_of_lt_of_le (Nat.lt_succ_self 3) (Nat.le_succ 4)
    · exact Nat.lt_succ_self 4
  | leaving _ _ => exact Nat.lt_succ_self 2
  | ending _ _ => exact Nat.lt_succ_self 1
  | telling _ => exact Nat.lt_succ_self 0

theorem Caller.toGo_giveUp {c : Caller} (waiting : c.stance = .waiting) {t : Table} {n : Nat}
    {r : Request} (found : t.request? n = some r) : (c.giveUp t n).toGo < c.stance.toGo := by
  unfold Caller.giveUp
  rw [waiting, found]
  dsimp only
  split
  · exact Nat.succ_pos 3
  · cases r.key with
    | withoutId _ _ => exact Nat.lt_of_lt_of_le (Nat.lt_succ_self 2) (Nat.le_succ 3)
    | withId _ | ticker _ => exact Nat.lt_succ_self 3

namespace Hall

variable {h : Hall} {goal middle kept : Hall → Prop}

/-- The parties can bring the session there by themselves. -/
def CanReach (h : Hall) (goal : Hall → Prop) : Prop :=
  ∃ more : List Move, (∀ move ∈ more, move.isOwn = true) ∧ goal (h.run more)

theorem CanReach.now (done : goal h) : h.CanReach goal := ⟨[], List.forall_mem_nil _, done⟩

theorem CanReach.step (move : Move) (own : move.isOwn = true)
    (rest : (h.step move).CanReach goal) : h.CanReach goal := by
  obtain ⟨more, owns, done⟩ := rest
  exact ⟨move :: more, List.forall_mem_cons.mpr ⟨own, owns⟩, done⟩

theorem CanReach.bind (first : h.CanReach middle)
    (next : ∀ after : Hall, middle after → after.CanReach goal) : h.CanReach goal := by
  obtain ⟨more, owns, half⟩ := first
  obtain ⟨rest, others, done⟩ := next _ half
  refine ⟨more ++ rest, List.forall_mem_append.mpr ⟨owns, others⟩, ?_⟩
  rw [run_append]
  exact done

theorem CanReach.keeping (reach : h.CanReach goal)
    (lasts : ∀ (h : Hall) (move : Move), kept h → kept (h.step move)) (holds : kept h) :
    h.CanReach fun after => kept after ∧ goal after := by
  obtain ⟨more, owns, done⟩ := reach
  refine ⟨more, owns, ?_, done⟩
  clear owns done
  induction more generalizing h with
  | nil => exact holds
  | cons move rest ih => exact ih (lasts h move holds)

theorem canReach_of_nearer (toGo : Hall → Nat)
    (nearer : ∀ h, kept h → ¬ goal h →
      ∃ move : Move, move.isOwn = true ∧ kept (h.step move) ∧ toGo (h.step move) < toGo h)
    (holds : kept h) : h.CanReach fun after => kept after ∧ goal after := by
  induction far : toGo h using Nat.strongRecOn generalizing h with
  | _ distance ih =>
    by_cases done : goal h
    · exact .now ⟨holds, done⟩
    · obtain ⟨move, own, still, less⟩ := nearer h holds done
      exact .step move own (ih _ (far ▸ less) still rfl)

theorem exists_move_of_canReach (reach : h.CanReach goal) (open' : ¬ goal h) :
    ∃ move : Move, move.isOwn = true ∧ h.step move ≠ h := by
  obtain ⟨more, owns, done⟩ := reach
  induction more with
  | nil => exact absurd done open'
  | cons move rest ih =>
    have own := owns move List.mem_cons_self
    by_cases same : h.step move = h
    · rw [run_cons, same] at done
      exact ih (fun other member => owns other (List.mem_cons_of_mem _ member)) done
    · exact ⟨move, own, same⟩

theorem lost_step (lost : h.crowd.race.loop = .lost) (move : Move) :
    (h.step move).crowd.race.loop = .lost := by
  have acted : ∀ act, (h.act act).crowd.race.loop = .lost := fun act =>
    Crowd.lost_step lost (.act act)
  refine holds_step (fun after => after.crowd.race.loop = .lost) lost (fun act _ => acted act) ?_ ?_
    (fun _ => lost) lost (fun _ => lost) move
  · intro v visit _
    cases visit with
    | outside purpose =>
      simp only [Hall.attend]
      split <;> exact lost
    | inside purpose =>
      cases purpose with
      | request key slot streaming frame withdrawal =>
        simp only [Hall.attend]
        split
        · exact acted _
        · exact lost
      | notice frame =>
        simp only [Hall.attend]
        split <;> exact lost
    | minding n streaming =>
      simp only [Hall.attend]
      split
      · split <;> exact lost
      · exact lost
    | turnedAway | leaving | notifying | gone => exact lost
  · intro c closer _
    cases closer with
    | waiting waiter => cases waiter <;> exact lost
    | queueing | joining =>
      simp only [Hall.carryOn]
      split <;> exact lost
    | flagging | shutting | signalling | returned => exact lost

theorem phase_step {count : Nat} (far : ∃ closer ∈ h.closers, count ≤ closer.phase) (move : Move) :
    ∃ closer ∈ (h.step move).closers, count ≤ closer.phase := by
  refine holds_step (fun after => ∃ closer ∈ after.closers, count ≤ closer.phase) far
    (fun _ _ => far) ?_ ?_ (fun _ => far) ?_ (fun _ => far) move
  · intro v visit _
    cases visit with
    | outside purpose =>
      simp only [Hall.attend]
      split <;> exact far
    | inside purpose => cases purpose <;> simp only [Hall.attend] <;> split <;> exact far
    | minding n streaming =>
      simp only [Hall.attend]
      split
      · split <;> exact far
      · exact far
    | notifying =>
      obtain ⟨closer, member, told⟩ := far
      refine ⟨closer.notice, List.mem_map_of_mem member, ?_⟩
      cases closer <;> exact told
    | turnedAway | leaving | gone => exact far
  · intro c closer there
    cases closer with
    | flagging | shutting | signalling => exact exists_mem_set there far Nat.le_succ_of_le
    | waiting waiter =>
      cases waiter with
      | returned => exact exists_mem_set there far Nat.le_succ_of_le
      | starting | enlisted _ | parked _ => exact exists_mem_set there far id
    | queueing | joining =>
      simp only [Hall.carryOn]
      split
      · exact exists_mem_set there far Nat.le_succ_of_le
      · exact far
    | returned => exact far
  · obtain ⟨closer, member, told⟩ := far
    exact ⟨closer, List.mem_append_left _ member, told⟩

/-- A session that is being closed: one of those who close it has told the loop to stop. -/
structure Closing (h : Hall) : Prop where
  sound : h.Sound
  signalled : ∃ closer ∈ h.closers, 3 ≤ closer.phase

theorem Closing.shut (ends : h.Closing) : h.session.gate.closing = true := by
  obtain ⟨closer, member, signalled⟩ := ends.signalled
  refine (ends.sound.guarded.assured closer member).shut ?_
  cases closer with
  | flagging | shutting | signalling => exact absurd signalled (by decide)
  | waiting _ | queueing | joining | returned => rfl

theorem Closing.shutdown (ends : h.Closing) : h.session.shutdown = true := by
  obtain ⟨closer, member, signalled⟩ := ends.signalled
  exact (ends.sound.guarded.assured closer member).signalled (closer.isSignalled_iff.mpr signalled)

theorem Closing.step (ends : h.Closing) (move : Move) : (h.step move).Closing :=
  ⟨ends.sound.step move, phase_step ends.signalled move⟩

theorem canReach_closing (sound : h.Sound) {c : Nat} {closer : Closer}
    (there : h.closers[c]? = some closer) : h.CanReach Closing := by
  have past : ∀ {h : Hall} (closer : Closer), h.Sound → h.closers[c]? = some closer →
      3 ≤ closer.phase → h.CanReach Closing := fun _ sound there signalled =>
    .now ⟨sound, _, List.mem_of_getElem? there, signalled⟩
  have third : ∀ {h : Hall}, h.Sound → h.closers[c]? = some .signalling → h.CanReach Closing := by
    intro h sound there
    refine .step (.carryOn c) rfl (past (.waiting .starting) (sound.step _) ?_ (Nat.le_refl 3))
    rw [step_carryOn there]
    exact closers_put there _
  have second : ∀ {h : Hall}, h.Sound → h.closers[c]? = some .shutting → h.CanReach Closing := by
    intro h sound there
    refine .step (.carryOn c) rfl (third (sound.step _) ?_)
    rw [step_carryOn there]
    exact closers_put there _
  cases closer with
  | flagging =>
    refine .step (.carryOn c) rfl (second (sound.step _) ?_)
    rw [step_carryOn there]
    exact closers_put there _
  | shutting => exact second sound there
  | signalling => exact third sound there
  | waiting _ => exact past _ sound there (Nat.le_refl 3)
  | queueing | joining | returned => exact past _ sound there (by decide)

theorem canReach_proceed (count : Nat) (done : goal (h.run (List.replicate count .proceed))) :
    h.CanReach goal :=
  ⟨List.replicate count .proceed,
    fun move member => by rw [List.eq_of_mem_replicate member]; rfl, done⟩

theorem canReach_lost_of_begun (begun : ∀ task, h.crowd.race.loop ≠ .serving task) :
    h.CanReach fun after => after.crowd.race.loop = .lost := by
  obtain ⟨count, lost⟩ := h.crowd.race.exists_lost_of_begun begun
  refine canReach_proceed count ?_
  rw [run_replicate fun _ => rfl]
  exact lost

/-- The loop deals with what it has read, finds that it is to stop, and goes through the end of the
connection. -/
theorem canReach_lost (ends : h.Closing) :
    h.CanReach fun after => after.crowd.race.loop = .lost := by
  by_cases serves : ∃ task, h.crowd.race.loop = .serving task
  · obtain ⟨task, serving⟩ := serves
    obtain ⟨count, finished⟩ := Task.exists_proceed_idle h.session.table task
    have idle : h.CanReach fun after =>
        after.crowd.race.loop = .serving .idle ∧ after.session.shutdown = true := by
      refine canReach_proceed count ?_
      rw [run_replicate fun _ => rfl]
      have served := Race.run_proceed_serving count h.crowd.race task serving
      rw [served, finished]
      exact ⟨rfl, ends.shutdown⟩
    refine idle.bind fun after ready => .step .heed rfl (canReach_lost_of_begun ?_)
    obtain ⟨serving, shutdown⟩ := ready
    simp [step, shutdown, act, Crowd.step, Race.step, serving, Task.idle]
  · exact canReach_lost_of_begun fun task serving => serves ⟨task, serving⟩

/-- How many steps the visits and their requests have before them at most. -/
def indoors (h : Hall) : Nat :=
  (h.visits.map Visit.toGo).sum + (h.crowd.race.callers.map fun c => c.stance.toGo).sum

theorem indoors_go {v : Nat} {visit next : Visit} (there : h.visits[v]? = some visit)
    (less : next.toGo < visit.toGo) : (h.go v next).indoors < h.indoors := by
  have changed := sum_map_set Visit.toGo there next
  have nearer : ((h.visits.set v next).map Visit.toGo).sum < (h.visits.map Visit.toGo).sum := by
    omega
  exact Nat.add_lt_add_right nearer _

theorem indoors_act {act : Race.Move} {n : Nat} {c : Caller} {stance : Stance}
    (there : h.caller? n = some c)
    (acts : (h.crowd.race.step act).callers = h.crowd.race.callers.set n { c with stance })
    (less : stance.toGo < c.stance.toGo) : (h.act act).indoors < h.indoors := by
  have changed := sum_map_set (fun c : Caller => c.stance.toGo) there { c with stance }
  unfold indoors
  rw [show (h.act act).crowd.race.callers = _ from acts]
  show (h.visits.map Visit.toGo).sum + _ < _
  dsimp only at changed
  omega

/-- A visit with a guard, or in front of the gate, can go on by itself, or its request can. -/
theorem exists_nearer_of_visit (ends : h.Closing) (lost : h.crowd.race.loop = .lost) {v : Nat}
    {visit : Visit} (there : h.visits[v]? = some visit) (under : visit.isOver = false) :
    ∃ move : Move, move.isOwn = true ∧ (h.step move).indoors < h.indoors := by
  have attends : (h.attend v visit).indoors < h.indoors → ∃ move : Move, move.isOwn = true ∧
      (h.step move).indoors < h.indoors := fun less =>
    ⟨.attend v, rfl, by rw [step_attend there]; exact less⟩
  cases visit with
  | turnedAway | gone => cases under
  | outside purpose =>
    refine attends ?_
    simp only [attend, enter_of_closing ends.shut]
    exact indoors_go there (Nat.succ_pos 0)
  | inside purpose =>
    refine attends ?_
    cases purpose with
    | request key slot streaming frame withdrawal =>
      simp only [attend]
      split
      · rename_i frame
        -- the visit becomes nearer by more than its request is away
        have changed :=
          sum_map_set Visit.toGo there (.minding h.crowd.race.callers.length streaming)
        show ((h.visits.set v (.minding _ streaming)).map Visit.toGo).sum +
          ((h.crowd.race.callers ++ [({ frame, withdrawal } : Caller)]).map
            fun c : Caller => c.stance.toGo).sum < _
        rw [List.map_append, List.sum_append]
        unfold indoors
        simp only [Visit.toGo, List.map_cons, List.map_nil, List.sum_cons, List.sum_nil,
          Stance.toGo] at changed ⊢
        omega
      · exact indoors_go there (show 2 < 10 by decide)
    | notice frame =>
      simp only [attend]
      split
      · rename_i frame
        have sent : (h.act (.transport fun _ => (h.session.send frame).1.link)).visits[v]? = _ :=
          there
        exact indoors_go sent (show 2 < 10 by decide)
      · exact indoors_go there (show 2 < 10 by decide)
  | minding n streaming =>
    have inside : n < h.crowd.race.callers.length :=
      ends.sound.minded.there n ⟨_, List.mem_of_getElem? there, beq_self_eq_true n⟩
    have found : h.crowd.race.callers[n]? = some h.crowd.race.callers[n] :=
      List.getElem?_eq_getElem inside
    by_cases through : h.crowd.race.callers[n].isThrough streaming = true
    · refine attends ?_
      simp only [attend, caller?, found, through, ↓reduceIte]
      exact indoors_go there (Nat.lt_succ_self 2)
    · cases resting : h.crowd.race.callers[n].isAtRest with
      | false =>
        refine ⟨.turn n, rfl, indoors_act found ?_ (Caller.toGo_turn resting h.session n)⟩
        simp only [Race.step]
        rw [found]
        rfl
      | true =>
        have waits : h.crowd.race.callers[n].stance = .waiting ∧ streaming = false := by
          unfold Caller.isAtRest at resting
          unfold Caller.isThrough at through
          cases stance : h.crowd.race.callers[n].stance <;> rw [stance] at resting through <;>
            simp_all
        obtain ⟨waiting, rfl⟩ := waits
        have registered : h.crowd.race.callers[n].isRegistered = true := by
          unfold Caller.isRegistered
          rw [waiting]
        have race := ends.sound.minded.crowd.race
        obtain ⟨ended, _⟩ := race.ended_of_lost lost found registered resting
        obtain ⟨r, request⟩ : ∃ r, h.session.table.request? n = some r :=
          ⟨_, List.getElem?_eq_getElem (race.numbered ▸ inside)⟩
        have call : h.call? v = some n := by
          unfold call?
          rw [there]
        have ready : (h.session.polled? n false .outcome).isSome = true := ended
        refine ⟨.look v .outcome, rfl, ?_⟩
        simp only [step, call, ready, ↓reduceIte]
        refine indoors_act found ?_ (Caller.toGo_giveUp waiting request)
        simp only [Race.step]
        rw [found]
        rfl
  | leaving =>
    refine attends (indoors_go (h := h.mark h.session.leave) there ?_)
    split <;> decide
  | notifying => exact attends (indoors_go (h := h) there (Nat.succ_pos 0))

theorem canReach_over (ends : h.Closing) (lost : h.crowd.race.loop = .lost) :
    h.CanReach fun after => (after.Closing ∧ after.crowd.race.loop = .lost) ∧
      ∀ visit ∈ after.visits, visit.isOver = true := by
  refine canReach_of_nearer indoors ?_ ⟨ends, lost⟩
  rintro h ⟨ends, lost⟩ under
  obtain ⟨visit, member, under⟩ : ∃ visit ∈ h.visits, visit.isOver = false := by
    simpa only [not_forall, Bool.not_eq_true, exists_prop] using under
  obtain ⟨v, there⟩ := List.mem_iff_getElem?.mp member
  obtain ⟨move, own, less⟩ := exists_nearer_of_visit ends lost there under
  exact ⟨move, own, ⟨ends.step move, lost_step lost move⟩, less⟩

/-- How many steps the closers have before them at most. -/
def outdoors (h : Hall) : Nat := (h.closers.map Closer.toGo).sum

theorem outdoors_put {c : Nat} {closer next : Closer} (there : h.closers[c]? = some closer)
    (keeper : Option Nat) (less : next.toGo < closer.toGo) :
    outdoors { h.put c next with keeper } < h.outdoors := by
  have changed := sum_map_set Closer.toGo there next
  show ((h.closers.set c next).map Closer.toGo).sum < (h.closers.map Closer.toGo).sum
  omega

theorem visits_carryOn (h : Hall) (c : Nat) (closer : Closer) :
    (h.carryOn c closer).visits = h.visits := by
  cases closer with
  | waiting waiter => cases waiter <;> rfl
  | queueing | joining =>
    simp only [carryOn]
    split <;> rfl
  | flagging | shutting | signalling | returned => rfl

theorem exists_nearer_of_closer (ends : h.Closing) (lost : h.crowd.race.loop = .lost)
    (through : ∀ visit ∈ h.visits, visit.isOver = true) {c : Nat} {closer : Closer}
    (there : h.closers[c]? = some closer) (under : closer ≠ .returned) :
    ∃ d closer, h.closers[d]? = some closer ∧ (h.carryOn d closer).outdoors < h.outdoors := by
  have guarded := ends.sound.guarded
  have free : h.session.gate.active = 0 := by
    rw [guarded.guards]
    refine List.countP_eq_zero.mpr fun visit member => ?_
    have done := through visit member
    cases visit <;> first | exact Bool.false_ne_true | cases done
  have joins : ∀ {d}, h.closers[d]? = some .joining →
      (h.carryOn d .joining).outdoors < h.outdoors := by
    intro d there
    simp only [carryOn, lost]
    exact outdoors_put there _ (Nat.succ_pos 0)
  cases closer with
  | returned => exact absurd rfl under
  | flagging | shutting | signalling => exact ⟨c, _, there, outdoors_put there h.keeper (by decide)⟩
  | waiting waiter =>
    refine ⟨c, _, there, ?_⟩
    cases waiter with
    | returned => exact outdoors_put there h.keeper (show 2 < 3 by decide)
    | starting => exact outdoors_put there h.keeper (show 4 < 5 by decide)
    | enlisted noticed =>
      refine outdoors_put there h.keeper ?_
      simp only [waitOn, Waiter.look, free, ↓reduceIte]
      exact Nat.lt_succ_self 3
    | parked noticed =>
      cases noticed with
      | true => exact outdoors_put there h.keeper (show 5 < 6 by decide)
      | false =>
        -- somebody would have to be inside, or about to tell it
        rcases (guarded.assured _ (List.mem_of_getElem? there)).heard rfl with some |
          ⟨_, member, rfl⟩
        · rw [free] at some
          exact absurd some (Nat.lt_irrefl 0)
        · cases through _ member
  | queueing =>
    cases keeper : h.keeper with
    | none =>
      refine ⟨c, _, there, ?_⟩
      simp only [carryOn, keeper, ↓reduceIte]
      exact outdoors_put there _ (Nat.lt_succ_self 1)
    | some d =>
      have keeps := (ends.sound.locked d).mp keeper
      exact ⟨d, _, keeps, joins keeps⟩
  | joining => exact ⟨c, _, there, joins there⟩

/-- Nothing is left to do for anybody. -/
structure Through (h : Hall) : Prop where
  visits : ∀ visit ∈ h.visits, visit.isOver = true
  closers : ∀ closer ∈ h.closers, closer = .returned

/-- Whenever somebody closes a session, its parties can bring everybody through by themselves. -/
theorem canReach_through (sound : h.Sound) (closes : h.closers ≠ []) :
    h.CanReach fun after => after.Closing ∧ after.Through := by
  obtain ⟨first, rest, closers⟩ := List.exists_cons_of_ne_nil closes
  have there : h.closers[0]? = some first := by rw [closers]; rfl
  refine (canReach_closing sound there).bind fun h ends => ?_
  refine ((canReach_lost ends).keeping (fun _ move ends => ends.step move) ends).bind ?_
  rintro h ⟨ends, lost⟩
  refine (canReach_over ends lost).bind fun h done => ?_
  have returned : h.CanReach fun after =>
      ((after.Closing ∧ after.crowd.race.loop = .lost) ∧
        ∀ visit ∈ after.visits, visit.isOver = true) ∧ ∀ closer ∈ after.closers,
        closer = .returned := by
    refine canReach_of_nearer outdoors ?_ done
    rintro h ⟨⟨ends, lost⟩, through⟩ waits
    obtain ⟨closer, member, under⟩ : ∃ closer ∈ h.closers, closer ≠ .returned := by
      simpa only [not_forall, exists_prop] using waits
    obtain ⟨c, there⟩ := List.mem_iff_getElem?.mp member
    obtain ⟨d, _, there, less⟩ := exists_nearer_of_closer ends lost through there under
    refine ⟨.carryOn d, rfl, ⟨⟨ends.step _, lost_step lost _⟩, ?_⟩, ?_⟩
    · rw [step_carryOn there, visits_carryOn]
      exact through
    · rw [step_carryOn there]
      exact less
  exact returned.bind fun after done => .now ⟨done.1.1.1, done.1.2, done.2⟩

end Hall

end MarketLink.Session
