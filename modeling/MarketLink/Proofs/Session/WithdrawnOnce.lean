import MarketLink.Proofs.Session.Withdrawal

set_option autoImplicit false

namespace MarketLink.Session

open Correlation Message Wire

namespace Office

theorem Sound.opened (s : Session) (firstId : Int) : (opened s firstId).Sound := by
  refine ⟨sound_opened s firstId, rfl, ?_, ?_, fun _ _ => rfl⟩
  · intro n c there
    cases there
  · intro n c there
    cases there

theorem Sound.run {w : Office} (sound : w.Sound) (moves : List Move) : (w.run moves).Sound := by
  induction moves generalizing w with
  | nil => exact sound
  | cons move rest ih => exact ih (sound.step move)

theorem request_mem_iff {w : Office} {n : Nat} {frame : Bytes} :
    .request n frame ∈ w.posted ↔ .request n frame ∈ w.lettersOf n := by
  rw [lettersOf, List.mem_filter]
  exact ⟨fun member => ⟨member, beq_self_eq_true n⟩, And.left⟩

theorem withdrawal_mem_iff {w : Office} {n : Nat} {frame : Bytes} :
    .withdrawal n frame ∈ w.posted ↔ .withdrawal n frame ∈ w.lettersOf n := by
  rw [lettersOf, List.mem_filter]
  exact ⟨fun member => ⟨member, beq_self_eq_true n⟩, And.left⟩

/-- A move completes a request. -/
structure Completes (w : Office) (move : Move) (n : Nat) : Prop where
  running : w.session.table.outcome? n = none
  ended : ((w.step move).session.table.outcome? n).isSome = true

theorem Completes.unique {w : Office} (sound : w.Sound) {n : Nat} {moves before other : List Move}
    {first second : Move} {after rest : List Move} (split : moves = before ++ first :: after)
    (also : moves = other ++ second :: rest) (completes : (w.run before).Completes first n)
    (again : (w.run other).Completes second n) : before = other ∧ first = second := by
  have ordered : ∀ {before later : List Move} {move next : Move} (after : List Move),
      later ++ [next] <+: before ++ move :: after → (w.run before).Completes move n →
      (w.run later).Completes next n → later.length ≤ before.length := by
    intro before later move next after ahead completes again
    by_contra longer
    have far : before ++ [move] <+: later := by
      have front : before ++ [move] <+: before ++ move :: after := ⟨after, by simp⟩
      refine List.prefix_of_prefix_length_le front ((List.prefix_append _ _).trans ahead) ?_
      rw [List.length_append]
      exact Nat.lt_of_not_le longer
    obtain ⟨gap, whole⟩ := far
    obtain ⟨result, ended⟩ := Option.isSome_iff_exists.mp completes.ended
    have kept := outcome?_run ((sound.run before).step move).crowd ended gap
    have running := again.running
    rw [← whole, run_append, run_append] at running
    cases running.symm.trans kept
  have one : other.length ≤ before.length := by
    refine ordered after ?_ completes again
    rw [← split, also]
    exact ⟨rest, by simp⟩
  have two : before.length ≤ other.length := by
    refine ordered rest ?_ again completes
    rw [← also, split]
    exact ⟨after, by simp⟩
  obtain ⟨same, tails⟩ := List.append_inj (split.symm.trans also) (Nat.le_antisymm two one)
  exact ⟨same, (List.cons.inj tails).1⟩

/-- A caller that has posted its request is about to complete it, and nobody has done so before. -/
structure EndsItself (w : Office) (n : Nat) (c : Caller) : Prop where
  there : w.caller? n = some c
  ending : ∃ failure note, c.stance = .ending failure note
  posted : .request n c.frame ∈ w.posted
  running : w.session.table.outcome? n = none

/-- Such a caller has its request withdrawn next, and has completed it as cancelled. -/
theorem EndsItself.step {w : Office} (sound : w.Sound) {n : Nat} {c : Caller}
    (ends : w.EndsItself n c) :
    (w.step (.turn n)).caller? n = some { c with stance := .telling c.withdrawal } ∧
      w.lettersOf n = [.request n c.frame] ∧
      (w.step (.turn n)).lettersOf n = [.request n c.frame] ∧
      (w.step (.turn n)).session.table.outcome? n = some (.error .cancelled) := by
  obtain ⟨failure, note, stance⟩ := ends.ending
  have letters := sound.posted n c ends.there
  unfold Posted at letters
  rw [stance] at letters
  have member := request_mem_iff.mp ends.posted
  rcases letters with ⟨none, _⟩ | ⟨one, rfl, rfl⟩
  · rw [none] at member
    cases member
  · have inside : n < w.session.table.requests.length := by
      rw [← sound.crowd.race.numbered]
      exact (List.getElem?_eq_some_iff.mp ends.there).1
    have found : w.session.table.request? n = some w.session.table.requests[n] :=
      List.getElem?_eq_getElem inside
    have running : w.session.table.requests[n].outcome = none := by
      have running := ends.running
      rw [Table.outcome?, found] at running
      exact running
    obtain ⟨first, outcome⟩ := Table.complete_of_open found running (some .cancelled)
    have next : c.turn w.session n = ({ w.session with
        table := (w.session.table.complete n (some .cancelled)).1 }, .telling c.withdrawal) := by
      rw [Caller.turn, stance]
      dsimp only
      rw [first]
      rfl
    have silent : w.letters n = [] := by rw [letters_of_stance ends.there, stance]
    rcases caller?_step_cases ends.there (.turn n) with ⟨_, _, other⟩ | ⟨_, same, more⟩ | ⟨gives, _⟩
    · exact absurd rfl other
    · rw [next] at same
      refine ⟨same, one, ?_, ?_⟩
      · rw [more, silent, one, List.append_nil]
      · rw [session_step_turn ends.there, next]
        exact outcome
    · cases gives

theorem telling_run {w : Office} {n : Nat} {c : Caller} {note : Option Bytes}
    (there : w.caller? n = some c) (telling : c.stance = .telling note) {moves : List Move}
    (still : .turn n ∉ moves) :
    (w.run moves).caller? n = some c ∧ (w.run moves).lettersOf n = w.lettersOf n := by
  induction moves generalizing w with
  | nil => exact ⟨there, rfl⟩
  | cons move rest ih =>
    rw [List.mem_cons, not_or] at still
    rcases caller?_step_cases there move with ⟨same, letters, _⟩ | ⟨turns, _⟩ | ⟨_, same, letters⟩
    · obtain ⟨stays, kept⟩ := ih same still.2
      exact ⟨stays, kept.trans letters⟩
    · exact absurd turns.symm still.1
    · have stays : { c with stance := c.giveUp w.session.table n } = c := by
        rw [Caller.giveUp, telling]
        exact congrArg (fun stance => { c with stance }) telling.symm
      rw [stays] at same
      obtain ⟨stays, kept⟩ := ih same still.2
      exact ⟨stays, kept.trans letters⟩

/-- A caller that is through with its request posts nothing more. -/
theorem gone_run {w : Office} {n : Nat} {c : Caller} (there : w.caller? n = some c)
    (gone : c.stance = .gone) (moves : List Move) : (w.run moves).lettersOf n = w.lettersOf n := by
  induction moves generalizing w with
  | nil => rfl
  | cons move rest ih =>
    rcases caller?_step_cases there move with ⟨same, letters, _⟩ | ⟨_, same, letters⟩ |
      ⟨_, same, letters⟩
    · exact (ih same).trans letters
    · have stays : { c with stance := (c.turn w.session n).2 } = c := by
        rw [Caller.turn, gone]
        exact congrArg (fun stance => { c with stance }) gone.symm
      rw [stays] at same
      rw [letters_of_stance there, gone] at letters
      exact (ih same).trans (letters.trans (List.append_nil _))
    · have stays : { c with stance := c.giveUp w.session.table n } = c := by
        rw [Caller.giveUp, gone]
        exact congrArg (fun stance => { c with stance }) gone.symm
      rw [stays] at same
      exact (ih same).trans letters

def Withdraws (w : Office) (n : Nat) (frame : Bytes) : Prop :=
  .withdrawal n frame ∈ w.posted ∨ ∃ c, w.caller? n = some c ∧ c.stance = .telling (some frame)

def HasGivenUp (w : Office) (n : Nat) : Prop :=
  ∃ c, w.caller? n = some c ∧ c.isPast = true ∧ .request n c.frame ∈ w.posted

/-- Only who was the first to complete a request has something to tell. -/
theorem ending_of_turn {s : Session} {n : Nat} {c : Caller} {frame : Bytes}
    (tells : (c.turn s n).2 = .telling (some frame)) :
    c.stance = .telling (some frame) ∨
      ∃ failure, c.stance = .ending failure (some frame) ∧ s.table.outcome? n = none := by
  cases stance : c.stance with
  | ending failure note =>
    rw [Caller.turn, stance] at tells
    have tells : Stance.telling (if (s.table.complete n (some failure)).2 then note else none) =
        .telling (some frame) := tells
    split at tells
    · rename_i first
      cases tells
      refine Or.inr ⟨failure, rfl, ?_⟩
      cases outcome : s.table.outcome? n with
      | none => rfl
      | some _ =>
        rw [Table.complete_of_ended (by rw [outcome]; rfl)] at first
        cases first
    · cases tells
  | fresh =>
    cases accepted : (s.table.register n).2 with
    | ok _ =>
      rw [Race.Caller.turn_of_accepted stance accepted] at tells
      cases tells
    | error _ =>
      rw [Race.Caller.turn_of_refused stance accepted] at tells
      cases tells
  | registered =>
    cases sent : (s.send c.frame).2 with
    | ok _ =>
      rw [Race.Caller.turn_of_sent stance sent] at tells
      cases tells
    | error _ =>
      rw [Race.Caller.turn_of_unsent stance sent] at tells
      cases tells
  | refused | waiting | leaving _ _ | telling _ | gone =>
    rw [Caller.turn, stance] at tells
    cases tells

/-- A caller's own step takes it past waiting only if its frame was refused. -/
theorem isPast_of_turn {s : Session} {n : Nat} {c : Caller}
    (past : Caller.isPast { c with stance := (c.turn s n).2 } = true) :
    c.isPast = true ∨ c.stance = .registered ∧ (s.send c.frame).2.isOk = false := by
  unfold Caller.isPast at past ⊢
  cases stance : c.stance with
  | fresh =>
    cases accepted : (s.table.register n).2 with
    | ok _ =>
      rw [Race.Caller.turn_of_accepted stance accepted] at past
      cases past
    | error _ =>
      rw [Race.Caller.turn_of_refused stance accepted] at past
      cases past
  | registered =>
    cases sent : (s.send c.frame).2 with
    | ok _ =>
      rw [Race.Caller.turn_of_sent stance sent] at past
      cases past
    | error _ => exact Or.inr ⟨rfl, rfl⟩
  | refused | waiting =>
    rw [Caller.turn, stance] at past
    cases past
  | leaving _ _ | ending _ _ | telling _ | gone => exact Or.inl rfl

/-- Who has something to tell after giving up had it before. -/
theorem telling_of_giveUp {t : Table} {n : Nat} {c : Caller} {note : Option Bytes}
    (tells : c.giveUp t n = .telling note) : c.stance = .telling note := by
  unfold Caller.giveUp at tells
  split at tells
  · split at tells
    · cases tells
    · split at tells <;> cases tells
  · exact tells

/-- Only who waits for a request goes past waiting by giving up. -/
theorem isPast_of_giveUp {t : Table} {n : Nat} {c : Caller}
    (past : Caller.isPast { c with stance := c.giveUp t n } = true) :
    c.isPast = true ∨ c.stance = .waiting ∧ ∃ r, t.request? n = some r := by
  cases stance : c.stance with
  | waiting =>
    cases found : t.request? n with
    | some r => exact Or.inr ⟨rfl, r, rfl⟩
    | none =>
      rw [Caller.isPast, Caller.giveUp, stance, found] at past
      cases past
  | fresh | refused | registered =>
    rw [Caller.isPast, Caller.giveUp, stance] at past
    cases past
  | leaving _ _ | ending _ _ | telling _ | gone =>
    left
    rw [Caller.isPast, stance]

theorem Withdraws.step {w : Office} (sound : w.Sound) {n : Nat} {frame : Bytes} {move : Move}
    (not_yet : ¬ w.Withdraws n frame) (withdraws : (w.step move).Withdraws n frame) :
    move = .turn n ∧ ∃ c, w.EndsItself n c := by
  cases there : w.caller? n with
  | none =>
    obtain ⟨none, newcomer⟩ := sound.step_of_nobody there move
    rcases withdraws with posted | ⟨c, arrived, stance⟩
    · have member := withdrawal_mem_iff.mp posted
      rw [none] at member
      cases member
    · cases (newcomer c arrived).1.symm.trans stance
  | some c =>
    have unposted : .withdrawal n frame ∉ w.lettersOf n := fun member =>
      not_yet (Or.inl (withdrawal_mem_iff.mpr member))
    have untold : c.stance ≠ .telling (some frame) :=
      fun stance => not_yet (Or.inr ⟨c, there, stance⟩)
    rcases caller?_step_cases there move with ⟨same, letters, _⟩ | ⟨turns, same, letters⟩ |
      ⟨_, same, letters⟩
    · rcases withdraws with posted | ⟨later, found, stance⟩
      · exact absurd (letters ▸ withdrawal_mem_iff.mp posted) unposted
      · cases found.symm.trans same
        exact absurd stance untold
    · refine ⟨turns, c, ?_⟩
      rcases withdraws with posted | ⟨later, found, stance⟩
      · have member := withdrawal_mem_iff.mp posted
        rw [letters, List.mem_append] at member
        have fresh := member.resolve_left unposted
        rw [letters_of_stance there] at fresh
        cases stance : c.stance with
        | telling note =>
          rw [stance] at fresh
          cases note with
          | none => cases fresh
          | some note =>
            cases List.mem_singleton.mp (List.mem_of_mem_filter fresh)
            exact absurd stance untold
        | registered =>
          rw [stance] at fresh
          cases List.mem_singleton.mp (List.mem_of_mem_filter fresh)
        | fresh | refused | waiting | leaving _ _ | ending _ _ | gone =>
          rw [stance] at fresh
          cases fresh
      · cases found.symm.trans same
        obtain ⟨failure, ending, running⟩ := (ending_of_turn stance).resolve_left untold
        have own := sound.posted n c there
        unfold Posted at own
        rw [ending] at own
        rcases own with ⟨_, silent⟩ | ⟨one, _⟩
        · cases silent
        · refine ⟨there, ⟨failure, _, ending⟩, request_mem_iff.mpr ?_, running⟩
          rw [one]
          exact List.mem_singleton_self _
    · rcases withdraws with posted | ⟨later, found, stance⟩
      · exact absurd (letters ▸ withdrawal_mem_iff.mp posted) unposted
      · cases found.symm.trans same
        exact absurd (telling_of_giveUp stance) untold

theorem HasGivenUp.step {w : Office} (sound : w.Sound) {n : Nat} {move : Move}
    (not_yet : ¬ w.HasGivenUp n) (given : (w.step move).HasGivenUp n) :
    move.isGivingUp n = true ∧ ∃ r, w.crowd.race.awaited? n = some r := by
  obtain ⟨later, found, past, posted⟩ := given
  have member := request_mem_iff.mp posted
  cases there : w.caller? n with
  | none =>
    obtain ⟨none, _⟩ := sound.step_of_nobody there move
    rw [none] at member
    cases member
  | some c =>
    rcases caller?_step_cases there move with ⟨same, letters, _⟩ | ⟨_, same, letters⟩ |
      ⟨giving, same, letters⟩ <;> cases found.symm.trans same <;> rw [letters] at member
    · exact absurd ⟨_, there, past, request_mem_iff.mpr member⟩ not_yet
    · exfalso
      have own := sound.posted n c there
      rcases isPast_of_turn past with already | ⟨stance, refused⟩
      · refine not_yet ⟨c, there, already, request_mem_iff.mpr ?_⟩
        refine (List.mem_append.mp member).resolve_right fun now => ?_
        rw [letters_of_stance there] at now
        unfold Caller.isPast at already
        cases stance : c.stance with
        | telling note =>
          rw [stance] at now
          cases note with
          | none => cases now
          | some _ => cases List.mem_singleton.mp (List.mem_of_mem_filter now)
        | leaving _ _ | ending _ _ | gone =>
          rw [stance] at now
          cases now
        | fresh | refused | registered | waiting =>
          rw [stance] at already
          cases already
      · unfold Posted at own
        rw [stance] at own
        rw [letters_of_stance there, stance, show w.lettersOf n = [] from own,
          List.filter_singleton, refused] at member
        cases member
    · refine ⟨giving, ?_⟩
      rcases isPast_of_giveUp past with already | ⟨waiting, r, requested⟩
      · exact absurd ⟨c, there, already, request_mem_iff.mpr member⟩ not_yet
      · exact ⟨r, Race.awaited?_eq_some_iff.mpr ⟨c, there, waiting, requested⟩⟩

theorem EndsItself.completes {w : Office} (sound : w.Sound) {n : Nat} {c : Caller}
    (ends : w.EndsItself n c) : w.Completes (.turn n) n :=
  ⟨ends.running, by rw [(ends.step sound).2.2.2]; rfl⟩

/-- Who completes its request as cancelled has it withdrawn, if the link takes the frame. -/
theorem EndsItself.withdraws {w : Office} (sound : w.Sound) {n : Nat} {c : Caller}
    (ends : w.EndsItself n c) {frame : Bytes} (withdrawal : c.withdrawal = some frame)
    {middle : List Move} (still : .turn n ∉ middle)
    (ready : Ready ((w.step (.turn n)).run middle).session) (after : List Move) :
    ((((w.step (.turn n)).run middle).step (.turn n)).run after).lettersOf n =
      [.request n c.frame, .withdrawal n frame] := by
  obtain ⟨there, _, one, _⟩ := ends.step sound
  rw [withdrawal] at there
  obtain ⟨there, letters⟩ := telling_run there rfl still
  generalize (w.step (.turn n)).run middle = v at there letters ready ⊢
  have sent : (v.session.send frame).2.isOk = true := by
    simp [Session.send, Link.send, ready.attached, ready.admitting, ready.faultless, Except.isOk,
      Except.toBool]
  have told : v.letters n = [.withdrawal n frame] := by
    rw [letters_of_stance there]
    dsimp only
    rw [List.filter_singleton, sent]
    rfl
  rcases caller?_step_cases there (.turn n) with ⟨_, _, other⟩ | ⟨_, same, more⟩ | ⟨gives, _⟩
  · exact absurd rfl other
  · rw [gone_run same rfl after, more, letters, one, told]
    rfl
  · cases gives

end Office

namespace Office

end Office

end MarketLink.Session
