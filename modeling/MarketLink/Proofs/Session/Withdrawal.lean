import MarketLink.Proofs.Message.Asked
import MarketLink.Proofs.Session.Posted

set_option autoImplicit false

namespace MarketLink.Session

open Correlation Message Number Time Wire

namespace Errand

theorem withdrawal?_of_withoutId {errand : Errand} {number code seq : Int}
    (key : errand.key number = .withoutId code seq) : errand.withdrawal? number = none := by
  rcases errand with (_ | _ | _ | _ | ⟨_, _⟩) | _ <;> first | rfl | cases key

end Errand

namespace Office

def lettersOf (w : Office) (n : Nat) : List Letter := w.posted.filter (Letter.isAbout n)

/-- All that a caller ever posts: the frame of its request, and behind it the frame that withdraws
it. -/
def lettersOfCaller (n : Nat) (c : Caller) : List Letter :=
  .request n c.frame :: (c.withdrawal.map (.withdrawal n)).toList

/-- What a caller has posted where it stands. One that takes its request back has either been
refused by the link or has waited and given up. -/
def Posted (n : Nat) (c : Caller) (letters : List Letter) : Prop :=
  match c.stance with
  | .fresh | .refused | .registered => letters = []
  | .waiting => letters = [.request n c.frame]
  | .leaving failure note | .ending failure note =>
    letters = [] ∧ note = none ∨
      letters = [.request n c.frame] ∧ failure = .cancelled ∧ note = c.withdrawal
  | .telling note =>
    letters <+: [.request n c.frame] ∧ note = none ∨
      letters = [.request n c.frame] ∧ note = c.withdrawal
  | .gone => letters <+: lettersOfCaller n c

/-- A caller with what it has come with. -/
structure Comes (w : Office) (n : Nat) (c : Caller) (errand : Errand) (number : Int) : Prop where
  there : w.errands[n]? = some (errand, number)
  isNumber : IsNumber number
  frame : errand.frame number = .ok c.frame
  withdrawal : c.withdrawal = errand.withdrawal? number
  key : w.session.table.keys[n]? = some (errand.key number)

/-- What holds between moves. -/
structure Sound (w : Office) : Prop where
  crowd : w.crowd.Sound
  numbered : w.errands.length = w.crowd.race.callers.length
  comes : ∀ n c, w.caller? n = some c → ∃ errand number, w.Comes n c errand number
  posted : ∀ n c, w.caller? n = some c → Posted n c (w.lettersOf n)
  about : ∀ n, w.crowd.race.callers.length ≤ n → w.lettersOf n = []

theorem Posted.lettersOfCaller {n : Nat} {c : Caller} {letters : List Letter}
    (posted : Posted n c letters) : letters <+: lettersOfCaller n c := by
  have asked : [.request n c.frame] <+: Office.lettersOfCaller n c := ⟨_, rfl⟩
  unfold Posted at posted
  cases stance : c.stance with
  | fresh | refused | registered =>
    rw [stance] at posted
    exact posted ▸ List.nil_prefix
  | waiting =>
    rw [stance] at posted
    exact posted ▸ asked
  | leaving _ _ | ending _ _ =>
    rw [stance] at posted
    rcases posted with ⟨none, _⟩ | ⟨one, _⟩
    · exact none ▸ List.nil_prefix
    · exact one ▸ asked
  | telling _ =>
    rw [stance] at posted
    rcases posted with ⟨few, _⟩ | ⟨one, _⟩
    · exact few.trans asked
    · exact one ▸ asked
  | gone =>
    rw [stance] at posted
    exact posted

/-- A caller that gives up has posted the frame of its request and nothing else. -/
theorem Posted.giveUp {n : Nat} {c : Caller} {letters : List Letter} {t : Table}
    (posted : Posted n c letters)
    (silent : ∀ r code seq, t.request? n = some r → r.key = .withoutId code seq →
      c.withdrawal = none) :
    Posted n { c with stance := c.giveUp t n } letters := by
  have kept := posted
  unfold Caller.giveUp
  split
  · rename_i r waiting found
    unfold Posted at posted
    rw [waiting] at posted
    dsimp only at posted
    split
    · exact ⟨_, by rw [posted]; rfl⟩
    · cases key : r.key with
      | withoutId code seq => exact Or.inr ⟨posted, rfl, (silent r code seq found key).symm⟩
      | withId _ | ticker _ => exact Or.inr ⟨posted, rfl, rfl⟩
  · exact kept

theorem letters_of_stance {w : Office} {n : Nat} {c : Caller} (there : w.caller? n = some c) :
    w.letters n = match c.stance with
      | .registered => [.request n c.frame].filter fun _ => (w.session.send c.frame).2.isOk
      | .telling (some note) => [.withdrawal n note].filter fun _ => (w.session.send note).2.isOk
      | _ => [] := by
  rw [letters, letter?, there]
  dsimp only
  cases c.stance with
  | telling note => cases note <;> rfl
  | fresh | refused | registered | waiting | leaving _ _ | ending _ _ | gone => rfl

/-- A caller's next step posts what belongs to where it goes. -/
theorem Posted.turn {w : Office} {n : Nat} {c : Caller} (there : w.caller? n = some c)
    {letters : List Letter} (posted : Posted n c letters) :
    Posted n { c with stance := (c.turn w.session n).2 } (letters ++ w.letters n) := by
  have asked : [.request n c.frame] <+: Office.lettersOfCaller n c := ⟨_, rfl⟩
  rw [letters_of_stance there]
  unfold Posted at posted
  cases stance : c.stance with
  | fresh =>
    rw [stance] at posted
    have none : letters = [] := posted
    subst none
    cases accepted : (w.session.table.register n).2 with
    | ok _ =>
      rw [Race.Caller.turn_of_accepted stance accepted]
      rfl
    | error failure =>
      rw [Race.Caller.turn_of_refused stance accepted]
      rfl
  | registered =>
    rw [stance] at posted
    have none : letters = [] := posted
    subst none
    cases sent : (w.session.send c.frame).2 with
    | ok _ =>
      rw [Race.Caller.turn_of_sent stance sent]
      rfl
    | error failure =>
      rw [Race.Caller.turn_of_unsent stance sent]
      exact Or.inl ⟨rfl, rfl⟩
  | refused | waiting | gone =>
    have still : (c.turn w.session n).2 = c.stance := by rw [Caller.turn, stance]
    rw [still, List.append_nil]
    unfold Posted
    rw [stance] at posted ⊢
    exact posted
  | leaving failure note =>
    have next : (c.turn w.session n).2 = .ending failure note := by rw [Caller.turn, stance]
    rw [stance] at posted
    rw [next, List.append_nil]
    exact posted
  | ending failure note =>
    have next : (c.turn w.session n).2 =
        .telling (if (w.session.table.complete n (some failure)).2 then note else none) := by
      rw [Caller.turn, stance]
    rw [stance] at posted
    rw [next, List.append_nil]
    rcases posted with ⟨none, silent⟩ | ⟨one, _, own⟩
    · refine Or.inl ⟨none ▸ List.nil_prefix, ?_⟩
      rw [silent]
      split <;> rfl
    · split
      · exact Or.inr ⟨one, own⟩
      · exact Or.inl ⟨one ▸ List.prefix_rfl, rfl⟩
  | telling note =>
    have next : (c.turn w.session n).2 = .gone := by rw [Caller.turn, stance]
    rw [stance] at posted
    rw [next]
    cases note with
    | none =>
      rw [List.append_nil]
      rcases posted with ⟨few, _⟩ | ⟨one, _⟩
      · exact few.trans asked
      · exact one ▸ asked
    | some note =>
      rcases posted with ⟨_, silent⟩ | ⟨one, own⟩
      · cases silent
      · have all : Office.lettersOfCaller n c = [.request n c.frame, .withdrawal n note] := by
          rw [Office.lettersOfCaller, ← own]
          rfl
        subst one
        show _ <+: Office.lettersOfCaller n c
        rw [all]
        dsimp only
        cases (w.session.send note).2 with
        | ok _ => exact List.prefix_rfl
        | error _ => exact ⟨[.withdrawal n note], rfl⟩

def Move.isGivingUp (n : Nat) : Move → Bool
  | .giveUp m | .look m | .expire m => m == n
  | _ => false

theorem isAbout_letter? {w : Office} {n : Nat} {letter : Letter}
    (next : w.letter? n = some letter) :
    letter.isAbout n = true := by
  unfold letter? at next
  split at next
  · split at next
    · cases next
      exact beq_self_eq_true n
    · cases next
      exact beq_self_eq_true n
    · cases next
  · cases next

theorem lettersOf_step_turn (w : Office) (m n : Nat) :
    (w.step (.turn m)).lettersOf n = w.lettersOf n ++ if m = n then w.letters m else [] := by
  show (w.posted ++ w.letters m).filter _ = _
  rw [List.filter_append]
  congr 1
  split
  · rename_i same
    subst same
    refine List.filter_eq_self.mpr fun letter member => ?_
    have next := Option.mem_toList.mp (List.mem_of_mem_filter member)
    exact isAbout_letter? next
  · rename_i other
    refine List.filter_eq_nil_iff.mpr fun letter member about => ?_
    have next := isAbout_letter? (Option.mem_toList.mp (List.mem_of_mem_filter member))
    cases letter with
    | request k _ | withdrawal k _ =>
      exact other ((beq_iff_eq.mp next).symm.trans (beq_iff_eq.mp about))
    | other _ => cases about

theorem callers_act_receive (w : Office) (destination : Destination) :
    (w.act (.receive destination)).crowd.race.callers = w.crowd.race.callers := by
  show (w.crowd.race.step _).callers = _
  unfold Race.step
  dsimp only
  split <;> rfl

theorem callers_act_lose (w : Office) (failure : Failure) :
    (w.act (.lose failure)).crowd.race.callers = w.crowd.race.callers := by
  show (w.crowd.race.step _).callers = _
  unfold Race.step
  dsimp only
  split <;> rfl

/-- Callers come, do their steps and give up; nothing else moves them, or posts something about
their requests. -/
theorem callers_step (w : Office) (move : Move) :
    ((∃ errand number frame, move = .come errand number ∧ errand.frame number = .ok frame ∧
        IsNumber number ∧ w.step move =
          { w.act (.ask (errand.key number) errand.slot errand.streaming frame
              (errand.withdrawal? number)) with
            errands := w.errands ++ [(errand, number)] }) ∨
      (∃ n, move = .turn n) ∨
      (∃ n, move.isGivingUp n = true ∧ (w.step move).crowd.race = w.crowd.race.step (.giveUp n) ∧
        (w.step move).errands = w.errands ∧ (w.step move).posted = w.posted)) ∨
      (w.step move).crowd.race.callers = w.crowd.race.callers ∧
        (w.step move).errands = w.errands ∧
        (∀ n, (w.step move).lettersOf n = w.lettersOf n) ∧ ∀ n, move ≠ .turn n := by
  by_cases turns : ∃ n, move = .turn n
  · exact Or.inl (Or.inr (Or.inl turns))
  have other : ∀ n, move ≠ .turn n := fun n same => turns ⟨n, same⟩
  cases move with
  | come errand number =>
    simp only [step]
    split
    · rename_i frame framed
      split
      · rename_i isNumber
        exact Or.inl (Or.inl ⟨errand, number, frame, rfl, framed, isNumber, rfl⟩)
      · exact Or.inr ⟨rfl, rfl, fun _ => rfl, other⟩
    · exact Or.inr ⟨rfl, rfl, fun _ => rfl, other⟩
  | turn n => exact absurd rfl (other n)
  | giveUp n => exact Or.inl (Or.inr (Or.inr ⟨n, beq_self_eq_true n, rfl, rfl, rfl⟩))
  | look n =>
    rcases w.crowd.race_poll n false with same | same
    · exact Or.inr ⟨congrArg Race.callers same, rfl, fun _ => rfl, other⟩
    · exact Or.inl (Or.inr (Or.inr ⟨n, beq_self_eq_true n, same, rfl, rfl⟩))
  | expire n =>
    rcases w.crowd.race_poll n true with same | same
    · exact Or.inr ⟨congrArg Race.callers same, rfl, fun _ => rfl, other⟩
    · exact Or.inl (Or.inr (Or.inr ⟨n, beq_self_eq_true n, same, rfl, rfl⟩))
  | switch kind =>
    refine Or.inr ?_
    simp only [step]
    split
    · rename_i frame _
      rcases w.post_cases (.other frame) with same | ⟨_, same⟩ <;> rw [same]
      · exact ⟨rfl, rfl, fun _ => rfl, other⟩
      · refine ⟨rfl, rfl, fun n => ?_, other⟩
        show (w.posted ++ [Letter.other frame]).filter _ = _
        rw [List.filter_append]
        exact List.append_nil _
    · exact ⟨rfl, rfl, fun _ => rfl, other⟩
  | fetch =>
    refine Or.inr ?_
    rcases w.fetch_cases with same | ⟨_, ⟨_, same⟩ | ⟨_, link, failure, _, same⟩ |
      ⟨_, link, payload, _, ⟨e, _, same⟩ | ⟨arrival, _, same⟩⟩⟩ <;>
      rw [step, same]
    · exact ⟨rfl, rfl, fun _ => rfl, other⟩
    · exact ⟨callers_act_lose w _, rfl, fun _ => rfl, other⟩
    · exact ⟨callers_act_lose (w.setLink link) _, rfl, fun _ => rfl, other⟩
    · exact ⟨callers_act_lose (w.setLink link) _, rfl, fun _ => rfl, other⟩
    · exact ⟨callers_act_receive (w.setLink link) _, rfl, fun _ => rfl, other⟩
  | draw _ | enter | leave | proceed | read _ | write _ | close | letGo =>
    exact Or.inr ⟨rfl, rfl, fun _ => rfl, other⟩

/-- What a move does to a caller and to what was posted about its request: nothing, or the caller
does its next step, or gives up. -/
theorem caller?_step_cases {w : Office} {n : Nat} {c : Caller} (there : w.caller? n = some c)
    (move : Move) :
    ((w.step move).caller? n = some c ∧ (w.step move).lettersOf n = w.lettersOf n ∧
        move ≠ .turn n) ∨
      (move = .turn n ∧
        (w.step move).caller? n = some { c with stance := (c.turn w.session n).2 } ∧
        (w.step move).lettersOf n = w.lettersOf n ++ w.letters n) ∨
      (move.isGivingUp n = true ∧
        (w.step move).caller? n = some { c with stance := c.giveUp w.session.table n } ∧
        (w.step move).lettersOf n = w.lettersOf n) := by
  have inside : w.crowd.race.callers[n]? = some c := there
  rcases w.callers_step move with
    (⟨errand, number, frame, rfl, _, _, same⟩ | ⟨m, rfl⟩ | ⟨m, giving, race, _, posted⟩) |
      ⟨callers, _, letters, still⟩
  · refine Or.inl ⟨?_, ?_, nofun⟩
    · rw [same]
      exact (List.getElem?_append_left (List.getElem?_eq_some_iff.mp inside).1).trans inside
    · rw [same]
      rfl
  · by_cases own : m = n
    · subst own
      refine Or.inr (Or.inl ⟨rfl, ?_, ?_⟩)
      · show (w.crowd.race.step (.turn m)).callers[m]? = _
        rw [Race.step, inside]
        exact (Race.callers_place inside _ _ m).trans (if_pos rfl)
      · rw [lettersOf_step_turn, if_pos rfl]
    · refine Or.inl ⟨?_, ?_, fun same => own (Move.turn.inj same)⟩
      · rcases Race.callers_step_cases inside (.turn m) with same | ⟨same, _⟩ | ⟨same, _⟩
        · exact same
        · exact absurd (Race.Move.turn.inj same) own
        · cases same
      · rw [lettersOf_step_turn, if_neg own, List.append_nil]
  · have letters : (w.step move).lettersOf n = w.lettersOf n := by
      rw [lettersOf, posted, lettersOf]
    by_cases own : m = n
    · subst own
      refine Or.inr (Or.inr ⟨giving, ?_, letters⟩)
      show (w.step move).crowd.race.callers[m]? = _
      rw [race, Race.step, inside]
      exact (Race.callers_place inside _ _ m).trans (if_pos rfl)
    · refine Or.inl ⟨?_, letters, ?_⟩
      · show (w.step move).crowd.race.callers[n]? = _
        rw [race]
        rcases Race.callers_step_cases inside (.giveUp m) with same | ⟨same, _⟩ | ⟨same, _⟩
        · exact same
        · cases same
        · exact absurd (Race.Move.giveUp.inj same) own
      · rintro rfl
        cases giving
  · refine Or.inl ⟨?_, letters n, still n⟩
    show (w.step move).crowd.race.callers[n]? = _
    rw [callers, inside]

theorem keys_step (w : Office) (move : Move) :
    w.session.table.keys <+: (w.step move).session.table.keys := by
  obtain ⟨moves, same⟩ := w.crowd_step move
  show _ <+: (w.step move).crowd.race.session.table.keys
  rw [same]
  exact w.crowd.keys_run moves

theorem errands_step (w : Office) (move : Move) : w.errands <+: (w.step move).errands := by
  rcases w.callers_step move with
    (⟨errand, number, frame, _, _, _, same⟩ | ⟨m, rfl⟩ | ⟨_, _, _, same, _⟩) | ⟨_, same, _, _⟩
  · rw [same]
    exact List.prefix_append _ _
  · exact List.prefix_rfl
  · exact same ▸ List.prefix_rfl
  · exact same ▸ List.prefix_rfl

theorem Comes.step {w : Office} {n : Nat} {c : Caller} {errand : Errand} {number : Int}
    (comes : w.Comes n c errand number) (move : Move) (stance : Stance) :
    (w.step move).Comes n { c with stance } errand number := by
  refine ⟨?_, comes.isNumber, comes.frame, comes.withdrawal, ?_⟩
  · obtain ⟨more, whole⟩ := w.errands_step move
    rw [← whole]
    exact (List.getElem?_append_left (List.getElem?_eq_some_iff.mp comes.there).1).trans comes.there
  · obtain ⟨more, whole⟩ := w.keys_step move
    rw [← whole]
    exact (List.getElem?_append_left (List.getElem?_eq_some_iff.mp comes.key).1).trans comes.key

/-- A request that no caller withdraws by a frame, because it has no id. -/
theorem Comes.silent {w : Office} {n : Nat} {c : Caller} {errand : Errand} {number : Int}
    (comes : w.Comes n c errand number) {r : Request} {code seq : Int}
    (found : w.session.table.request? n = some r) (key : r.key = .withoutId code seq) :
    c.withdrawal = none := by
  have own : errand.key number = .withoutId code seq := by
    have there := comes.key
    have found : w.session.table.requests[n]? = some r := found
    rw [Table.keys, List.getElem?_map, found] at there
    exact (Option.some.inj there).symm.trans key
  rw [comes.withdrawal, Errand.withdrawal?_of_withoutId own]

theorem length_callers_turn (w : Race) (n : Nat) :
    (w.step (.turn n)).callers.length = w.callers.length := by
  unfold Race.step
  dsimp only
  split
  · exact List.length_set
  · rfl

theorem length_callers_giveUp (w : Race) (n : Nat) :
    (w.step (.giveUp n)).callers.length = w.callers.length := by
  unfold Race.step
  dsimp only
  split
  · exact List.length_set
  · rfl

theorem arrivals_step (w : Office) (move : Move) :
    (∃ errand number frame, errand.frame number = .ok frame ∧ IsNumber number ∧
        w.step move = { w.act (.ask (errand.key number) errand.slot errand.streaming frame
          (errand.withdrawal? number)) with errands := w.errands ++ [(errand, number)] }) ∨
      (w.step move).crowd.race.callers.length = w.crowd.race.callers.length ∧
        (w.step move).errands = w.errands := by
  rcases w.callers_step move with
    (⟨errand, number, frame, _, framed, isNumber, same⟩ | ⟨m, rfl⟩ | ⟨m, _, race, errands, _⟩) |
      ⟨callers, errands, _⟩
  · exact Or.inl ⟨errand, number, frame, framed, isNumber, same⟩
  · exact Or.inr ⟨length_callers_turn w.crowd.race m, rfl⟩
  · exact Or.inr ⟨by rw [race]; exact length_callers_giveUp w.crowd.race m, errands⟩
  · exact Or.inr ⟨congrArg List.length callers, errands⟩

/-- A request that nobody has come with: nothing was posted about it, and whoever comes with it has
done nothing yet. -/
theorem Sound.step_of_nobody {w : Office} (sound : w.Sound) {n : Nat} (nobody : w.caller? n = none)
    (move : Move) :
    (w.step move).lettersOf n = [] ∧ ∀ c, (w.step move).caller? n = some c →
      c.stance = .fresh ∧ ∃ errand number, (w.step move).Comes n c errand number := by
  have beyond : w.crowd.race.callers.length ≤ n := List.getElem?_eq_none_iff.mp nobody
  constructor
  · have silent : (w.step move).lettersOf n = w.lettersOf n := by
      rcases w.callers_step move with
        (⟨_, _, _, _, _, _, same⟩ | ⟨m, rfl⟩ | ⟨_, _, _, _, same⟩) | ⟨_, _, same, _⟩
      · rw [same]
        rfl
      · rw [lettersOf_step_turn]
        split
        · rename_i own
          subst own
          rw [letters, letter?, nobody]
          exact List.append_nil _
        · exact List.append_nil _
      · rw [lettersOf, same, lettersOf]
      · exact same n
    rw [silent]
    exact sound.about n beyond
  · intro c there
    rcases w.arrivals_step move with ⟨errand, number, frame, framed, isNumber, same⟩ | ⟨few, _⟩
    · have last : n = w.crowd.race.callers.length ∧
          c = { frame, withdrawal := errand.withdrawal? number } := by
        rw [same] at there
        have there : (w.crowd.race.callers ++ [_])[n]? = some c := there
        rw [List.getElem?_append_right beyond, List.getElem?_singleton] at there
        split at there
        · exact ⟨by omega, (Option.some.inj there).symm⟩
        · cases there
      obtain ⟨rfl, rfl⟩ := last
      refine ⟨rfl, errand, number, ?_, isNumber, framed, rfl, ?_⟩
      · rw [same, ← sound.numbered]
        exact List.getElem?_concat_length
      · rw [same]
        show ((w.session.table.create _).1.keys)[w.crowd.race.callers.length]? = _
        have long : w.session.table.keys.length = w.crowd.race.callers.length := by
          rw [Table.keys, List.length_map]
          exact sound.crowd.race.numbered.symm
        rw [Table.keys_create, ← long]
        exact List.getElem?_concat_length
    · have inside := (List.getElem?_eq_some_iff.mp there).1
      omega

theorem Sound.step {w : Office} (sound : w.Sound) (move : Move) : (w.step move).Sound := by
  have crowd : (w.step move).crowd.Sound := by
    obtain ⟨moves, same⟩ := w.crowd_step move
    exact same ▸ sound.crowd.run moves
  have each : ∀ n later, (w.step move).caller? n = some later →
      (∃ errand number, (w.step move).Comes n later errand number) ∧
        Posted n later ((w.step move).lettersOf n) := by
    intro n later found
    cases before : w.caller? n with
    | none =>
      obtain ⟨none, newcomer⟩ := sound.step_of_nobody before move
      obtain ⟨fresh, comes⟩ := newcomer later found
      refine ⟨comes, ?_⟩
      rw [none, Posted, fresh]
    | some c =>
      obtain ⟨errand, number, comes⟩ := sound.comes n c before
      have posted := sound.posted n c before
      rcases caller?_step_cases before move with
        ⟨same, letters, _⟩ | ⟨_, same, letters⟩ | ⟨_, same, letters⟩ <;>
        cases found.symm.trans same <;> rw [letters]
      · exact ⟨⟨errand, number, comes.step move later.stance⟩, posted⟩
      · exact ⟨⟨errand, number, comes.step move _⟩, posted.turn before⟩
      · exact ⟨⟨errand, number, comes.step move _⟩,
          posted.giveUp fun r code seq found key => comes.silent found key⟩
  refine ⟨crowd, ?_, fun n c there => (each n c there).1, fun n c there => (each n c there).2, ?_⟩
  · rcases w.arrivals_step move with ⟨errand, number, frame, _, _, same⟩ | ⟨few, errands⟩
    · rw [same]
      show (w.errands ++ [_]).length = (w.crowd.race.callers ++ [_]).length
      rw [List.length_append, List.length_append, sound.numbered]
      rfl
    · rw [few, errands, sound.numbered]
  · intro n beyond
    refine (sound.step_of_nobody (List.getElem?_eq_none_iff.mpr ?_) move).1
    rcases w.arrivals_step move with ⟨errand, number, frame, _, _, same⟩ | ⟨few, _⟩
    · rw [same] at beyond
      have beyond : (w.crowd.race.callers ++ [_]).length ≤ n := beyond
      rw [List.length_append] at beyond
      omega
    · omega

end Office

end MarketLink.Session
