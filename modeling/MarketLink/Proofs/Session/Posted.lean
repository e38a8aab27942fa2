import MarketLink.Proofs.Session.Errand
import MarketLink.Proofs.Session.Written

set_option autoImplicit false

namespace MarketLink.Session

open Correlation Message Wire

namespace Link

/-- The bytes on the wire are these; or the writer has stopped, and has written no others. -/
def Carries (l : Link) (bytes : Bytes) : Prop :=
  l.wire = bytes ∨ l.writing = .stopped ∧ l.written <+: bytes

/-- Nothing is queued, and a writer that has stopped writes nothing more. -/
structure Passed (l after : Link) : Prop where
  wire : after.wire = l.wire
  stopped : l.writing = .stopped → after.writing = .stopped ∧ after.written = l.written

theorem Passed.refl (l : Link) : Passed l l := ⟨rfl, fun stopped => ⟨stopped, rfl⟩⟩

theorem Passed.trans {first second third : Link} (before : Passed first second)
    (next : Passed second third) : Passed first third := by
  refine ⟨next.wire.trans before.wire, fun stopped => ?_⟩
  obtain ⟨still, same⟩ := before.stopped stopped
  obtain ⟨yet, also⟩ := next.stopped still
  exact ⟨yet, also.trans same⟩

theorem Passed.carries {l after : Link} (passed : Passed l after) {bytes : Bytes}
    (carries : l.Carries bytes) : after.Carries bytes := by
  rcases carries with whole | ⟨stopped, ahead⟩
  · exact Or.inl (passed.wire.trans whole)
  · obtain ⟨still, same⟩ := passed.stopped stopped
    exact Or.inr ⟨still, same ▸ ahead⟩

theorem Carries.written_prefix {l : Link} {bytes : Bytes} (carries : l.Carries bytes) :
    l.written <+: bytes := by
  rcases carries with whole | ⟨_, ahead⟩
  · exact ⟨l.outbound, whole⟩
  · exact ahead

theorem passed_startWriting (l : Link) : Passed l l.startWriting := by
  unfold startWriting
  split
  · rename_i rests
    exact ⟨rfl, fun stopped => by cases rests.1.symm.trans stopped⟩
  · exact Passed.refl l

theorem passed_startLastWriting (l : Link) : Passed l l.startLastWriting := by
  unfold startLastWriting
  split
  · rename_i rests
    exact ⟨rfl, fun stopped => by cases rests.1.symm.trans stopped⟩
  · exact Passed.refl l

theorem passed_writeChunk (l : Link) : Passed l l.writeChunk := by
  refine ⟨(written_writeChunk l).wire, fun stopped => ?_⟩
  rw [writeChunk, stopped]
  exact ⟨stopped, rfl⟩

theorem Carries.write {l : Link} {bytes : Bytes} (carries : l.Carries bytes) (stroke : Stroke) :
    (l.write stroke).Carries bytes := by
  cases stroke with
  | wake => exact (passed_startWriting l).carries carries
  | wakeLast => exact (passed_startLastWriting l).carries carries
  | chunk => exact (passed_writeChunk l).carries carries
  | fault count fault? =>
    have ahead := carries.written_prefix
    cases writing : l.writing with
    | resting | stopped => simpa [Link.write, writeFault, writing] using carries
    | draining last =>
      have whole : l.wire = bytes := carries.resolve_right fun stopped => by
        cases writing.symm.trans stopped.1
      have part : l.written ++ (l.outbound.take chunkLimit).take count <+: bytes := by
        rw [← whole, wire]
        exact List.prefix_append_right_inj _ |>.mpr
          ((List.take_prefix _ _).trans (List.take_prefix _ _))
      have stopped : (l.writeFault count (writeFailure fault?)).writing = .stopped ∧
          (l.writeFault count (writeFailure fault?)).written =
            l.written ++ (l.outbound.take chunkLimit).take count := by
        unfold writeFault
        rw [writing]
        cases last with
        | true => exact ⟨rfl, rfl⟩
        | false =>
          have kept := readOn_raise
          exact ⟨(kept _ _).writing, (kept _ _).written⟩
      exact Or.inr ⟨stopped.1, stopped.2 ▸ part⟩

theorem send_cases (l : Link) (frame : Bytes) :
    (∃ failure, l.send frame = (l, .error failure)) ∨
      l.send frame = ({ l with outbound := l.outbound ++ frame, woken := true }, .ok ()) := by
  unfold Link.send
  split
  · exact Or.inl ⟨_, rfl⟩
  · split
    · exact Or.inl ⟨_, rfl⟩
    · exact Or.inr rfl

end Link

theorem send_cases (s : Session) (frame : Bytes) :
    (∃ failure, s.send frame = (s, .error failure)) ∨
      s.send frame = ({ s with
        link := { s.link with outbound := s.link.outbound ++ frame, woken := true } }, .ok ()) := by
  unfold Session.send
  split
  · rcases s.link.send_cases frame with ⟨failure, same⟩ | same <;> rw [same]
    · exact Or.inl ⟨failure, rfl⟩
    · exact Or.inr rfl
  · exact Or.inl ⟨_, rfl⟩

namespace Office

def Move.isFault : Move → Bool
  | .write (.fault _ _) => true
  | _ => false

variable {w : Office}

theorem link_turn (c : Caller) (s : Session) (n : Nat) :
    (c.turn s n).1.link = match c.stance with
      | .registered => (s.send c.frame).1.link
      | .telling (some note) => (s.send note).1.link
      | _ => s.link := by
  unfold Caller.turn
  cases c.stance with
  | fresh =>
    unfold Session.register
    dsimp only
    rcases s.table.register n with ⟨table, failure | ⟨⟩⟩ <;> rfl
  | registered =>
    dsimp only
    rcases s.send c.frame with ⟨after, failure | ⟨⟩⟩ <;> rfl
  | telling note => cases note <;> rfl
  | refused | waiting | leaving _ _ | ending _ _ | gone => rfl

theorem session_step_turn {n : Nat} {c : Caller} (there : w.caller? n = some c) :
    (w.step (.turn n)).session = (c.turn w.session n).1 := by
  show (w.crowd.race.step (.turn n)).session = _
  have there : w.crowd.race.callers[n]? = some c := there
  rw [Race.step, there]
  rfl

end Office

end MarketLink.Session
