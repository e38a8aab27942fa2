import MarketLink.Proofs.Session.Race

set_option autoImplicit false

namespace MarketLink.Session

open Correlation Time Wire

def Kept (t : Table) (owed : List Nat) (n : Nat) : Prop :=
  (t.outcome? n).isSome = true ∨ n ∈ t.pending ∨ n ∈ owed

/-- What holds of the caller of request `n` between steps. Once the table has been emptied, only a
caller that is yet to take its request back can have it in the table. -/
def Stance.Safe (t : Table) (owed : List Nat) (swept : Bool) (n : Nat) : Stance → Prop
  | .fresh | .refused => n ∉ t.pending
  | .registered => Kept t owed n
  | .waiting => Kept t owed n ∧ (swept = true → n ∉ t.pending)
  | .leaving _ _ => True
  | .ending _ _ => swept = true → n ∉ t.pending
  | .telling _ | .gone => (t.outcome? n).isSome = true ∧ (swept = true → n ∉ t.pending)

def Loop.owed (l : Loop) : List Nat := l.task.endings.map Prod.fst

/-- The link leaves its place before the table is emptied. -/
theorem Loop.isDetached_of_isSwept {l : Loop} (swept : l.isSwept = true) : l.isDetached = true := by
  cases l with
  | failing _ _ | lost => rfl
  | serving _ | noting _ | signalling _ | detaching _ | closing _ | clearing _ => cases swept

/-- A caller only looks at its own request. -/
theorem Stance.Safe.congr {t after : Table} {owed : List Nat} {swept : Bool} {n : Nat}
    {stance : Stance} (safe : stance.Safe t owed swept n)
    (outcome : after.outcome? n = t.outcome? n) (pending : n ∈ after.pending ↔ n ∈ t.pending) :
    stance.Safe after owed swept n := by
  unfold Stance.Safe Kept at *
  rw [outcome, pending]
  exact safe

theorem Stance.Safe.mono {t after : Table} {owed left : List Nat} {swept swept' : Bool} {n : Nat}
    {stance : Stance} (safe : stance.Safe t owed swept n)
    (ended : (t.outcome? n).isSome = true → (after.outcome? n).isSome = true)
    (shrinks : n ∈ after.pending → n ∈ t.pending) (kept : Kept t owed n → Kept after left n)
    (emptied : swept' = true → swept = true ∨ after.pending = []) :
    stance.Safe after left swept' n := by
  have out : (swept = true → n ∉ t.pending) → swept' = true → n ∉ after.pending := by
    intro before now member
    rcases emptied now with already | blank
    · exact before already (shrinks member)
    · rw [blank] at member
      cases member
  cases stance with
  | fresh | refused => exact fun member => safe (shrinks member)
  | registered => exact kept safe
  | waiting => exact ⟨kept safe.1, out safe.2⟩
  | leaving _ _ => exact trivial
  | ending _ _ => exact out safe
  | telling _ | gone => exact ⟨ended safe.1, out safe.2⟩

namespace Race

/-- What holds between any two steps. -/
structure Sound (w : Race) : Prop where
  filed : w.session.table.Filed
  numbered : w.callers.length = w.session.table.requests.length
  created : ∀ n ∈ w.session.table.pending, n < w.session.table.requests.length
  subjects : ∀ n ∈ w.loop.task.subjects, n < w.session.table.requests.length
  promised : ∀ n, w.loop.task.leaving? = some n → n ∈ w.loop.owed
  detached : w.loop.isDetached = true → w.session.attached = false
  safe : ∀ n (c : Caller), w.callers[n]? = some c →
    c.stance.Safe w.session.table w.loop.owed w.loop.isSwept n

/-- A session in which nobody has asked for anything yet; for the rest it may be in any state. -/
def opened (s : Session) (firstId : Int) : Race :=
  { session := { s with table := Table.empty.seed firstId } }

theorem sound_opened (s : Session) (firstId : Int) : (opened s firstId).Sound := by
  refine ⟨Table.filed_empty _ rfl rfl, rfl, ?_, ?_, ?_, ?_, ?_⟩
  · intro n member
    cases member
  · intro n member
    cases member
  · intro n leaving
    cases leaving
  · intro detached
    cases detached
  · intro n c there
    cases there

theorem Sound.inside {w : Race} (sound : w.Sound) {n : Nat} {c : Caller}
    (there : w.callers[n]? = some c) : n < w.session.table.requests.length := by
  rw [← sound.numbered]
  exact (List.getElem?_eq_some_iff.mp there).1

theorem Sound.of_caller {w : Race} (sound : w.Sound) {n : Nat} {c : Caller}
    (there : w.callers[n]? = some c) {session : Session} {stance : Stance}
    (filed : session.table.Filed)
    (length : session.table.requests.length = w.session.table.requests.length)
    (outcomes : ∀ m, m ≠ n → session.table.outcome? m = w.session.table.outcome? m)
    (pending : ∀ m, m ≠ n → (m ∈ session.table.pending ↔ m ∈ w.session.table.pending))
    (attached : session.attached = w.session.attached)
    (safe : stance.Safe session.table w.loop.owed w.loop.isSwept n) :
    (w.place n c session stance).Sound := by
  refine ⟨filed, ?_, ?_, ?_, sound.promised, ?_, ?_⟩
  · show (w.callers.set n _).length = session.table.requests.length
    rw [List.length_set, length]
    exact sound.numbered
  · intro m member
    show m < session.table.requests.length
    rw [length]
    by_cases own : m = n
    · rw [own]
      exact sound.inside there
    · exact sound.created m ((pending m own).mp member)
  · intro m subject
    show m < session.table.requests.length
    rw [length]
    exact sound.subjects m subject
  · intro detached
    exact attached.trans (sound.detached detached)
  · intro m other found
    rw [callers_place there] at found
    split at found
    · rename_i own
      cases found
      exact own ▸ safe
    · rename_i different
      have apart : m ≠ n := fun same => different same.symm
      exact (sound.safe m other found).congr (outcomes m apart) (pending m apart)

theorem Sound.of_loop {w : Race} (sound : w.Sound) {session : Session} (loop : Loop)
    (filed : session.table.Filed)
    (length : session.table.requests.length = w.session.table.requests.length)
    (shrinks : ∀ n ∈ session.table.pending, n ∈ w.session.table.pending)
    (ended : ∀ n, (w.session.table.outcome? n).isSome = true →
      (session.table.outcome? n).isSome = true)
    (kept : ∀ n, Kept w.session.table w.loop.owed n → Kept session.table loop.owed n)
    (subjects : ∀ n ∈ loop.task.subjects, n < w.session.table.requests.length)
    (promised : ∀ n, loop.task.leaving? = some n → n ∈ loop.owed)
    (detached : loop.isDetached = true → session.attached = false)
    (emptied : loop.isSwept = true → w.loop.isSwept = true ∨ session.table.pending = []) :
    Sound { w with session, loop } := by
  refine ⟨filed, ?_, ?_, ?_, promised, detached, ?_⟩
  · show w.callers.length = session.table.requests.length
    rw [length]
    exact sound.numbered
  · intro n member
    show n < session.table.requests.length
    rw [length]
    exact sound.created n (shrinks n member)
  · intro n subject
    show n < session.table.requests.length
    rw [length]
    exact subjects n subject
  · intro n c there
    exact (sound.safe n c there).mono (ended n) (shrinks n) (kept n) emptied

/-- A step that leaves the table and owes nothing more. -/
theorem Sound.of_same_table {w : Race} (sound : w.Sound) {session : Session} (loop : Loop)
    (same : session.table = w.session.table) (task : loop.task = w.loop.task)
    (detached : loop.isDetached = true → session.attached = false)
    (emptied : loop.isSwept = true → w.loop.isSwept = true) :
    Sound { w with session, loop } := by
  have owed : loop.owed = w.loop.owed := by rw [Loop.owed, task, Loop.owed]
  refine sound.of_loop loop ?_ ?_ ?_ ?_ ?_ ?_ ?_ detached fun now => Or.inl (emptied now)
  · rw [same]
    exact sound.filed
  · rw [same]
  · intro n member
    rw [← same]
    exact member
  · intro n ended
    rw [same]
    exact ended
  · intro n kept
    rw [same, owed]
    exact kept
  · rw [task]
    exact sound.subjects
  · rw [task, owed]
    exact sound.promised

theorem Sound.work {w : Race} (sound : w.Sound) (loop : Loop)
    (left : loop.task = (Loop.work w.session w.loop.task).2)
    (detached : loop.isDetached = true → w.loop.isDetached = true)
    (emptied : loop.isSwept = true →
      w.loop.isSwept = true ∨ (Loop.work w.session w.loop.task).1.table.pending = []) :
    Sound { w with session := (Loop.work w.session w.loop.task).1, loop } := by
  have progress := w.loop.task.progress sound.filed sound.subjects
  have owed : loop.owed = (w.loop.task.advance w.session.table).2.1.endings.map Prod.fst := by
    rw [Loop.owed, left, Loop.work]
  have ended := fun n => Table.ended_of_kept (progress.outcomes n)
  refine sound.of_loop loop progress.filed progress.length progress.shrinks ended ?_ ?_ ?_
    (fun now => sound.detached (detached now)) emptied
  · have carried : ∀ n ∈ w.loop.owed,
        Kept (w.loop.task.advance w.session.table).1 loop.owed n := by
      intro n member
      rcases progress.owed n member with done | still
      · exact Or.inl done
      · exact Or.inr (Or.inr (owed ▸ still))
    rintro n (done | pending | member)
    · exact Or.inl (ended n done)
    · rcases progress.stays n pending with stays | leaving | found
      · exact Or.inr (Or.inl stays)
      · exact carried n (sound.promised n leaving)
      · exact Or.inr (Or.inr (owed ▸ found))
    · exact carried n member
  · intro n subject
    rw [left] at subject
    rcases progress.subjects n subject with known | pending
    · exact sound.subjects n known
    · exact sound.created n pending
  · intro n leaving
    rw [left] at leaving
    rw [owed]
    exact progress.promised n leaving

end Race

end MarketLink.Session
