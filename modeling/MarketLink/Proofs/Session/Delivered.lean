import MarketLink.Proofs.Session.Inflow

set_option autoImplicit false

namespace MarketLink.Session.Inflow

open Wire

/-- Whoever holds the lock has been told of all that has come up where it has looked already. -/
structure Alert (w : Inflow) : Prop where
  queue : ∀ looking, w.holder = some looking → looking.isPastQueue = true → w.notified = false →
    w.link.arrived = [] ∧ w.link.reading = true
  fault : ∀ looking, w.holder = some looking → looking.isPastFault = true → w.notified = false →
    w.raised = false
  shutdown : ∀ looking, w.holder = some looking → looking.isPastShutdown = true →
    w.notified = false → w.link.shutdown = false

theorem not_told {w : Inflow} {looking : Looking} {looked : Looking → Bool}
    (quiet : (w.notify looked).notified = false) (held : w.holder = some looking)
    (past : looked looking = true) : False := by
  simp only [notify, held, Option.any_some, past, Bool.or_true, Bool.true_eq_false] at quiet

theorem quiet_of_notify {w : Inflow} {looked : Looking → Bool}
    (quiet : (w.notify looked).notified = false) : w.notified = false :=
  (Bool.or_eq_false_iff.mp quiet).1

theorem alert_of_free {w : Inflow} (free : w.holder = none) : w.Alert := by
  constructor <;>
    · intro looking held
      rw [free] at held
      cases held

theorem alert_go {w : Inflow} (alert : w.Alert) : w.go.Alert := by
  unfold go
  split
  · split
    · refine ⟨fun l held past quiet => ?_, fun l held past quiet => ?_,
        fun l held past quiet => ?_⟩
      · exact (not_told quiet held past).elim
      · exact alert.fault l held past (quiet_of_notify quiet)
      · exact alert.shutdown l held past (quiet_of_notify quiet)
    · exact ⟨alert.queue, alert.fault, alert.shutdown⟩
    · exact ⟨alert.queue, alert.fault, alert.shutdown⟩
  · rename_i failure _
    refine ⟨fun l held past quiet => ?_, alert.fault, fun l held past quiet => ?_⟩
    · have known := alert.queue l held past quiet
      unfold Link.raise
      split <;> exact known
    · have known := alert.shutdown l held past quiet
      unfold Link.raise
      split <;> exact known
  · refine ⟨fun l held past quiet => ?_, fun l held past quiet => ?_, fun l held past quiet => ?_⟩
    · exact alert.queue l held past (quiet_of_notify quiet)
    · exact (not_told quiet held past).elim
    · exact alert.shutdown l held past (quiet_of_notify quiet)
  · refine ⟨fun l held past quiet => ?_, fun l held past quiet => ?_, fun l held past quiet => ?_⟩
    · exact (not_told quiet held past).elim
    · exact alert.fault l held past (quiet_of_notify quiet)
    · exact alert.shutdown l held past (quiet_of_notify quiet)
  all_goals exact alert

theorem alert_look {w : Inflow} (alert : w.Alert) : w.look.Alert := by
  unfold look
  split
  · split
    · exact alert_of_free rfl
    · rename_i held _ empty
      split
      · rename_i reading
        refine ⟨fun _ _ _ _ => ⟨empty, reading⟩, ?_, ?_⟩ <;>
          · intro looking looks past
            cases looks
            cases past
      · exact alert_of_free rfl
  · rename_i held
    split
    · exact alert_of_free rfl
    · rename_i silent
      refine ⟨fun _ _ _ quiet => alert.queue _ held rfl quiet,
        fun _ _ _ _ => Bool.eq_false_iff.mpr silent, ?_⟩
      intro looking looks past
      cases looks
      cases past
  · rename_i held
    split
    · exact alert_of_free rfl
    · rename_i running
      exact ⟨fun _ _ _ quiet => alert.queue _ held rfl quiet,
        fun _ _ _ quiet => alert.fault _ held rfl quiet, fun _ _ _ _ =>
        Bool.eq_false_iff.mpr running⟩
  all_goals exact alert

/-- Nobody sleeps through anything: every move tells whoever has looked there before. -/
theorem alert_step {w : Inflow} (alert : w.Alert) (m : Move) : (w.step m).Alert := by
  cases m with
  | go => exact alert_go alert
  | look => exact alert_look alert
  | read bytes =>
    simp only [step]
    split <;> exact ⟨alert.queue, alert.fault, alert.shutdown⟩
  | finish finish =>
    simp only [step]
    split <;> exact ⟨alert.queue, alert.fault, alert.shutdown⟩
  | stop =>
    simp only [step]
    split
    · split <;> exact ⟨alert.queue, alert.fault, alert.shutdown⟩
    · exact alert
  | call =>
    simp only [step]
    split <;> exact ⟨alert.queue, alert.fault, alert.shutdown⟩
  | forgo =>
    simp only [step]
    split <;> exact ⟨alert.queue, alert.fault, alert.shutdown⟩
  | lock =>
    simp only [step]
    split
    · refine ⟨?_, ?_, ?_⟩ <;>
        · intro looking looks past
          cases looks
          cases past
    · exact alert
  | wake =>
    simp only [step]
    split
    · refine ⟨?_, ?_, ?_⟩ <;>
        · intro looking looks past
          cases looks
          cases past
    · exact alert
  | drop =>
    simp only [step]
    split
    · exact alert_of_free rfl
    · exact alert
  | failWriting failure =>
    refine ⟨fun l held past quiet => ?_, alert.fault, fun l held past quiet => ?_⟩
    · have known := alert.queue l held past quiet
      simp only [step, Link.raise]
      split <;> exact known
    · have known := alert.shutdown l held past quiet
      simp only [step, Link.raise]
      split <;> exact known
  | tellWriting =>
    simp only [step]
    split
    · exact ⟨fun l held past quiet => alert.queue l held past (quiet_of_notify quiet),
        fun l held past quiet => (not_told quiet held past).elim,
        fun l held past quiet => alert.shutdown l held past (quiet_of_notify quiet)⟩
    · exact alert
  | shut => exact ⟨alert.queue, alert.fault, alert.shutdown⟩
  | shutdown =>
    exact ⟨fun l held past quiet => alert.queue l held past (quiet_of_notify quiet),
      fun l held past quiet => alert.fault l held past (quiet_of_notify quiet),
      fun l held past quiet => (not_told quiet held past).elim⟩

theorem alert_run {w : Inflow} (alert : w.Alert) (moves : List Move) : (w.run moves).Alert := by
  induction moves generalizing w with
  | nil => exact alert
  | cons m rest ih => exact ih (alert_step alert m)

theorem fault_raise (l : Link) (failure : Failure) :
    (l.raise failure).fault = l.fault ∨
      l.fault = none ∧ (l.raise failure).fault = some failure ∧ failure.isCancellation = false := by
  unfold Link.raise
  split
  · exact Or.inl rfl
  · rename_i real
    cases fault : l.fault with
    | some older => exact Or.inl rfl
    | none => exact Or.inr ⟨rfl, rfl, Bool.eq_false_iff.mpr real⟩

/-- A move leaves the place of the fault as it is, or puts a failure that is no ending into the
empty place. -/
theorem fault_step (w : Inflow) (m : Move) :
    (w.step m).link.fault = w.link.fault ∨
      w.link.fault = none ∧
        ∃ failure, (w.step m).link.fault = some failure ∧ failure.isCancellation = false := by
  have raised (failure : Failure) := fault_raise w.link failure
  cases m with
  | go =>
    show w.go.link.fault = _ ∨ _ ∧ ∃ failure, w.go.link.fault = _ ∧ _
    unfold go
    split
    · split <;> exact Or.inl rfl
    · rename_i failure _
      exact (raised failure).imp_right fun ⟨empty, kept, real⟩ => ⟨empty, failure, kept, real⟩
    all_goals exact Or.inl rfl
  | failWriting failure =>
    exact (raised failure).imp_right fun ⟨empty, kept, real⟩ => ⟨empty, failure, kept, real⟩
  | look =>
    refine Or.inl ?_
    show w.look.link.fault = _
    unfold look
    split
    · split
      · rfl
      · split <;> rfl
    · split <;> rfl
    · split <;> rfl
    all_goals rfl
  | stop | tellWriting =>
    refine Or.inl ?_
    simp only [step]
    split
    · first | rfl | (split <;> rfl)
    · rfl
  | shut | shutdown => exact Or.inl rfl
  | read | finish | call | forgo | lock | wake | drop =>
    refine Or.inl ?_
    simp only [step]
    split <;> rfl

theorem fault_run (w : Inflow) (moves : List Move) {failure : Failure}
    (kept : w.link.fault = some failure) : (w.run moves).link.fault = some failure := by
  induction moves generalizing w with
  | nil => exact kept
  | cons m rest ih =>
    refine ih (w.step m) ?_
    rcases fault_step w m with same | ⟨empty, _⟩
    · exact same.trans kept
    · cases empty.symm.trans kept

/-- The place of the fault never holds an end that was asked for. -/
theorem real_run (w : Inflow) (moves : List Move)
    (real : ∀ failure, w.link.fault = some failure → failure.isCancellation = false)
    (failure : Failure) (kept : (w.run moves).link.fault = some failure) :
    failure.isCancellation = false := by
  induction moves generalizing w with
  | nil => exact real failure kept
  | cons m rest ih =>
    refine ih (w.step m) (fun newer found => ?_) kept
    rcases fault_step w m with same | ⟨_, raised, found', genuine⟩
    · exact real newer (same.symm.trans found)
    · cases found'.symm.trans found
      exact genuine

def AllCut (w : Inflow) : Prop := w.whole.frames = w.taken ++ w.link.arrived

/-- The reader is through: its failure is kept and told of, or it has none. -/
def Decided (w : Inflow) : Prop :=
  w.AllCut ∧
    (w.raised = true ∧ w.link.fault = w.verdict ∧ w.verdict.isSome = true ∨
      w.raised = false ∧ w.link.fault = none ∧ w.verdict = some .closed)

/-- Nothing has been raised yet, and the queue is open. -/
structure Silent (w : Inflow) : Prop where
  fault : w.link.fault = none
  raised : w.raised = false
  reading : w.link.reading = true

def Placed (w : Inflow) : Prop :=
  match w.reader with
  | .cutting => w.Silent ∧ w.finish = none
  | .awaiting => w.Silent ∧ w.finish = none ∧ splitFrame w.link.buffer = .ok none
  | .raising failure =>
    w.Silent ∧ w.AllCut ∧ w.verdict = some failure ∧ failure.isCancellation = false
  | .telling =>
    w.AllCut ∧ w.raised = false ∧ w.link.reading = true ∧ w.link.fault = w.verdict ∧
      w.verdict.isSome = true
  | .leaving => w.Decided ∧ w.link.reading = true
  | .gone => w.Decided ∧ w.link.reading = false

/-- What holds while neither the writer fails nor this side closes the link. -/
structure Sound (w : Inflow) : Prop where
  openGate : w.link.gate.closing = false
  running : w.link.shutdown = false
  writer : w.writerTelling = false
  cut : cutOnto (w.taken ++ w.link.arrived).reverse w.link.buffer = w.whole
  placed : w.Placed
  errors : ∀ failure, .error failure ∈ w.results → w.verdict = some failure ∧ w.Decided

theorem sound_start : Sound {} := by
  refine ⟨rfl, rfl, rfl, rfl, ⟨⟨rfl, rfl, rfl⟩, rfl⟩, nofun⟩

/-- A call that does something leaves what the reader sees. -/
structure OfCalls (w after : Inflow) : Prop where
  buffer : after.link.buffer = w.link.buffer
  reading : after.link.reading = w.link.reading
  fault : after.link.fault = w.link.fault
  shutdown : after.link.shutdown = w.link.shutdown
  closing : after.link.gate.closing = w.link.gate.closing
  reader : after.reader = w.reader
  raised : after.raised = w.raised
  writer : after.writerTelling = w.writerTelling
  read : after.read = w.read
  finish : after.finish = w.finish
  payloads : after.taken ++ after.link.arrived = w.taken ++ w.link.arrived

namespace OfCalls

variable {w after : Inflow}

theorem whole (calls : OfCalls w after) : after.whole = w.whole := congrArg cutFrames calls.read

theorem verdict (calls : OfCalls w after) : after.verdict = w.verdict := by
  unfold Inflow.verdict
  rw [calls.whole, calls.finish]

theorem allCut (calls : OfCalls w after) : after.AllCut ↔ w.AllCut := by
  unfold AllCut
  rw [calls.whole, calls.payloads]

theorem decided (calls : OfCalls w after) : after.Decided ↔ w.Decided := by
  unfold Decided
  rw [calls.allCut, calls.raised, calls.fault, calls.verdict]

theorem silent (calls : OfCalls w after) (silent : w.Silent) : after.Silent :=
  ⟨calls.fault.trans silent.fault, calls.raised.trans silent.raised,
    calls.reading.trans silent.reading⟩

theorem placed (calls : OfCalls w after) (placed : w.Placed) : after.Placed := by
  unfold Placed at placed ⊢
  rw [calls.reader]
  split at placed
  · exact ⟨calls.silent placed.1, calls.finish.trans placed.2⟩
  · obtain ⟨silent, finish, missing⟩ := placed
    exact ⟨calls.silent silent, calls.finish.trans finish, calls.buffer ▸ missing⟩
  · obtain ⟨silent, all, verdict, real⟩ := placed
    exact ⟨calls.silent silent, calls.allCut.mpr all, calls.verdict.trans verdict, real⟩
  · obtain ⟨all, raised, reading, fault, some⟩ := placed
    rw [calls.raised, calls.reading, calls.fault, calls.verdict]
    exact ⟨calls.allCut.mpr all, raised, reading, fault, some⟩
  all_goals exact ⟨calls.decided.mpr placed.1, calls.reading.trans placed.2⟩

/-- What calls do keeps what holds, if the failures that they return are the one with which reading
has ended. -/
theorem sound (calls : OfCalls w after) (sound : w.Sound)
    (errors : ∀ failure, .error failure ∈ after.results → .error failure ∈ w.results ∨
      w.verdict = some failure ∧ w.Decided) : after.Sound where
  openGate := calls.closing.trans sound.openGate
  running := calls.shutdown.trans sound.running
  writer := calls.writer.trans sound.writer
  cut := by rw [calls.payloads, calls.buffer, calls.whole, sound.cut]
  placed := calls.placed sound.placed
  errors failure returned := by
    rw [calls.verdict, calls.decided]
    exact (errors failure returned).elim (sound.errors failure) id

end OfCalls

variable {w : Inflow}

/-- While the stream goes on, reading has ended with no failure but that of a bad length. -/
theorem verdict_of_open (goesOn : w.finish = none) : w.verdict ≠ some .closed := by
  intro closed
  unfold verdict at closed
  rw [goesOn] at closed
  split at closed <;> cases closed

theorem not_decided_of_open (silent : w.Silent) (goesOn : w.finish = none) : ¬ w.Decided := by
  rintro ⟨-, ⟨raised, -⟩ | ⟨-, -, closed⟩⟩
  · cases silent.raised.symm.trans raised
  · exact verdict_of_open goesOn closed

theorem no_errors (sound : w.Sound) (underway : ¬ w.Decided) (failure : Failure) :
    .error failure ∉ w.results :=
  fun returned => underway (sound.errors failure returned).2

theorem whole_of_missing (sound : w.Sound) (missing : splitFrame w.link.buffer = .ok none) :
    w.whole = ⟨w.taken ++ w.link.arrived, w.link.buffer, none⟩ := by
  rw [← sound.cut, cutOnto_of_none missing, List.reverse_reverse]

theorem whole_of_refused (sound : w.Sound) {e : WireError}
    (refused : splitFrame w.link.buffer = .error e) :
    w.whole = ⟨w.taken ++ w.link.arrived, w.link.buffer, some e⟩ := by
  rw [← sound.cut, cutOnto_of_error refused, List.reverse_reverse]

theorem sound_cut (sound : w.Sound) (cutting : w.reader = .cutting) : w.go.Sound := by
  have placed := sound.placed
  unfold Placed at placed
  rw [cutting] at placed
  obtain ⟨silent, goesOn⟩ := placed
  have none := no_errors sound (not_decided_of_open silent goesOn)
  rcases found : splitFrame w.link.buffer with e | _ | ⟨payload, rest⟩
  · have whole := whole_of_refused sound found
    have all : w.AllCut := congrArg Cut.frames whole
    have verdict : w.verdict = some (.protocol e) := by
      unfold Inflow.verdict
      rw [whole]
    rw [go_of_refused cutting found]
    exact ⟨sound.openGate, sound.running, sound.writer, sound.cut,
      ⟨⟨silent.fault, silent.raised, silent.reading⟩, all, verdict, rfl⟩,
      fun failure returned => absurd returned (none failure)⟩
  · rw [go_of_missing cutting found]
    exact ⟨sound.openGate, sound.running, sound.writer, sound.cut,
      ⟨⟨silent.fault, silent.raised, silent.reading⟩, goesOn, found⟩,
      fun failure returned => absurd returned (none failure)⟩
  · rw [go_of_frame cutting found]
    refine ⟨sound.openGate, sound.running, sound.writer, ?_, ?_,
      fun failure returned => absurd returned (none failure)⟩
    · show cutOnto (w.taken ++ (w.link.arrived ++ [payload])).reverse rest = w.whole
      rw [← List.append_assoc, List.reverse_append, List.reverse_singleton,
        List.singleton_append, ← cutOnto_of_frame found, sound.cut]
    · simp only [Placed, notify, cutting]
      exact ⟨⟨silent.fault, silent.raised, silent.reading⟩, goesOn⟩

theorem sound_keep (sound : w.Sound) {failure : Failure} (raising : w.reader = .raising failure) :
    w.go.Sound := by
  have placed := sound.placed
  unfold Placed at placed
  rw [raising] at placed
  obtain ⟨silent, all, verdict, real⟩ := placed
  have none : ∀ failure, .error failure ∉ w.results := by
    refine no_errors sound ?_
    rintro ⟨-, ⟨raised, -⟩ | ⟨-, -, closed⟩⟩
    · cases silent.raised.symm.trans raised
    · cases verdict.symm.trans closed
      cases real
  have kept : w.link.raise failure = { w.link with fault := some failure } := by
    rw [Link.raise, real, silent.fault]
    rfl
  unfold go
  rw [raising]
  simp only [kept, silent.fault, real, Option.isNone_none, Bool.not_false, Bool.and_self,
    ↓reduceIte]
  refine ⟨sound.openGate, sound.running, sound.writer, sound.cut,
    ⟨all, silent.raised, silent.reading, verdict.symm, ?_⟩,
    fun failure returned => absurd returned (none failure)⟩
  show w.verdict.isSome = true
  rw [verdict, Option.isSome_some]

theorem sound_tell (sound : w.Sound) (telling : w.reader = .telling) : w.go.Sound := by
  have placed := sound.placed
  unfold Placed at placed
  rw [telling] at placed
  obtain ⟨all, silent, reading, fault, some⟩ := placed
  have none : ∀ failure, .error failure ∉ w.results := by
    refine no_errors sound ?_
    rintro ⟨-, ⟨raised, -⟩ | ⟨-, empty, -⟩⟩
    · cases silent.symm.trans raised
    · rw [← fault, empty] at some
      cases some
  unfold go
  rw [telling]
  exact ⟨sound.openGate, sound.running, sound.writer, sound.cut,
    ⟨⟨all, Or.inl ⟨rfl, fault, some⟩⟩, reading⟩,
    fun failure returned => absurd returned (none failure)⟩

theorem sound_leave (sound : w.Sound) (leaving : w.reader = .leaving) : w.go.Sound := by
  have placed := sound.placed
  unfold Placed at placed
  rw [leaving] at placed
  rw [go_of_leaving leaving]
  exact ⟨sound.openGate, sound.running, sound.writer, sound.cut, ⟨placed.1, rfl⟩, sound.errors⟩

theorem sound_go (sound : w.Sound) : w.go.Sound := by
  cases reader : w.reader with
  | cutting => exact sound_cut sound reader
  | raising failure => exact sound_keep sound reader
  | telling => exact sound_tell sound reader
  | leaving => exact sound_leave sound reader
  | awaiting | gone =>
    have same : w.go = w := by
      unfold go
      rw [reader]
    rw [same]
    exact sound

/-- The frames of what was read before and of what comes in behind it. -/
theorem sound_read (sound : w.Sound) (bytes : Bytes) : (w.step (.read bytes)).Sound := by
  have placed := sound.placed
  unfold Placed at placed
  simp only [step]
  split
  · rename_i awaiting
    rw [awaiting] at placed
    obtain ⟨silent, goesOn, missing⟩ := placed
    have none := no_errors sound (not_decided_of_open silent goesOn)
    refine ⟨sound.openGate, sound.running, sound.writer, ?_,
      ⟨⟨silent.fault, silent.raised, silent.reading⟩, goesOn⟩,
      fun failure returned => absurd returned (none failure)⟩
    have onward := cutOnto_append [] w.read bytes
    rw [← cutFrames, ← cutFrames, ← whole, whole_of_missing sound missing] at onward
    exact onward.symm
  · exact sound

theorem sound_finish (sound : w.Sound) (finish : Finish) : (w.step (.finish finish)).Sound := by
  have placed := sound.placed
  unfold Placed at placed
  simp only [step]
  split
  · rename_i awaiting
    rw [awaiting] at placed
    obtain ⟨silent, goesOn, missing⟩ := placed
    have none := no_errors sound (not_decided_of_open silent goesOn)
    have whole := whole_of_missing sound missing
    have all : w.AllCut := congrArg Cut.frames whole
    refine ⟨sound.openGate, sound.running, sound.writer, sound.cut, ?_,
      fun failure returned => absurd returned (none failure)⟩
    let met : Inflow := { w with reader := finish.reader w.link, finish := some finish }
    have fails (fault : IoFault) (raising : met.reader = .raising (.io fault))
        (verdict : met.verdict = some (.io fault)) : met.Placed := by
      unfold Placed
      rw [raising]
      exact ⟨⟨silent.fault, silent.raised, silent.reading⟩, all, verdict, rfl⟩
    cases finish with
    | ended =>
      have verdict : met.verdict =
          some (if w.link.buffer.isEmpty then .closed else .io (.ofKind .unexpectedEof)) := by
        unfold Inflow.verdict
        rw [show met.whole = w.whole from rfl, whole]
      by_cases empty : w.link.buffer.isEmpty = true
      · show met.Placed
        unfold Placed
        rw [show met.reader = .leaving from if_pos empty]
        rw [if_pos empty] at verdict
        exact ⟨⟨all, Or.inr ⟨silent.raised, silent.fault, verdict⟩⟩, silent.reading⟩
      · rw [if_neg empty] at verdict
        exact fails _ (if_neg empty) verdict
    | failed fault =>
      refine fails fault (if_neg (by rw [sound.running]; decide)) ?_
      unfold Inflow.verdict
      rw [show met.whole = w.whole from rfl, whole]
  · exact sound

theorem ofCalls_refuse (w : Inflow) (failure : Failure) :
    OfCalls w (w.giveBack (.error failure)) := by
  refine ⟨rfl, rfl, rfl, rfl, rfl, rfl, rfl, rfl, rfl, rfl, ?_⟩
  show (w.results ++ [Except.error failure]).filterMap Except.toOption ++ w.link.arrived = _
  rw [List.filterMap_append]
  exact congrArg (· ++ w.link.arrived) (List.append_nil _)

/-- A call that takes a payload has it next behind those that were taken before. -/
theorem ofCalls_take {payload : Bytes} {rest : List Bytes}
    (queued : w.link.arrived = payload :: rest) :
    OfCalls w ({ w with link := { w.link with arrived := rest } }.giveBack (.ok payload)) := by
  refine ⟨rfl, rfl, rfl, rfl, rfl, rfl, rfl, rfl, rfl, rfl, ?_⟩
  show (w.results ++ [Except.ok payload]).filterMap Except.toOption ++ rest = _
  rw [List.filterMap_append, List.append_assoc, queued]
  rfl

theorem decided_of_raised (sound : w.Sound) (raised : w.raised = true) : w.Decided := by
  have placed := sound.placed
  unfold Placed at placed
  split at placed
  · cases placed.1.raised.symm.trans raised
  · cases placed.1.raised.symm.trans raised
  · cases placed.1.raised.symm.trans raised
  · cases placed.2.1.symm.trans raised
  all_goals exact placed.1

theorem decided_of_ended (sound : w.Sound) (ended : w.link.reading = false) : w.Decided := by
  have placed := sound.placed
  unfold Placed at placed
  split at placed
  · cases placed.1.reading.symm.trans ended
  · cases placed.1.reading.symm.trans ended
  · cases placed.1.reading.symm.trans ended
  · cases placed.2.2.1.symm.trans ended
  all_goals exact placed.1

/-- Where the reader is through, a call that has nothing to take returns its verdict. -/
theorem verdict_of_decided (decided : w.Decided) :
    w.verdict = some (w.link.fault.getD .closed) := by
  obtain ⟨-, ⟨-, fault, some⟩ | ⟨-, fault, closed⟩⟩ := decided
  · obtain ⟨failure, verdict⟩ := Option.isSome_iff_exists.mp some
    rw [fault, verdict, Option.getD_some]
  · rw [fault, closed, Option.getD_none]

theorem look_cases (sound : w.Sound) :
    (∃ payload rest, w.holder = some .atQueue ∧ w.link.arrived = payload :: rest ∧
      w.look = { w with link := { w.link with arrived := rest } }.giveBack (.ok payload)) ∨
    (w.Decided ∧ w.look = w.giveBack (.error (w.link.fault.getD .closed)) ∧
      (w.link.arrived = [] ∨ w.holder = some .atFault ∧ w.raised = true)) ∨
    (∃ holder, w.look = { w with holder }) ∧ ¬ (w.holder = some .atFault ∧ w.raised = true) := by
  unfold look
  split
  · rename_i held
    have early : ¬ (w.holder = some .atFault ∧ w.raised = true) :=
      fun ⟨late, _⟩ => by cases held.symm.trans late
    split
    · rename_i payload rest queued
      exact Or.inl ⟨payload, rest, held, queued, rfl⟩
    · rename_i empty
      split
      · exact Or.inr (Or.inr ⟨⟨_, rfl⟩, early⟩)
      · rename_i ended
        exact Or.inr (Or.inl
          ⟨decided_of_ended sound (Bool.eq_false_iff.mpr ended), rfl, Or.inl empty⟩)
  · rename_i held
    split
    · rename_i raised
      exact Or.inr (Or.inl ⟨decided_of_raised sound raised, rfl, Or.inr ⟨held, raised⟩⟩)
    · rename_i silent
      exact Or.inr (Or.inr ⟨⟨_, rfl⟩, fun ⟨_, raised⟩ => silent raised⟩)
  · rename_i held
    rw [sound.running]
    exact Or.inr (Or.inr ⟨⟨_, rfl⟩, fun ⟨late, _⟩ => by cases held.symm.trans late⟩)
  all_goals
    rename_i held
    exact Or.inr (Or.inr ⟨⟨_, rfl⟩, fun ⟨late, _⟩ => by cases held.symm.trans late⟩)

theorem sound_look (sound : w.Sound) : w.look.Sound := by
  rcases look_cases sound with ⟨payload, rest, -, queued, same⟩ | ⟨decided, same, -⟩ |
    ⟨⟨holder, same⟩, -⟩
  · rw [same]
    refine (ofCalls_take queued).sound sound fun failure returned => Or.inl ?_
    rcases List.mem_append.mp returned with before | new
    · exact before
    · cases List.mem_singleton.mp new
  · rw [same]
    refine (ofCalls_refuse w _).sound sound fun failure returned => ?_
    rcases List.mem_append.mp returned with before | new
    · exact Or.inl before
    · cases List.mem_singleton.mp new
      exact Or.inr ⟨verdict_of_decided decided, decided⟩
  · have calls : OfCalls w { w with holder } :=
      ⟨rfl, rfl, rfl, rfl, rfl, rfl, rfl, rfl, rfl, rfl, rfl⟩
    rw [same]
    exact calls.sound sound fun failure returned => Or.inl returned

theorem sound_step (sound : w.Sound) {m : Move} (peaceful : m.isPeaceful = true) :
    (w.step m).Sound := by
  -- a call that comes, goes or waits returns nothing
  have coming {after : Inflow} (calls : OfCalls w after) (same : after.results = w.results) :
      after.Sound :=
    calls.sound sound fun failure returned => Or.inl (same ▸ returned)
  cases m with
  | read bytes => exact sound_read sound bytes
  | finish finish => exact sound_finish sound finish
  | go => exact sound_go sound
  | look => exact sound_look sound
  | stop =>
    simp only [step, sound.running, Bool.false_eq_true, ↓reduceIte]
    split <;> exact sound
  | call =>
    simp only [step, Gate.acquire, sound.openGate, Bool.false_eq_true, ↓reduceIte]
    exact coming ⟨rfl, rfl, rfl, rfl, sound.openGate.symm, rfl, rfl, rfl, rfl, rfl, rfl⟩ rfl
  | forgo | lock | wake | drop =>
    simp only [step]
    split <;> exact coming ⟨rfl, rfl, rfl, rfl, rfl, rfl, rfl, rfl, rfl, rfl, rfl⟩ rfl
  | failWriting | tellWriting | shut | shutdown => cases peaceful

theorem sound_run (sound : w.Sound) {moves : List Move}
    (peaceful : ∀ m ∈ moves, m.isPeaceful = true) : (w.run moves).Sound := by
  induction moves generalizing w with
  | nil => exact sound
  | cons m rest ih =>
    exact ih (sound_step sound (peaceful m (List.mem_cons_self ..)))
      fun other member => peaceful other (List.mem_cons_of_mem _ member)

end MarketLink.Session.Inflow
