import MarketLink.Proofs.Session.Delivered

set_option autoImplicit false

namespace MarketLink.Session.Inflow

open Wire

variable {w : Inflow}

/-- A call has found the queue empty, and now finds a fault in front of payloads. -/
def Overtakes (w : Inflow) : Prop :=
  w.holder = some .atFault ∧ w.raised = true ∧ w.link.arrived ≠ []

/-- No failure has come before a payload, and none before one that is still in the queue. -/
def InOrder (w : Inflow) : Prop :=
  w.results.Pairwise (fun earlier later => later.isOk = true → earlier.isOk = true) ∧
    ∀ failure, .error failure ∈ w.results → w.link.arrived = []

theorem inOrder_of_same {after : Inflow} (results : after.results = w.results)
    (arrived : after.link.arrived = w.link.arrived) : after.InOrder ↔ w.InOrder := by
  unfold InOrder
  rw [results, arrived]

/-- A payload comes in order exactly when no failure came before it. -/
theorem inOrder_take {payload : Bytes} {rest : List Bytes}
    (queued : w.link.arrived = payload :: rest) :
    ({ w with link := { w.link with arrived := rest } }.giveBack (.ok payload)).InOrder ↔
      w.InOrder := by
  have filled : w.link.arrived ≠ [] := by
    rw [queued]
    exact List.cons_ne_nil _ _
  unfold InOrder
  show (w.results ++ [Except.ok payload]).Pairwise _ ∧
    (∀ failure, .error failure ∈ w.results ++ [Except.ok payload] → rest = []) ↔ _
  rw [List.pairwise_append]
  constructor
  · rintro ⟨⟨pairs, -, before⟩, -⟩
    refine ⟨pairs, fun failure returned => ?_⟩
    cases before _ returned _ (List.mem_singleton_self _) rfl
  · rintro ⟨pairs, none⟩
    have good : ∀ result ∈ w.results, result.isOk = true := by
      intro result returned
      cases result with
      | ok => rfl
      | error failure => exact absurd (none failure returned) filled
    refine ⟨⟨pairs, List.pairwise_singleton _ _, fun result returned _ _ _ => good result returned⟩,
      fun failure returned => ?_⟩
    rcases List.mem_append.mp returned with before | new
    · cases good _ before
    · cases List.mem_singleton.mp new

/-- A failure comes in order exactly when nothing is left in the queue. -/
theorem inOrder_refuse (failure : Failure) :
    (w.giveBack (.error failure)).InOrder ↔ w.InOrder ∧ w.link.arrived = [] := by
  unfold InOrder
  show (w.results ++ [Except.error failure]).Pairwise _ ∧
    (∀ other, .error other ∈ w.results ++ [Except.error failure] → w.link.arrived = []) ↔ _
  rw [List.pairwise_append]
  constructor
  · rintro ⟨⟨pairs, -, -⟩, none⟩
    have empty := none failure (List.mem_append_right _ (List.mem_singleton_self _))
    exact ⟨⟨pairs, fun _ _ => empty⟩, empty⟩
  · rintro ⟨⟨pairs, -⟩, empty⟩
    refine ⟨⟨pairs, List.pairwise_singleton _ _, fun _ _ result new good => ?_⟩, fun _ _ => empty⟩
    cases List.mem_singleton.mp new
    cases good

theorem inOrder_look (sound : w.Sound) : w.look.InOrder ↔ w.InOrder ∧ ¬ w.Overtakes := by
  rcases look_cases sound with ⟨payload, rest, held, queued, same⟩ | ⟨-, same, stands⟩ |
    ⟨⟨holder, same⟩, early⟩
  · have early : ¬ w.Overtakes := fun late => by cases held.symm.trans late.1
    rw [same, inOrder_take queued]
    exact ⟨fun kept => ⟨kept, early⟩, And.left⟩
  · rw [same, inOrder_refuse]
    refine and_congr_right fun _ => ⟨fun empty late => late.2.2 empty, fun no => ?_⟩
    rcases stands with empty | ⟨held, raised⟩
    · exact empty
    · exact Decidable.byContradiction fun filled => no ⟨held, raised, filled⟩
  · rw [same]
    exact ⟨fun kept => ⟨kept, fun late => early ⟨late.1, late.2.1⟩⟩, And.left⟩

theorem inOrder_go (sound : w.Sound) : w.go.InOrder ↔ w.InOrder := by
  by_cases cutting : w.reader = .cutting
  · have placed := sound.placed
    unfold Placed at placed
    rw [cutting] at placed
    have none := no_errors sound (not_decided_of_open placed.1 placed.2)
    have results : w.go.results = w.results := by
      rcases found : splitFrame w.link.buffer with e | _ | ⟨payload, rest⟩
      · rw [go_of_refused cutting found]
      · rw [go_of_missing cutting found]
      · rw [go_of_frame cutting found]
        rfl
    unfold InOrder
    rw [results]
    exact and_congr_right fun _ => ⟨fun _ failure returned => absurd returned (none failure),
      fun _ failure returned => absurd returned (none failure)⟩
  · have kept : w.go.results = w.results ∧ w.go.link.arrived = w.link.arrived := by
      unfold go
      split
      · rename_i found
        exact absurd found cutting
      · refine ⟨rfl, ?_⟩
        simp only [Link.raise]
        split <;> rfl
      all_goals exact ⟨rfl, rfl⟩
    exact inOrder_of_same kept.1 kept.2

/-- One move brings the order out of joint exactly when a fault overtakes payloads in it. -/
theorem inOrder_step (sound : w.Sound) {m : Move} (peaceful : m.isPeaceful = true) :
    (w.step m).InOrder ↔ w.InOrder ∧ (m = .look → ¬ w.Overtakes) := by
  have aside (other : m ≠ .look) (same : (w.step m).InOrder ↔ w.InOrder) :
      (w.step m).InOrder ↔ w.InOrder ∧ (m = .look → ¬ w.Overtakes) :=
    same.trans ⟨fun kept => ⟨kept, fun look => absurd look other⟩, And.left⟩
  cases m with
  | look =>
    refine (inOrder_look sound).trans (and_congr_right fun _ => ?_)
    exact ⟨fun no _ => no, fun no => no rfl⟩
  | go => exact aside (fun same => by cases same) (inOrder_go sound)
  | call =>
    refine aside (fun same => by cases same) (inOrder_of_same ?_ ?_) <;>
      simp only [step, Gate.acquire, sound.openGate, Bool.false_eq_true, ↓reduceIte]
  | stop =>
    refine aside (fun same => by cases same) (inOrder_of_same ?_ ?_) <;>
      · simp only [step, sound.running, Bool.false_eq_true, ↓reduceIte]
        split <;> rfl
  | read | finish | forgo | lock | wake | drop =>
    refine aside (fun same => by cases same) (inOrder_of_same ?_ ?_) <;>
      · simp only [step]
        split <;> rfl
  | failWriting | tellWriting | shut | shutdown => cases peaceful

theorem inOrder_run (sound : w.Sound) {moves : List Move}
    (peaceful : ∀ m ∈ moves, m.isPeaceful = true) :
    (w.run moves).InOrder ↔ w.InOrder ∧
      ∀ first later, moves = first ++ .look :: later → ¬ (w.run first).Overtakes := by
  induction moves generalizing w with
  | nil =>
    refine ⟨fun kept => ⟨kept, fun first later same => ?_⟩, And.left⟩
    cases List.append_eq_nil_iff.mp same.symm |>.2
  | cons m rest ih =>
    have gentle := peaceful m (List.mem_cons_self ..)
    refine (ih (sound_step sound gentle)
      fun other member => peaceful other (List.mem_cons_of_mem _ member)).trans ?_
    rw [inOrder_step sound gentle]
    constructor
    · rintro ⟨⟨kept, now⟩, onward⟩
      refine ⟨kept, fun first later same => ?_⟩
      cases first with
      | nil => exact now (List.cons.inj same).1
      | cons other first =>
        obtain ⟨rfl, tail⟩ := List.cons.inj same
        exact onward first later tail
    · rintro ⟨kept, never⟩
      refine ⟨⟨kept, fun look => ?_⟩, fun first later same => ?_⟩
      · exact never [] rest (by rw [look]; rfl)
      · exact never (m :: first) later (by rw [same]; rfl)

/-- Results without a failure in front of a payload are payloads and then failures. -/
theorem eq_of_ordered {results : List (Except Failure Bytes)}
    (ordered : results.Pairwise fun earlier later => later.isOk = true → earlier.isOk = true) :
    results = (results.filterMap Except.toOption).map .ok ++
      results.filter fun result => !result.isOk := by
  induction results with
  | nil => rfl
  | cons first rest ih =>
    obtain ⟨before, pairs⟩ := List.pairwise_cons.mp ordered
    cases first with
    | ok payload => exact congrArg (Except.ok payload :: ·) (ih pairs)
    | error failure =>
      -- behind a failure there is no payload
      have bad : ∀ result ∈ rest, (!result.isOk) = true := by
        intro result member
        cases result with
        | error other => rfl
        | ok payload => cases before _ member rfl
      have none : rest.filterMap Except.toOption = [] := by
        refine List.filterMap_eq_nil_iff.mpr fun result member => ?_
        cases result with
        | error other => rfl
        | ok payload => cases bad _ member
      show Except.error failure :: rest = (rest.filterMap Except.toOption).map .ok ++
        Except.error failure :: rest.filter fun result => !result.isOk
      rw [none, List.filter_eq_self.mpr bad]
      rfl

theorem taken_of_sound (sound : w.Sound) :
    w.taken ++ w.link.arrived ++ (cutFrames w.link.buffer).frames = w.whole.frames := by
  have onto := cutOnto_append_done [] (w.taken ++ w.link.arrived).reverse w.link.buffer
  rw [List.nil_append, List.reverse_reverse] at onto
  rw [← sound.cut, onto]
  rfl

theorem isOk_of_mem_failuresDue {count : Nat} {result : Except Failure Bytes}
    (member : result ∈ w.failuresDue count) : result.isOk = false := by
  unfold failuresDue at member
  cases verdict : w.verdict with
  | none =>
    rw [verdict] at member
    cases member
  | some failure =>
    rw [verdict] at member
    rw [List.eq_of_mem_replicate member]
    rfl

theorem filterMap_ok (payloads : List Bytes) :
    (payloads.map (Except.ok : Bytes → Except Failure Bytes)).filterMap Except.toOption =
      payloads := by
  rw [List.filterMap_map]
  exact List.filterMap_some

theorem due_of_inOrder (sound : w.Sound) (ordered : w.InOrder) :
    w.results = w.due w.results.length := by
  have frames := taken_of_sound sound
  have apart := eq_of_ordered ordered.1
  rw [← taken] at apart
  unfold due
  cases bad : w.results.filter (fun result => !result.isOk) with
  | nil =>
    rw [bad, List.append_nil] at apart
    rw [← frames, apart, List.map_append, List.map_append, List.append_assoc, List.append_assoc]
    exact (List.take_left' rfl).symm
  | cons first others =>
    have failures : ∀ result ∈ first :: others, ∃ failure,
        result = .error failure ∧ w.verdict = some failure ∧ w.Decided ∧ w.link.arrived = [] := by
      intro result member
      rw [← bad] at member
      obtain ⟨returned, refused⟩ := List.mem_filter.mp member
      cases result with
      | ok payload => cases refused
      | error failure =>
        obtain ⟨verdict, decided⟩ := sound.errors failure returned
        exact ⟨failure, rfl, verdict, decided, ordered.2 failure returned⟩
    obtain ⟨failure, -, verdict, decided, empty⟩ := failures first (List.mem_cons_self ..)
    have all : w.whole.frames = w.taken := by
      rw [decided.1, empty, List.append_nil]
    have same : first :: others = List.replicate (first :: others).length (.error failure) := by
      refine List.eq_replicate_of_mem fun result member => ?_
      obtain ⟨other, rfl, found, -⟩ := failures result member
      cases verdict.symm.trans found
      rfl
    have length : w.results.length = (w.taken.map (Except.ok : _ → Except Failure Bytes)).length +
        (first :: others).length := by
      rw [← List.length_append, ← bad, ← apart]
    have due : w.failuresDue w.results.length =
        List.replicate w.results.length (.error failure) := by
      rw [failuresDue, verdict]
      rfl
    rw [all, due, length, List.take_length_add_append, List.take_replicate,
      Nat.min_eq_left (Nat.le_add_left _ _), ← same, ← bad]
    exact apart

theorem inOrder_of_due (sound : w.Sound) (due : w.results = w.due w.results.length) :
    w.InOrder := by
  have frames := taken_of_sound sound
  unfold Inflow.due at due
  have good : ∀ result ∈ w.whole.frames.map (Except.ok : Bytes → Except Failure Bytes),
      result.isOk = true := by
    intro result member
    obtain ⟨payload, -, rfl⟩ := List.mem_map.mp member
    rfl
  constructor
  · rw [due]
    refine List.Pairwise.sublist (List.take_sublist _ _) (List.pairwise_append.mpr ⟨?_, ?_, ?_⟩)
    · exact List.pairwise_iff_getElem.mpr fun i j inside _ _ _ => good _ (List.getElem_mem inside)
    · refine List.pairwise_iff_getElem.mpr fun i j _ inside _ fine => ?_
      cases (isOk_of_mem_failuresDue (List.getElem_mem inside)).symm.trans fine
    · exact fun result member _ _ _ => good result member
  · intro failure returned
    rw [List.take_append, List.length_map] at due
    -- a failure is not among the payloads, so all frames are behind somebody
    have many : w.whole.frames.length < w.results.length := by
      refine Nat.lt_of_not_le fun few => ?_
      rw [due, Nat.sub_eq_zero_of_le few, List.take_zero, List.append_nil] at returned
      cases good _ (List.mem_of_mem_take returned)
    have long : (w.whole.frames.map (Except.ok : Bytes → Except Failure Bytes)).length ≤
        w.results.length := by
      rw [List.length_map]
      exact Nat.le_of_lt many
    rw [List.take_of_length_le long] at due
    have none : ((w.failuresDue w.results.length).take
        (w.results.length - w.whole.frames.length)).filterMap Except.toOption = [] := by
      refine List.filterMap_eq_nil_iff.mpr fun result member => ?_
      have refused := isOk_of_mem_failuresDue (List.mem_of_mem_take member)
      cases result with
      | ok payload => cases refused
      | error failure => rfl
    have all : w.taken = w.whole.frames := by
      unfold taken
      rw [due, List.filterMap_append, filterMap_ok, none, List.append_nil]
    rw [all, List.append_assoc] at frames
    have nothing := List.append_cancel_left (frames.trans (List.append_nil _).symm)
    exact (List.append_eq_nil_iff.mp nothing).1

/-- A call that comes while nobody has the lock, and its look at the queue. -/
def turn : List Move := [.call, .lock, .look]

def turns (count : Nat) : List Move := (List.replicate count turn).flatten

theorem turns_succ (count : Nat) : turns (count + 1) = turn ++ turns count := rfl

theorem run_turn_of_payload (shut : w.link.gate.closing = false) (free : w.holder = none)
    {payload : Bytes} {rest : List Bytes} (queued : w.link.arrived = payload :: rest) :
    w.run turn =
      { w with
        link := { w.link with arrived := rest }
        notified := false
        results := w.results ++ [.ok payload] } := by
  obtain ⟨⟨_, _, _, _, _, _, _, _, ⟨_, _⟩, _⟩, _, _, _, _, _, _, _, _, _⟩ := w
  cases free
  cases queued
  cases shut
  rfl

theorem run_turn_of_empty (shut : w.link.gate.closing = false) (gone : w.link.reading = false)
    (free : w.holder = none) (empty : w.link.arrived = []) :
    w.run turn =
      { w with
        notified := false
        results := w.results ++ [.error (w.link.fault.getD .closed)] } := by
  obtain ⟨⟨_, _, _, _, _, _, _, _, ⟨_, _⟩, _⟩, _, _, _, _, _, _, _, _, _⟩ := w
  cases free
  cases empty
  cases gone
  cases shut
  rfl

theorem take_succ_replicate {α : Type} (xs : List α) (x : α) (count : Nat) :
    (xs ++ List.replicate (count + 1) x).take count =
      (xs ++ List.replicate count x).take count := by
  rw [List.take_append, List.take_append, List.take_replicate, List.take_replicate,
    Nat.min_eq_left (by omega), Nat.min_eq_left (by omega)]

/-- Once the reader is gone, calls return the payloads that are left and then the verdict. -/
theorem run_turns (shut : w.link.gate.closing = false) (gone : w.link.reading = false)
    (free : w.holder = none) (count : Nat) :
    (w.run (turns count)).results = w.results ++
      (w.link.arrived.map Except.ok ++
        List.replicate count (Except.error (w.link.fault.getD .closed))).take count := by
  induction count generalizing w with
  | zero => exact (List.append_nil _).symm
  | succ count ih =>
    rw [turns_succ, run_append]
    cases queued : w.link.arrived with
    | nil =>
      rw [run_turn_of_empty shut gone free queued,
        ih (by exact shut) (by exact gone) (by exact free)]
      simp only [queued, List.map_nil, List.nil_append, List.replicate_succ, List.take_succ_cons,
        List.append_assoc, List.singleton_append]
    | cons payload rest =>
      rw [run_turn_of_payload shut free queued, ih (by exact shut) (by exact gone) (by exact free)]
      simp only [List.map_cons, List.cons_append, List.take_succ_cons, List.append_assoc,
        List.nil_append, take_succ_replicate]

theorem holder_returns (running : w.link.shutdown = false) (gone : w.link.reading = false) :
    (w.run [.look, .look, .wake, .look]).holder = none := by
  obtain ⟨⟨_, arrived, _, _, _, _, _, _, _, _⟩, _, raised, _, _, holder, _, _, _, _⟩ := w
  cases running
  cases gone
  rcases holder with _ | _ | _ | _ | _ <;> cases arrived <;> cases raised <;> rfl

/-- By its own steps the reader comes to where it waits for bytes, or goes. -/
theorem reader_rests (w : Inflow) :
    ∃ count, (w.run (List.replicate count .go)).reader = .awaiting ∨
      (w.run (List.replicate count .go)).reader = .gone := by
  have leaving (v : Inflow) (at_end : v.reader = .leaving) : v.go.reader = .gone := by
    rw [go_of_leaving at_end]
    rfl
  have telling (v : Inflow) (tells : v.reader = .telling) : v.go.go.reader = .gone := by
    refine leaving _ ?_
    unfold go
    rw [tells]
    rfl
  have raising (v : Inflow) (failure : Failure) (raises : v.reader = .raising failure) :
      ∃ count, (v.run (List.replicate count .go)).reader = .gone := by
    cases fresh : v.link.fault.isNone && !failure.isCancellation with
    | true =>
      refine ⟨3, telling v.go ?_⟩
      unfold go
      rw [raises]
      exact if_pos fresh
    | false =>
      refine ⟨2, leaving v.go ?_⟩
      unfold go
      rw [raises]
      exact if_neg (by rw [fresh]; decide)
  cases reader : w.reader with
  | awaiting => exact ⟨0, Or.inl reader⟩
  | gone => exact ⟨0, Or.inr reader⟩
  | leaving => exact ⟨1, Or.inr (leaving w reader)⟩
  | telling => exact ⟨2, Or.inr (telling w reader)⟩
  | raising failure =>
    obtain ⟨count, gone⟩ := raising w failure reader
    exact ⟨count, Or.inr gone⟩
  | cutting =>
    -- each frame that is cut off shortens the buffer
    induction length : w.link.buffer.length using Nat.strongRecOn generalizing w with
    | ind length ih =>
      rcases found : splitFrame w.link.buffer with e | _ | ⟨payload, rest⟩
      · have refused : w.go.reader = .raising (.protocol e) := by
          rw [go_of_refused reader found]
        obtain ⟨count, gone⟩ := raising w.go _ refused
        exact ⟨count + 1, Or.inr gone⟩
      · refine ⟨1, Or.inl ?_⟩
        show w.go.reader = _
        rw [go_of_missing reader found]
      · have next := go_of_frame reader found
        have shorter := length_of_splitFrame found
        obtain ⟨count, rests⟩ := ih rest.length (by omega) w.go (by rw [next]; exact reader)
          (by rw [next]; rfl)
        exact ⟨count + 1, rests⟩

theorem verdict_of_fault (sound : w.Sound) {failure : Failure}
    (kept : w.link.fault = some failure) :
    w.verdict = some failure := by
  have decided (through : w.Decided) : w.verdict = some failure := by
    rw [verdict_of_decided through, kept, Option.getD_some]
  have placed := sound.placed
  unfold Placed at placed
  split at placed
  · cases placed.1.fault.symm.trans kept
  · cases placed.1.fault.symm.trans kept
  · cases placed.1.fault.symm.trans kept
  · exact placed.2.2.2.1.symm.trans kept
  all_goals exact decided placed.1

/-- Behind a length that no frame may have, nothing that follows changes the frames or the
failure. -/
theorem cut_of_stopped {bytes : Bytes} {e : WireError} (stopped : (cutFrames bytes).stop = some e)
    (unread : Bytes) :
    (cutFrames (bytes ++ unread)).frames = (cutFrames bytes).frames ∧
      (cutFrames (bytes ++ unread)).stop = some e := by
  have onward := cutOnto_append [] bytes unread
  rw [← cutFrames, ← cutFrames, stopped] at onward
  rw [onward]
  exact ⟨rfl, rfl⟩

/-- The place of the fault is filled at most once, with a failure that is no ending, whatever
happens. While neither the writer fails nor this side closes the link: payloads that were taken,
that wait and that are still in the buffer are the frames of all that was read, in order; a fault
that is kept, and every failure that a call returns, is the one with which reading has ended, which
is fixed at the first length that no frame may have, whatever follows. What calls return is what is
due, so first all frames and then that failure for ever, if and only if no call that has found the
queue empty looks for the fault when it has been raised behind payloads that are in the queue by
then. A call that waits has been told of all that there is, the reader comes to where it waits for
bytes or is gone, and once it is gone calls return the payloads that are left and then the
failure. -/
theorem frames_come_before_the_failure_iff (moves : List Move) :
    let w := ({} : Inflow).run moves
    (∀ failure, w.link.fault = some failure →
      failure.isCancellation = false ∧ ∀ more, (w.run more).link.fault = some failure) ∧
    ((∀ m ∈ moves, m.isPeaceful = true) →
      (w.taken ++ w.link.arrived ++ (cutFrames w.link.buffer).frames = w.whole.frames) ∧
      (∀ e, w.whole.stop = some e → ∀ unread,
        (cutFrames (w.read ++ unread)).frames = w.whole.frames ∧
          (cutFrames (w.read ++ unread)).stop = some e) ∧
      (∀ failure, w.link.fault = some failure → w.verdict = some failure) ∧
      (∀ failure, .error failure ∈ w.results → w.verdict = some failure) ∧
      (w.results = w.due w.results.length ↔
        ∀ first later, moves = first ++ .look :: later → ¬ (({} : Inflow).run first).Overtakes) ∧
      (w.holder = some .parked → w.notified = false →
        w.link.arrived = [] ∧ w.link.reading = true ∧ w.raised = false) ∧
      (∃ count, (w.run (List.replicate count .go)).reader = .awaiting ∨
        (w.run (List.replicate count .go)).reader = .gone) ∧
      (w.reader = .gone →
        (w.run [.look, .look, .wake, .look]).holder = none ∧
        ∃ failure, w.verdict = some failure ∧ (w.holder = none → ∀ count,
          (w.run (turns count)).results = w.results ++
            (w.link.arrived.map Except.ok ++
              List.replicate count (Except.error failure)).take count))) := by
  intro w
  refine ⟨fun failure kept => ⟨?_, fun more => fault_run w more kept⟩, fun peaceful => ?_⟩
  · exact real_run {} moves nofun failure kept
  have sound : w.Sound := sound_run sound_start peaceful
  have alert : w.Alert := alert_run (alert_of_free rfl) moves
  refine ⟨taken_of_sound sound, fun e stopped unread => cut_of_stopped stopped unread,
    fun failure kept => verdict_of_fault sound kept,
    fun failure returned => (sound.errors failure returned).1, ?_, ?_, reader_rests w, ?_⟩
  · have ordered := inOrder_run sound_start peaceful
    have fresh : InOrder {} := ⟨List.Pairwise.nil, nofun⟩
    rw [← (⟨due_of_inOrder sound, inOrder_of_due sound⟩ : w.InOrder ↔ _), ordered]
    exact ⟨And.right, fun never => ⟨fresh, never⟩⟩
  · intro waits quiet
    obtain ⟨empty, reading⟩ := alert.queue _ waits rfl quiet
    exact ⟨empty, reading, alert.fault _ waits rfl quiet⟩
  · intro gone
    have placed := sound.placed
    unfold Placed at placed
    rw [gone] at placed
    refine ⟨holder_returns sound.running placed.2, w.link.fault.getD .closed,
      verdict_of_decided placed.1, fun free count => ?_⟩
    exact run_turns sound.openGate placed.2 free count

/-- A frame comes in, and behind it a length that no frame may have. The reader does all that there
is to do. -/
def badLengthBehindFrame : List Move :=
  [.read [0, 0, 0, 1, 97, 0, 0, 0, 0], .go, .go, .go, .go, .go]

theorem waiting_call_gets_the_payload_first :
    let moves := [Move.go, .call, .lock, .look, .look, .look] ++ badLengthBehindFrame ++
      [.wake, .look] ++ turns 2
    let w := ({} : Inflow).run moves
    (∀ m ∈ moves, m.isPeaceful = true) ∧
      w.results = [.ok [97], .error (.protocol .emptyFrame), .error (.protocol .emptyFrame)] ∧
      w.verdict = some (.protocol .emptyFrame) := by
  intro moves w
  have peaceful : ∀ m ∈ moves, m.isPeaceful = true := by decide
  obtain ⟨-, settled⟩ := frames_come_before_the_failure_iff moves
  obtain ⟨-, -, -, verdict, -⟩ := settled peaceful
  have results : w.results =
      [.ok [97], .error (.protocol .emptyFrame), .error (.protocol .emptyFrame)] := rfl
  refine ⟨peaceful, results, verdict _ ?_⟩
  rw [results]
  exact List.mem_cons_of_mem _ (List.mem_cons_self ..)

/-- A call that has looked at the queue just before gets the failure in front of the payload, which
the next one gets. -/
theorem fault_overtakes_a_payload :
    let moves := [Move.go, .call, .lock, .look] ++ badLengthBehindFrame ++ .look :: turns 1
    let w := ({} : Inflow).run moves
    (∀ m ∈ moves, m.isPeaceful = true) ∧
      w.results = [.error (.protocol .emptyFrame), .ok [97]] ∧
      w.results ≠ w.due w.results.length := by
  intro moves w
  have peaceful : ∀ m ∈ moves, m.isPeaceful = true := by decide
  have results : w.results = [.error (.protocol .emptyFrame), .ok [97]] := rfl
  refine ⟨peaceful, results, fun due => ?_⟩
  obtain ⟨pairs, -⟩ := inOrder_of_due (sound_run sound_start peaceful) due
  rw [results] at pairs
  cases (List.pairwise_cons.mp pairs).1 _ (List.mem_singleton_self _) rfl

end MarketLink.Session.Inflow
