import MarketLink.Proofs.Correlation.TaskStep

set_option autoImplicit false

namespace MarketLink.Correlation

/-- A table with the operations that are under way on it. -/
structure Traffic where
  table : Table := Table.empty
  tasks : List Task := []
  entered : List Nat := []
  deeds : List Deed := []

/-- Something that can happen next. -/
inductive Move where
  | create (key : Key) (slot : Slot) (streaming : Bool)
  | register (n : Nat)
  | start (operation : Operation)
  | advance (actor : Nat)

namespace Traffic

/-- An operation begins. It is about requests that have been registered. -/
def start (w : Traffic) (task : Task) : Traffic :=
  if ∀ n ∈ task.subjects, n ∈ w.entered then
    { w with tasks := w.tasks ++ [task], deeds := w.deeds ++ task.leaving?.toList.map .hit }
  else w

/-- What a move leads to. A request is registered once, before anything else is done with it; a move
that is against this does not happen. -/
def step (w : Traffic) : Move → Traffic
  | .create key slot streaming =>
    { w with table := (w.table.create (Request.new key slot streaming)).1 }
  | .register n =>
    if n < w.table.requests.length ∧ n ∉ w.entered then
      { w with table := (w.table.register n).1, entered := n :: w.entered }
    else w
  | .start operation =>
    match operation.task? w.table with
    | some task => w.start task
    | none => w
  | .advance actor =>
    match w.tasks[actor]? with
    | some task =>
      let (table, left, deeds) := task.advance w.table
      { w with table, tasks := w.tasks.set actor left, deeds := w.deeds ++ deeds }
    | none => w

def run (w : Traffic) (moves : List Move) : Traffic := moves.foldl step w

def isQuiet (w : Traffic) : Bool := w.tasks.all Task.isIdle

/-- What holds between any two moves. A request that was hit is still to be taken out by some task,
or is out; and it is still to be completed by some task, or has ended. -/
structure Sound (w : Traffic) : Prop where
  filed : w.table.Filed
  entered : ∀ n ∈ w.table.pending, n ∈ w.entered
  created : ∀ n ∈ w.entered, n < w.table.requests.length
  subjects : ∀ task ∈ w.tasks, ∀ n ∈ task.subjects, n ∈ w.entered
  hits : ∀ n, Deed.hit n ∈ w.deeds → n ∈ w.entered ∧
    (n ∉ w.table.pending ∨ ∃ task ∈ w.tasks, task.leaving? = some n) ∧
    ((w.table.outcome? n).isSome = true ∨ ∃ task ∈ w.tasks, n ∈ task.endings.map Prod.fst)
  counts : ∀ n, completions w.deeds n = [] ∧ w.table.outcome? n = none ∨
    ∃ later, completions w.deeds n = true :: List.replicate later false ∧
      (w.table.outcome? n).isSome = true
  ordered : w.deeds.Pairwise Deed.Ordered

theorem sound_empty : Sound {} := by
  refine ⟨Table.filed_empty _ rfl rfl, ?_, ?_, ?_, ?_, ?_, List.Pairwise.nil⟩
  · intro n member
    cases member
  · intro n member
    cases member
  · intro task member
    cases member
  · intro n member
    cases member
  · intro n
    exact Or.inl ⟨rfl, rfl⟩

theorem Sound.of_table {w : Traffic} (sound : w.Sound) {table : Table} (filed : table.Filed)
    (pending : ∀ n ∈ table.pending, n ∈ w.table.pending)
    (length : w.table.requests.length ≤ table.requests.length)
    (outcomes : ∀ n, table.outcome? n = w.table.outcome? n) : Sound { w with table } := by
  refine ⟨filed, fun n member => sound.entered n (pending n member),
    fun n member => Nat.lt_of_lt_of_le (sound.created n member) length, sound.subjects, ?_, ?_,
    sound.ordered⟩
  · intro n hit
    obtain ⟨entered, out, ended⟩ := sound.hits n hit
    refine ⟨entered, out.imp_left fun absent member => absent (pending n member), ?_⟩
    rw [outcomes]
    exact ended
  · intro n
    rw [outcomes]
    exact sound.counts n

theorem Sound.create {w : Traffic} (sound : w.Sound) (key : Key) (slot : Slot)
    (streaming : Bool) : (w.step (.create key slot streaming)).Sound := by
  refine sound.of_table (sound.filed.create _) (fun _ member => member) ?_
    (Table.outcome?_create w.table rfl)
  simp [Table.create]

theorem Sound.register {w : Traffic} (sound : w.Sound) (n : Nat) :
    (w.step (.register n)).Sound := by
  unfold step
  dsimp only
  split
  · rename_i fresh
    have absent : n ∉ w.table.pending := fun member => fresh.2 (sound.entered n member)
    have same := w.table.requests_register n
    have outcomes := Table.outcome?_of_requests same
    refine ⟨sound.filed.register absent, ?_, ?_, ?_, ?_, ?_, sound.ordered⟩
    · intro m member
      rcases sound.filed.mem_pending_register absent member with old | rfl
      · exact List.mem_cons_of_mem n (sound.entered m old)
      · exact List.mem_cons_self
    · intro m member
      simp only [same]
      rcases List.mem_cons.mp member with rfl | old
      · exact fresh.1
      · exact sound.created m old
    · intro task member m subject
      exact List.mem_cons_of_mem n (sound.subjects task member m subject)
    · intro m hit
      obtain ⟨entered, out, ended⟩ := sound.hits m hit
      refine ⟨List.mem_cons_of_mem n entered, ?_, ?_⟩
      · refine out.imp_left fun gone member => ?_
        rcases sound.filed.mem_pending_register absent member with old | rfl
        · exact gone old
        · exact fresh.2 entered
      · simp only [outcomes]
        exact ended
    · intro m
      simp only [outcomes]
      exact sound.counts m
  · exact sound

theorem completions_append (first second : List Deed) (n : Nat) :
    completions (first ++ second) n = completions first n ++ completions second n :=
  List.filterMap_append

/-- The task of an operation that is to take a request out is to complete it too. -/
theorem endings_of_start {t : Table} {operation : Operation} {task : Task}
    (begun : operation.task? t = some task) {n : Nat} (leaving : task.leaving? = some n) :
    n ∈ task.endings.map Prod.fst := by
  cases operation with
  | cancel m failure =>
    cases begun
    cases leaving
    exact List.mem_cons_self
  | abandon m =>
    simp only [Operation.task?] at begun
    split at begun
    · cases begun
      cases leaving
    · cases begun
      cases leaving
      exact List.mem_cons_self
  | dispatch _ _ | fail _ _ | teardown _ =>
    cases begun
    cases leaving
  | seed _ | allocate | create _ _ _ | register _ | hangUp _ | handle _ _ | complete _ _ =>
    cases begun

theorem Sound.start {w : Traffic} (sound : w.Sound) (operation : Operation) :
    (w.step (.start operation)).Sound := by
  unfold step
  dsimp only
  split
  · rename_i task begun
    unfold Traffic.start
    split
    · rename_i known
      have subject : ∀ n, task.leaving? = some n → n ∈ task.subjects := by
        intro n leaving
        cases task <;> cases leaving
        exact List.mem_cons_self
      refine ⟨sound.filed, sound.entered, sound.created, ?_, ?_, ?_, ?_⟩
      · intro other member
        rcases List.mem_append.mp member with old | new
        · exact sound.subjects other old
        · rw [List.mem_singleton.mp new]
          exact known
      · intro n hit
        rcases List.mem_append.mp hit with old | new
        · obtain ⟨entered, out, ended⟩ := sound.hits n old
          refine ⟨entered, out.imp_right ?_, ended.imp_right ?_⟩
          · rintro ⟨other, member, leaving⟩
            exact ⟨other, List.mem_append_left _ member, leaving⟩
          · rintro ⟨other, member, owed⟩
            exact ⟨other, List.mem_append_left _ member, owed⟩
        · obtain ⟨m, leaving, same⟩ := List.mem_map.mp new
          cases same
          have leaving : task.leaving? = some n := by simpa using leaving
          have here : task ∈ w.tasks ++ [task] := by simp
          exact ⟨known n (subject n leaving), Or.inr ⟨task, here, leaving⟩,
            Or.inr ⟨task, here, endings_of_start begun leaving⟩⟩
      · intro n
        have quiet : completions (task.leaving?.toList.map .hit) n = [] := by
          apply List.filterMap_eq_nil_iff.mpr
          intro deed member
          obtain ⟨_, _, rfl⟩ := List.mem_map.mp member
          rfl
        rw [completions_append, quiet, List.append_nil]
        exact sound.counts n
      · refine List.pairwise_append.mpr ⟨sound.ordered, ?_, ?_⟩
        · cases task.leaving? <;> simp
        · intro earlier _ later member n first _
          obtain ⟨_, _, rfl⟩ := List.mem_map.mp member
          simp
    · exact sound
  · exact sound

/-- What was in a list is still there when one entry is replaced, unless it was that entry. -/
theorem eq_or_mem_set {α : Type} {entries : List α} {i : Nat} {replaced : α}
    (there : entries[i]? = some replaced) (fresh : α) {entry : α} (member : entry ∈ entries) :
    entry = replaced ∨ entry ∈ entries.set i fresh := by
  obtain ⟨j, found⟩ := List.mem_iff_getElem?.mp member
  by_cases same : i = j
  · subst same
    exact Or.inl (Option.some.inj (found.symm.trans there))
  · refine Or.inr (List.mem_iff_getElem?.mpr ⟨j, ?_⟩)
    rw [List.getElem?_set_ne same]
    exact found

/-- The completions of a request after one more step: the first one was the first, and no other
was. -/
theorem counts_append {t after : Table} {deeds more : List Deed} {n : Nat}
    (before : completions deeds n = [] ∧ t.outcome? n = none ∨
      ∃ later, completions deeds n = true :: List.replicate later false ∧
        (t.outcome? n).isSome = true)
    (step : completions more n = [] ∧ after.outcome? n = t.outcome? n ∨
      completions more n = [(t.outcome? n).isNone] ∧ (after.outcome? n).isSome = true) :
    completions (deeds ++ more) n = [] ∧ after.outcome? n = none ∨
      ∃ later, completions (deeds ++ more) n = true :: List.replicate later false ∧
        (after.outcome? n).isSome = true := by
  rw [completions_append]
  rcases step with ⟨silent, same⟩ | ⟨once, ended⟩
  · rw [silent, List.append_nil, same]
    exact before
  · rw [once]
    rcases before with ⟨none, running⟩ | ⟨later, many, done⟩
    · refine Or.inr ⟨0, ?_, ended⟩
      rw [none, running]
      rfl
    · obtain ⟨result, done⟩ := Option.isSome_iff_exists.mp done
      refine Or.inr ⟨later + 1, ?_, ended⟩
      rw [many, done, List.replicate_succ']
      rfl

/-- One step of one task keeps what holds between moves. -/
theorem Sound.advance {w : Traffic} (sound : w.Sound) (actor : Nat) :
    (w.step (.advance actor)).Sound := by
  unfold step
  dsimp only
  split
  · rename_i task there
    have begun : task ∈ w.tasks := List.mem_of_getElem? there
    have progress := task.progress sound.filed fun n subject =>
      sound.created n (sound.subjects task begun n subject)
    rcases stepped : task.advance w.table with ⟨table, left, deeds⟩
    rw [stepped] at progress
    have isLeft : left ∈ w.tasks.set actor left :=
      List.mem_set (List.getElem?_eq_some_iff.mp there).1 left
    refine ⟨progress.filed, fun n member => sound.entered n (progress.shrinks n member), ?_, ?_, ?_,
      ?_, ?_⟩
    · intro n entered
      rw [progress.length]
      exact sound.created n entered
    · intro other member n subject
      rcases List.mem_or_eq_of_mem_set member with old | rfl
      · exact sound.subjects other old n subject
      · rcases progress.subjects n subject with known | pending
        · exact sound.subjects task begun n known
        · exact sound.entered n pending
    · intro n hit
      rcases List.mem_append.mp hit with old | new
      · obtain ⟨entered, out, ended⟩ := sound.hits n old
        refine ⟨entered, ?_, ?_⟩
        · rcases out with gone | ⟨other, member, leaving⟩
          · exact Or.inl fun again => gone (progress.shrinks n again)
          · rcases eq_or_mem_set there left member with rfl | still
            · exact Or.inl (progress.left n leaving)
            · exact Or.inr ⟨other, still, leaving⟩
        · rcases ended with done | ⟨other, member, owed⟩
          · exact Or.inl (Table.ended_of_kept (progress.outcomes n) done)
          · rcases eq_or_mem_set there left member with rfl | still
            · rcases progress.owed n owed with done | owed
              · exact Or.inl done
              · exact Or.inr ⟨left, isLeft, owed⟩
            · exact Or.inr ⟨other, still, owed⟩
      · obtain ⟨known, owed, out⟩ := progress.hits n new
        refine ⟨?_, out.imp_right fun leaving => ⟨left, isLeft, leaving⟩,
          Or.inr ⟨left, isLeft, owed⟩⟩
        exact known.elim (sound.subjects task begun n) (sound.entered n)
    · exact fun n => counts_append (sound.counts n) (progress.counts n)
    · refine List.pairwise_append.mpr ⟨sound.ordered, progress.ordered, ?_⟩
      -- A handler that runs now runs against an open request, so no completion can lie behind it.
      rintro earlier old later new n first rfl rfl
      have running := progress.runs n new
      rcases sound.counts n with ⟨none, _⟩ | ⟨_, _, done⟩
      · have counted := List.filterMap_eq_nil_iff.mp none _ old
        simp [Deed.completion?] at counted
      · rw [running] at done
        cases done
  · exact sound

theorem Sound.step {w : Traffic} (sound : w.Sound) (move : Move) : (w.step move).Sound := by
  cases move with
  | create key slot streaming => exact sound.create key slot streaming
  | register n => exact sound.register n
  | start operation => exact sound.start operation
  | advance actor => exact sound.advance actor

theorem Sound.run {w : Traffic} (sound : w.Sound) (moves : List Move) : (w.run moves).Sound := by
  induction moves generalizing w with
  | nil => exact sound
  | cons move rest ih => exact ih (sound.step move)

theorem Sound.outcome?_run {w : Traffic} (sound : w.Sound) (moves : List Move) {n : Nat}
    {result : Except Failure Slot} (ended : w.table.outcome? n = some result) :
    (w.run moves).table.outcome? n = some result := by
  induction moves generalizing w with
  | nil => exact ended
  | cons move rest ih =>
    refine ih (sound.step move) ?_
    cases move with
    | create key slot streaming => exact (Table.outcome?_create w.table rfl n).trans ended
    | register m =>
      unfold Traffic.step
      dsimp only
      split
      · exact (Table.outcome?_of_requests (w.table.requests_register m) n).trans ended
      · exact ended
    | start operation =>
      unfold Traffic.step
      dsimp only
      split
      · unfold Traffic.start
        split <;> exact ended
      · exact ended
    | advance actor =>
      unfold Traffic.step
      dsimp only
      split
      · rename_i task there
        have progress := task.progress sound.filed fun n subject =>
          sound.created n (sound.subjects task (List.mem_of_getElem? there) n subject)
        exact progress.outcomes n result ended
      · exact ended

theorem Sound.settled {w : Traffic} (sound : w.Sound) (quiet : w.isQuiet = true) {n : Nat}
    (hit : Deed.hit n ∈ w.deeds) :
    (w.table.outcome? n).isSome = true ∧ n ∉ w.table.pending := by
  have idle : ∀ task ∈ w.tasks, task = Task.idle := by
    intro task member
    exact Task.eq_idle_of_isIdle (List.all_eq_true.mp quiet task member)
  obtain ⟨_, out, ended⟩ := sound.hits n hit
  constructor
  · rcases ended with done | ⟨task, member, owed⟩
    · exact done
    · rw [idle task member] at owed
      cases owed
  · rcases out with gone | ⟨task, member, leaving⟩
    · exact gone
    · rw [idle task member] at leaving
      cases leaving

/-- Whatever operations are begun, and in whatever order their steps come: (1) the first completion
that reaches a request fixes its outcome for good, and every later one is refused and changes
nothing; (2) no handler runs against a request behind a completion of it; (3) once the operations
have run out, every request that was hit has ended and is in neither table; (4) unregistering a
request leaves every other one where it stands. -/
theorem interleaved_operations_end_requests_once (moves : List Move) :
    let w := run {} moves
    ((∀ n, completions w.deeds n = [] ∧ w.table.outcome? n = none ∨
        ∃ later, completions w.deeds n = true :: List.replicate later false ∧
          (w.table.outcome? n).isSome = true) ∧
      (∀ n r failure, w.table.request? n = some r → r.outcome = none →
        (w.table.complete n failure).2 = true ∧
          (w.table.complete n failure).1.outcome? n = some (Request.outcomeOf failure r.slot)) ∧
      (∀ n failure, (w.table.outcome? n).isSome = true →
        w.table.complete n failure = (w.table, false)) ∧
      ∀ n result more, w.table.outcome? n = some result →
        (w.run more).table.outcome? n = some result) ∧
    (w.deeds.Pairwise (fun earlier later =>
        ∀ n first, earlier = .completed n first → later ≠ .ran n) ∧
      ∀ n handler, (w.table.outcome? n).isSome = true →
        w.table.handle n handler = (w.table, none)) ∧
    (w.isQuiet = true → ∀ n, .hit n ∈ w.deeds → (w.table.outcome? n).isSome = true ∧
      n ∉ w.table.byId.map Prod.snd ∧ n ∉ w.table.byCode.flatMap Prod.snd) ∧
    ∀ n, (w.table.unregister n).requests = w.table.requests ∧
      (∀ id, (w.table.unregister n).pendingId? id =
        if w.table.pendingId? id = some n then none else w.table.pendingId? id) ∧
      ∀ code, (w.table.unregister n).queue code =
        (w.table.queue code).filter fun m => m != n := by
  intro w
  have sound : w.Sound := sound_empty.run moves
  refine ⟨⟨sound.counts, ?_, ?_, ?_⟩, ⟨sound.ordered, ?_⟩, ?_, ?_⟩
  · intro n r failure found running
    exact Table.complete_of_open found running failure
  · intro n failure ended
    exact Table.complete_of_ended ended failure
  · intro n result more ended
    exact sound.outcome?_run more ended
  · intro n handler ended
    exact Table.handle_of_ended ended handler
  · intro quiet n hit
    obtain ⟨ended, gone⟩ := sound.settled quiet hit
    rw [Table.pending, List.mem_append, not_or] at gone
    exact ⟨ended, gone⟩
  · intro n
    have out := sound.filed.without_unregister n
    exact ⟨out.requests, out.ids, out.queues⟩

/-- A cancellation slips in between a reply's look at its request and the end of it. -/
example :
    ((run {} [.create (.withId 4) (.historicalBars none) false, .register 0,
      .start (.dispatch (.id 4) (Handler.leave (.ok true))), .start (.cancel 0 .cancelled),
      .advance 0, .advance 1, .advance 0, .advance 1, .advance 0, .advance 0]).deeds) =
      [.hit 0, .ran 0, .hit 0, .completed 0 true, .completed 0 false] := by
  decide

end Traffic

end MarketLink.Correlation
