import MarketLink.Proofs.Correlation.Outcome
import MarketLink.Proofs.Correlation.Task

set_option autoImplicit false

namespace MarketLink.Correlation

namespace Table

/-- Looking a reply's request up finds none, finds one by its id, or takes the oldest one out of the
queue of a code. -/
theorem find_cases (t : Table) (target : Target) :
    t.find target = (t, none) ∨
      (∃ id n, target = .id id ∧ t.pendingId? id = some n ∧ t.find target = (t, some n)) ∨
      ∃ code n rest, target = .code code ∧ t.queue code = n :: rest ∧
        t.find target = (t.setQueue code rest, some n) := by
  cases target with
  | id id =>
    cases found : t.pendingId? id with
    | none => exact Or.inl (by simp only [find, found])
    | some n => exact Or.inr (Or.inl ⟨id, n, rfl, found, by simp only [find, found]⟩)
  | code code =>
    cases queue : t.queue code with
    | nil => exact Or.inl (by simp only [find, queue])
    | cons n rest => exact Or.inr (Or.inr ⟨code, n, rest, rfl, queue, by simp only [find, queue]⟩)

end Table

def Deed.completion? (n : Nat) : Deed → Option Bool
  | .completed m first => if m = n then some first else none
  | .ran _ | .hit _ => none

/-- The completions of a request, in order. -/
def completions (deeds : List Deed) (n : Nat) : List Bool := deeds.filterMap (Deed.completion? n)

/-- A handler does not run after a completion of the same request. -/
def Deed.Ordered (earlier later : Deed) : Prop :=
  ∀ n first, earlier = .completed n first → later ≠ .ran n

namespace Task

/-- What a step has done: to the table, to what is left of the task, and to what is reported. -/
structure Progress (t : Table) (task : Task) (after : Table × Task × List Deed) : Prop where
  filed : after.1.Filed
  length : after.1.requests.length = t.requests.length
  outcomes : ∀ n result, t.outcome? n = some result → after.1.outcome? n = some result
  shrinks : ∀ n ∈ after.1.pending, n ∈ t.pending
  stays : ∀ n ∈ t.pending, n ∈ after.1.pending ∨ task.leaving? = some n ∨
    n ∈ after.2.1.endings.map Prod.fst
  subjects : ∀ n ∈ after.2.1.subjects, n ∈ task.subjects ∨ n ∈ t.pending
  left : ∀ n, task.leaving? = some n → n ∉ after.1.pending
  owed : ∀ n ∈ task.endings.map Prod.fst,
    (after.1.outcome? n).isSome = true ∨ n ∈ after.2.1.endings.map Prod.fst
  promised : ∀ n, after.2.1.leaving? = some n → n ∈ after.2.1.endings.map Prod.fst
  hits : ∀ n, Deed.hit n ∈ after.2.2 → (n ∈ task.subjects ∨ n ∈ t.pending) ∧
    n ∈ after.2.1.endings.map Prod.fst ∧ (n ∉ after.1.pending ∨ after.2.1.leaving? = some n)
  counts : ∀ n, completions after.2.2 n = [] ∧ after.1.outcome? n = t.outcome? n ∨
    completions after.2.2 n = [(t.outcome? n).isNone] ∧ (after.1.outcome? n).isSome = true
  runs : ∀ n, Deed.ran n ∈ after.2.2 → t.outcome? n = none
  ordered : after.2.2.Pairwise Deed.Ordered

/-- A step that takes requests out, at most, and neither runs a handler nor completes anything. -/
theorem progress_of_removal {t : Table} {task : Task} {after : Table × Task × List Deed}
    (filed : after.1.Filed) (requests : after.1.requests = t.requests)
    (shrinks : ∀ n ∈ after.1.pending, n ∈ t.pending)
    (stays : ∀ n ∈ t.pending, n ∈ after.1.pending ∨ task.leaving? = some n ∨
      n ∈ after.2.1.endings.map Prod.fst)
    (subjects : ∀ n ∈ after.2.1.subjects, n ∈ task.subjects ∨ n ∈ t.pending)
    (left : ∀ n, task.leaving? = some n → n ∉ after.1.pending)
    (owed : ∀ n ∈ task.endings.map Prod.fst, n ∈ after.2.1.endings.map Prod.fst)
    (resting : after.2.1.leaving? = none)
    (hits : ∀ deed ∈ after.2.2, ∃ n, deed = .hit n ∧ n ∈ t.pending ∧ n ∉ after.1.pending ∧
      n ∈ after.2.1.endings.map Prod.fst) :
    Progress t task after := by
  have outcomes := Table.outcome?_of_requests requests
  refine ⟨filed, congrArg List.length requests, ?_, shrinks, stays, subjects, left,
    fun n member => Or.inr (owed n member), ?_, ?_, ?_, ?_, ?_⟩
  · intro n result ended
    rw [outcomes, ended]
  · intro n leaving
    rw [resting] at leaving
    cases leaving
  · intro n hit
    obtain ⟨m, same, pending, gone, member⟩ := hits _ hit
    cases same
    exact ⟨Or.inr pending, member, Or.inl gone⟩
  · intro n
    refine Or.inl ⟨?_, outcomes n⟩
    apply List.filterMap_eq_nil_iff.mpr
    intro deed member
    obtain ⟨_, rfl, _⟩ := hits deed member
    rfl
  · intro n ran
    obtain ⟨_, same, _⟩ := hits _ ran
    cases same
  · apply List.pairwise_iff_forall_sublist.mpr
    intro earlier later within n first same
    obtain ⟨_, other, _⟩ := hits earlier (within.subset List.mem_cons_self)
    rw [other] at same
    cases same

theorem progress_idle {t : Table} (filed : t.Filed) {task : Task} (resting : task.leaving? = none)
    (owing : task.endings = []) : Progress t task (t, idle, []) := by
  refine progress_of_removal filed rfl (fun _ member => member) (fun _ member => Or.inl member)
    ?_ ?_ ?_ rfl ?_
  · intro n member
    cases member
  · intro n leaving
    rw [resting] at leaving
    cases leaving
  · rw [owing]
    exact fun _ member => member
  · intro deed member
    cases member

theorem progress_of_without {t table : Table} {task left : Task} {n : Nat} (filed : t.Filed)
    (out : Table.Without t n table) (stood : n ∈ t.pending) (owing : task.endings = [])
    (arriving : task.leaving? = none) (subjects : left.subjects = [n])
    (owed : left.endings.map Prod.fst = [n]) (resting : left.leaving? = none) :
    Progress t task (table, left, [.hit n]) := by
  have gone := out.mem_pending filed.toRows
  have sure : n ∈ left.endings.map Prod.fst := by
    rw [owed]
    exact List.mem_singleton_self n
  refine progress_of_removal (out.filed filed) out.requests
    (fun m member => ((gone m).mp member).1) ?_ ?_ ?_ ?_ resting ?_
  · intro m member
    by_cases same : m = n
    · exact Or.inr (Or.inr (same ▸ sure))
    · exact Or.inl ((gone m).mpr ⟨member, same⟩)
  · intro m member
    rw [subjects, List.mem_singleton] at member
    exact Or.inr (member ▸ stood)
  · intro m leaving
    rw [arriving] at leaving
    cases leaving
  · rw [owing]
    intro m member
    cases member
  · intro deed member
    exact ⟨n, List.mem_singleton.mp member, stood, fun again => ((gone n).mp again).2 rfl, sure⟩

theorem progress_seek {t : Table} (filed : t.Filed) (target : Target) (handler : Handler) :
    Progress t (.seek target handler) ((Task.seek target handler).advance t) := by
  rcases t.find_cases target with found | ⟨id, n, rfl, pending, found⟩ |
    ⟨code, n, rest, rfl, queue, found⟩
  · simp only [advance, found]
    exact progress_idle filed rfl rfl
  · simp only [advance, found]
    refine progress_of_removal filed rfl (fun _ member => member) (fun _ member => Or.inl member) ?_
      (by simp [leaving?]) (by simp [endings]) rfl (by simp)
    intro m member
    rw [subjects, List.mem_singleton] at member
    exact Or.inr ((filed.mem_pending m).mpr (Or.inl ⟨id, member ▸ pending⟩))
  · have out := filed.without_find queue
    have stood : n ∈ t.pending :=
      (filed.mem_pending n).mpr (Or.inr ⟨code, by simp [queue]⟩)
    simp only [advance, found]
    exact progress_of_without filed out stood rfl rfl rfl rfl rfl

theorem progress_evict {t : Table} (filed : t.Filed) (id : Int) (failure : Failure) :
    Progress t (.evict id failure) ((Task.evict id failure).advance t) := by
  cases found : t.pendingId? id with
  | none =>
    simp only [advance, Table.takeId, found, Table.eraseId_of_absent found]
    exact progress_idle filed rfl rfl
  | some n =>
    have out := filed.without_eraseId found
    have stood : n ∈ t.pending := (filed.mem_pending n).mpr (Or.inl ⟨id, found⟩)
    simp only [advance, Table.takeId, found]
    exact progress_of_without filed out stood rfl rfl rfl rfl rfl

theorem progress_withdraw {t : Table} (filed : t.Filed) (n : Nat) (endings : List Ending) :
    Progress t (.withdraw n endings) ((Task.withdraw n endings).advance t) := by
  have out := filed.without_unregister n
  refine progress_of_removal (out.filed filed) out.requests
    (fun m member => ((out.mem_pending filed.toRows m).mp member).1) ?_ ?_ ?_
    (fun _ member => member) rfl (by simp [advance])
  · intro m member
    by_cases same : m = n
    · exact Or.inr (Or.inl (by rw [same, leaving?]))
    · exact Or.inl ((out.mem_pending filed.toRows m).mpr ⟨member, same⟩)
  · intro m member
    exact Or.inl (List.mem_cons_of_mem n member)
  · intro m leaving again
    cases leaving
    exact ((out.mem_pending filed.toRows n).mp again).2 rfl

theorem progress_clear (t : Table) (failure : Failure) :
    Progress t (.clear failure) ((Task.clear failure).advance t) := by
  have blank : ∀ n, n ∉ t.takeAll.1.pending := fun n => by
    rw [Table.pending_takeAll]
    exact List.not_mem_nil
  refine progress_of_removal (Table.filed_empty _ rfl rfl) rfl
    (fun m member => absurd member (blank m)) ?_ ?_ (by simp [leaving?]) (by simp [endings]) rfl ?_
  · intro m member
    refine Or.inr (Or.inr ?_)
    exact List.mem_map.mpr ⟨(m, some failure), List.mem_map.mpr ⟨m, member, rfl⟩, rfl⟩
  · intro m member
    obtain ⟨ending, inside, rfl⟩ := List.mem_map.mp member
    obtain ⟨n, pending, rfl⟩ := List.mem_map.mp inside
    exact Or.inr pending
  · intro deed member
    obtain ⟨n, pending, rfl⟩ := List.mem_map.mp member
    refine ⟨n, rfl, pending, blank n, ?_⟩
    exact List.mem_map.mpr ⟨(n, some failure), List.mem_map.mpr ⟨n, pending, rfl⟩, rfl⟩

theorem subjects_ofVerdict {target : Target} {n m : Nat} {verdict : Option (Except Failure Bool)}
    (member : m ∈ (ofVerdict target n verdict).subjects) : m = n := by
  rcases verdict with none | failure | _ | _ <;> cases target <;>
    simp [ofVerdict, subjects, Target.lastEnding] at member <;> exact member

theorem lastEnding_ofVerdict (target : Target) (n : Nat) (verdict : Option (Except Failure Bool)) :
    target.lastEnding n ⊆ (ofVerdict target n verdict).endings := by
  rcases verdict with none | failure | _ | _ <;> simp [ofVerdict, endings]

theorem ofVerdict_of_isEnding (target : Target) (n : Nat) {verdict : Option (Except Failure Bool)}
    (last : isEnding verdict = true) :
    (ofVerdict target n verdict).leaving? = some n ∧
      n ∈ (ofVerdict target n verdict).endings.map Prod.fst := by
  rcases verdict with none | failure | _ | _
  · cases last
  · exact ⟨rfl, List.mem_cons_self⟩
  · cases last
  · exact ⟨rfl, List.mem_cons_self⟩

theorem endings_of_leaving_ofVerdict {target : Target} {n m : Nat}
    {verdict : Option (Except Failure Bool)}
    (leaving : (ofVerdict target n verdict).leaving? = some m) :
    m ∈ (ofVerdict target n verdict).endings.map Prod.fst := by
  cases last : isEnding verdict with
  | true =>
    obtain ⟨same, owed⟩ := ofVerdict_of_isEnding target n last
    rw [same] at leaving
    cases leaving
    exact owed
  | false =>
    rcases verdict with none | failure | _ | _
    · cases leaving
    · cases last
    · cases leaving
    · cases last

theorem mem_deedsOfVerdict {n : Nat} {verdict : Option (Except Failure Bool)} {deed : Deed}
    (member : deed ∈ deedsOfVerdict n verdict) :
    deed = .ran n ∧ verdict.isSome = true ∨ deed = .hit n ∧ isEnding verdict = true := by
  rcases List.mem_append.mp member with member | member
  · split at member
    · rename_i some
      exact Or.inl ⟨List.mem_singleton.mp member, some⟩
    · cases member
  · split at member
    · rename_i last
      exact Or.inr ⟨List.mem_singleton.mp member, last⟩
    · cases member

theorem progress_serve {t : Table} (filed : t.Filed) (target : Target) (n : Nat)
    (handler : Handler) :
    Progress t (.serve target n handler) ((Task.serve target n handler).advance t) := by
  have outcomes := fun m => t.outcome?_handle n m handler
  have pending := t.pending_handle n handler
  refine ⟨filed.handle n handler, t.length_handle n handler, ?_, ?_, ?_, ?_, by simp [leaving?], ?_,
    ?_, ?_, ?_, ?_, ?_⟩
  · intro m result ended
    exact (outcomes m).trans ended
  · intro m member
    exact pending ▸ member
  · intro m member
    exact Or.inl (pending.symm ▸ member)
  · intro m member
    exact Or.inl (List.mem_singleton.mpr (subjects_ofVerdict member))
  · intro m member
    refine Or.inr ?_
    obtain ⟨ending, inside, rfl⟩ := List.mem_map.mp member
    exact List.mem_map.mpr ⟨ending, lastEnding_ofVerdict target n _ inside, rfl⟩
  · intro m leaving
    exact endings_of_leaving_ofVerdict leaving
  · intro m hit
    rcases mem_deedsOfVerdict hit with ⟨other, _⟩ | ⟨same, last⟩
    · cases other
    · cases same
      obtain ⟨leaving, ends⟩ := ofVerdict_of_isEnding target n last
      exact ⟨Or.inl (List.mem_singleton.mpr rfl), ends, Or.inr leaving⟩
  · intro m
    refine Or.inl ⟨?_, outcomes m⟩
    apply List.filterMap_eq_nil_iff.mpr
    intro deed member
    rcases mem_deedsOfVerdict member with ⟨rfl, _⟩ | ⟨rfl, _⟩ <;> rfl
  · intro m ran
    rcases mem_deedsOfVerdict ran with ⟨same, (served : (t.handle n handler).2.isSome = true)⟩ |
      ⟨other, _⟩
    · cases same
      cases ended : t.outcome? n with
      | none => rfl
      | some result =>
        have shown := Table.handle_of_ended (by rw [ended]; rfl) handler
        simp only [shown, Option.isSome_none, Bool.false_eq_true] at served
    · cases other
  · apply List.pairwise_iff_forall_sublist.mpr
    intro earlier later within m first same
    rcases mem_deedsOfVerdict (within.subset List.mem_cons_self) with ⟨other, _⟩ | ⟨other, _⟩ <;>
      · rw [other] at same
        cases same

theorem progress_settle {t : Table} (filed : t.Filed) (endings : List Ending)
    (known : ∀ n ∈ endings.map Prod.fst, n < t.requests.length) :
    Progress t (.settle endings) ((Task.settle endings).advance t) := by
  rcases endings with _ | ⟨⟨n, failure⟩, rest⟩
  · exact progress_idle filed rfl rfl
  · have inside : n < t.requests.length := known n List.mem_cons_self
    refine ⟨filed.complete n failure, t.length_complete n failure, ?_, ?_, ?_, ?_,
      by simp [leaving?], ?_, by simp [advance, leaving?], by simp [advance], ?_,
      by simp [advance], List.pairwise_singleton _ _⟩
    · intro m result ended
      exact Table.outcome?_complete_of_some ended n failure
    · intro m member
      exact t.pending_complete n failure ▸ member
    · intro m member
      exact Or.inl ((t.pending_complete n failure).symm ▸ member)
    · intro m member
      exact Or.inl (List.mem_cons_of_mem n member)
    · intro m member
      rcases List.mem_cons.mp member with rfl | member
      · exact Or.inl (Table.ended_complete inside failure)
      · exact Or.inr member
    · intro m
      by_cases same : n = m
      · subst same
        refine Or.inr ⟨?_, Table.ended_complete inside failure⟩
        cases ended : t.outcome? n with
        | some result =>
          simp [advance, completions, Deed.completion?, Table.complete_of_ended, ended]
        | none =>
          have found : t.request? n = some t.requests[n] := List.getElem?_eq_getElem inside
          have running : t.requests[n].outcome = none := by
            simpa only [Table.outcome?, found, Option.bind_some] using ended
          simp [advance, completions, Deed.completion?,
            (Table.complete_of_open found running failure).1]
      · refine Or.inl ⟨?_, t.outcome?_complete_of_ne same failure⟩
        simp [advance, completions, Deed.completion?, same]

theorem progress {t : Table} (filed : t.Filed) (task : Task)
    (known : ∀ n ∈ task.subjects, n < t.requests.length) :
    Progress t task (task.advance t) := by
  cases task with
  | seek target handler => exact progress_seek filed target handler
  | serve target n handler => exact progress_serve filed target n handler
  | evict id failure => exact progress_evict filed id failure
  | withdraw n endings => exact progress_withdraw filed n endings
  | clear failure => exact progress_clear t failure
  | settle endings => exact progress_settle filed endings known

end Task

end MarketLink.Correlation
