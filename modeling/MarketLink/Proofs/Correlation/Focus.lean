import MarketLink.Proofs.Correlation.Keys

set_option autoImplicit false

namespace MarketLink.Correlation

section Kept

variable {α : Type} {keep : α → Bool} {entries : List α} {n : Nat} {entry : α}

theorem eq_take_append_cons (found : entries[n]? = some entry) :
    entries = entries.take n ++ entry :: entries.drop (n + 1) := by
  obtain ⟨inside, rfl⟩ := List.getElem?_eq_some_iff.mp found
  rw [List.getElem_cons_drop inside, List.take_append_drop]

theorem getElem?_filter_countP (found : entries[n]? = some entry) (kept : keep entry = true) :
    (entries.filter keep)[(entries.take n).countP keep]? = some entry := by
  have parts : entries.filter keep =
      (entries.take n).filter keep ++ entry :: (entries.drop (n + 1)).filter keep := by
    conv_lhs => rw [eq_take_append_cons found]
    rw [List.filter_append, List.filter_cons_of_pos kept]
  rw [parts, List.countP_eq_length_filter, List.getElem?_append_right (Nat.le_refl _), Nat.sub_self]
  rfl

theorem countP_take_lt {m : Nat} (found : entries[n]? = some entry) (kept : keep entry = true)
    (before : n < m) : (entries.take n).countP keep < (entries.take m).countP keep := by
  obtain ⟨inside, here⟩ := List.getElem?_eq_some_iff.mp found
  have counted : (entries.take (n + 1)).countP keep = (entries.take n).countP keep + 1 := by
    rw [← List.take_append_getElem inside, here, List.countP_append, List.countP_singleton,
      if_pos kept]
  have more : (entries.take (n + 1)).countP keep ≤ (entries.take m).countP keep :=
    (List.take_sublist_take_left before).countP_le
  omega

variable {change : α → α} (stays : ∀ a, keep (change a) = keep a)
include stays

theorem filter_modify_of_pos (found : entries[n]? = some entry) (kept : keep entry = true) :
    (entries.modify n change).filter keep =
      (entries.filter keep).modify ((entries.take n).countP keep) change := by
  induction entries generalizing n with
  | nil => cases found
  | cons first rest ih =>
    cases n with
    | zero =>
      have same : first = entry := Option.some.inj found
      rw [List.modify_zero_cons, same, List.filter_cons_of_pos ((stays entry).trans kept),
        List.filter_cons_of_pos kept]
      rfl
    | succ n =>
      rw [List.modify_succ_cons, List.take_succ_cons]
      cases here : keep first with
      | true =>
        rw [List.filter_cons_of_pos here, List.filter_cons_of_pos here,
          List.countP_cons_of_pos here, List.modify_succ_cons, ih found]
      | false =>
        have out : ¬ keep first = true := ne_true_of_eq_false here
        rw [List.filter_cons_of_neg out, List.filter_cons_of_neg out,
          List.countP_cons_of_neg out, ih found]

theorem filter_modify_of_neg (found : entries[n]? = some entry) (gone : keep entry = false) :
    (entries.modify n change).filter keep = entries.filter keep := by
  obtain ⟨inside, here⟩ := List.getElem?_eq_some_iff.mp found
  have out : ¬ keep entry = true := ne_true_of_eq_false gone
  have still : ¬ keep (change entry) = true := ne_true_of_eq_false ((stays entry).trans gone)
  rw [List.modify_eq_take_cons_drop inside, here, List.filter_append, List.filter_cons_of_neg still]
  conv_rhs => rw [eq_take_append_cons found, List.filter_append, List.filter_cons_of_neg out]

end Kept

namespace Table

/-- The requests that carry an id, in order of creation. -/
def under (t : Table) (id : Int) : List Request := t.requests.filter (Request.carries id)

/-- The table as an id sees it. A request that carries the id has its rank for its number. -/
def focus (t : Table) (id : Int) : Table :=
  { requests := t.under id
    byId := ((t.pendingId? id).map fun n => (id, t.rank id n)).toList }

section Focus

variable {t after : Table} {id : Int} {n : Nat}

theorem exists_of_idOf? (carried : t.idOf? n = some id) :
    ∃ r, t.requests[n]? = some r ∧ r.carries id = true := by
  obtain ⟨r, found, same⟩ := Option.bind_eq_some_iff.mp carried
  exact ⟨r, found, (r.carries_iff id).mpr same⟩

theorem request?_focus (carried : t.idOf? n = some id) :
    (t.focus id).request? (t.rank id n) = t.request? n := by
  obtain ⟨r, found, carries⟩ := exists_of_idOf? carried
  rw [request?, request?, found]
  exact getElem?_filter_countP found carries

theorem idOf?_focus (carried : t.idOf? n = some id) :
    (t.focus id).idOf? (t.rank id n) = some id := by
  rw [idOf?, request?_focus carried]
  exact carried

theorem pendingId?_focus (t : Table) (id : Int) :
    (t.focus id).pendingId? id = (t.pendingId? id).map (t.rank id) := by
  unfold focus
  rw [pendingId?]
  cases t.pendingId? id <;> simp

theorem isSome_pendingId?_focus (t : Table) (id : Int) :
    ((t.focus id).pendingId? id).isSome = (t.pendingId? id).isSome := by
  rw [pendingId?_focus, Option.isSome_map]

theorem eq_of_rank_eq {m : Nat} (carried : t.idOf? n = some id) (also : t.idOf? m = some id)
    (same : t.rank id n = t.rank id m) : n = m := by
  obtain ⟨r, found, carries⟩ := exists_of_idOf? carried
  obtain ⟨s, foundToo, carriesToo⟩ := exists_of_idOf? also
  unfold rank at same
  rcases Nat.lt_trichotomy n m with before | equal | behind
  · have less := countP_take_lt found carries before
    omega
  · exact equal
  · have less := countP_take_lt foundToo carriesToo behind
    omega

theorem Filed.pendingId?_focus_iff (filed : t.Filed) (carried : t.idOf? n = some id) :
    (t.focus id).pendingId? id = some (t.rank id n) ↔ t.pendingId? id = some n := by
  rw [pendingId?_focus, Option.map_eq_some_iff]
  constructor
  · rintro ⟨m, pending, same⟩
    rw [← eq_of_rank_eq (filed.ofId id m pending) carried same]
    exact pending
  · intro pending
    exact ⟨n, pending, rfl⟩

theorem filed_focus (filed : t.Filed) (id : Int) : (t.focus id).Filed := by
  have lone : ∀ other m, (t.focus id).pendingId? other = some m →
      other = id ∧ ∃ n, t.pendingId? id = some n ∧ t.rank id n = m := by
    intro other m found
    unfold focus at found
    rcases pending : t.pendingId? id with _ | n
    · rw [pending] at found
      cases found
    · rw [pending] at found
      by_cases same : other = id
      · subst same
        simpa [pendingId?, List.lookup_cons] using found
      · simp [pendingId?, List.lookup_cons, beq_eq_false_iff_ne.mpr same] at found
  refine ⟨⟨?_, List.nodup_nil, List.forall_mem_nil _⟩, ?_,
    fun _ _ inside => absurd inside List.not_mem_nil, fun _ => List.nodup_nil⟩
  · unfold focus
    cases t.pendingId? id <;> simp
  · intro other m found
    obtain ⟨rfl, n, pending, rfl⟩ := lone other m found
    exact idOf?_focus (filed.ofId _ _ pending)

/-- Only the requests and what is pending under the id make up the view. -/
theorem focus_congr (requests : after.requests = t.requests)
    (pending : after.pendingId? id = t.pendingId? id) : after.focus id = t.focus id := by
  have ranks : after.rank id = t.rank id := by
    funext m
    rw [rank, requests, rank]
  rw [focus, focus, under, requests, pending, ranks, under]

variable {change : Request → Request}

theorem focus_update (carried : t.idOf? n = some id) (kept : ∀ r, (change r).key = r.key) :
    (t.update n change).focus id = (t.focus id).update (t.rank id n) change := by
  obtain ⟨r, found, carries⟩ := exists_of_idOf? carried
  have stays : ∀ a : Request, (change a).carries id = a.carries id := fun a => by
    rw [Request.carries, kept, Request.carries]
  have requests : (t.update n change).under id = (t.under id).modify (t.rank id n) change :=
    filter_modify_of_pos stays found carries
  have ranks := rank_of_keys (t.keys_update n kept) id
  rw [focus, requests, pendingId?_update, ranks]
  rfl

theorem focus_update_of_ne (elsewhere : t.idOf? n ≠ some id) (kept : ∀ r, (change r).key = r.key) :
    (t.update n change).focus id = t.focus id := by
  have stays : ∀ a : Request, (change a).carries id = a.carries id := fun a => by
    rw [Request.carries, kept, Request.carries]
  have ranks := rank_of_keys (t.keys_update n kept) id
  have requests : (t.update n change).under id = t.under id := by
    cases found : t.request? n with
    | none => rw [update_of_absent found]
    | some r =>
      have gone : r.carries id = false := by
        rw [idOf?, found, Option.bind_some] at elsewhere
        exact beq_eq_false_iff_ne.mpr elsewhere
      exact filter_modify_of_neg stays found gone
  rw [focus, requests, pendingId?_update, ranks, focus]

theorem focus_complete (carried : t.idOf? n = some id) (failure : Option Failure) :
    (t.complete n failure).1.focus id = ((t.focus id).complete (t.rank id n) failure).1 := by
  rw [complete_fst, complete_fst]
  exact focus_update carried fun r => r.key_complete failure

theorem focus_complete_of_ne (elsewhere : t.idOf? n ≠ some id) (failure : Option Failure) :
    (t.complete n failure).1.focus id = t.focus id := by
  rw [complete_fst]
  exact focus_update_of_ne elsewhere fun r => r.key_complete failure

theorem focus_handle (carried : t.idOf? n = some id) (handler : Handler) :
    (t.handle n handler).1.focus id = ((t.focus id).handle (t.rank id n) handler).1 := by
  rw [handle_fst, handle_fst]
  exact focus_update carried fun r => r.key_handle handler

theorem focus_handle_of_ne (elsewhere : t.idOf? n ≠ some id) (handler : Handler) :
    (t.handle n handler).1.focus id = t.focus id := by
  rw [handle_fst]
  exact focus_update_of_ne elsewhere fun r => r.key_handle handler

theorem handle_snd_focus (carried : t.idOf? n = some id) (handler : Handler) :
    ((t.focus id).handle (t.rank id n) handler).2 = (t.handle n handler).2 := by
  rw [handle_snd, handle_snd, request?_focus carried]

theorem focus_eraseId (t : Table) (id : Int) :
    (t.eraseId id).focus id = (t.focus id).eraseId id := by
  have erased : (t.eraseId id).focus id = { requests := t.under id } := by
    unfold focus
    rw [pendingId?_eraseId, if_pos rfl]
    rfl
  rw [erased, focus, eraseId]
  cases t.pendingId? id <;> simp

theorem focus_eraseId_of_ne {other : Int} (different : id ≠ other) :
    (t.eraseId other).focus id = t.focus id := by
  refine focus_congr rfl ?_
  rw [pendingId?_eraseId, if_neg different]

theorem focus_setQueue (t : Table) (code : Int) (queue : List Nat) :
    (t.setQueue code queue).focus id = t.focus id := focus_congr rfl rfl

theorem Filed.focus_unregister (filed : t.Filed) (carried : t.idOf? n = some id) :
    (t.unregister n).focus id = (t.focus id).unregister (t.rank id n) := by
  rw [unregister_of_id carried, unregister_of_id (idOf?_focus carried)]
  by_cases pending : t.pendingId? id = some n
  · rw [if_pos pending, if_pos ((filed.pendingId?_focus_iff carried).mpr pending), focus_eraseId]
  · rw [if_neg pending, if_neg fun found => pending ((filed.pendingId?_focus_iff carried).mp found)]

theorem focus_unregister_of_ne (elsewhere : t.idOf? n ≠ some id) :
    (t.unregister n).focus id = t.focus id := by
  rcases t.carried_cases n with absent | ⟨other, carried⟩ | ⟨code, waits⟩
  · rw [unregister_of_absent absent]
  · have different : id ≠ other := fun same => elsewhere (same ▸ carried)
    rw [unregister_of_id carried]
    split
    · exact focus_eraseId_of_ne different
    · rfl
  · rw [unregister_of_code waits, focus_setQueue]

theorem Filed.focus_evict (filed : t.Filed) (carried : t.idOf? n = some id)
    (failure : Option Failure) :
    ((t.unregister n).complete n failure).1.focus id =
      (((t.focus id).unregister (t.rank id n)).complete (t.rank id n) failure).1 := by
  have keys := t.keys_unregister n
  have still : (t.unregister n).idOf? n = some id := (idOf?_of_keys keys n).trans carried
  rw [focus_complete still, filed.focus_unregister carried, rank_of_keys keys]

theorem focus_evict_of_ne (elsewhere : t.idOf? n ≠ some id) (failure : Option Failure) :
    ((t.unregister n).complete n failure).1.focus id = t.focus id := by
  have still : (t.unregister n).idOf? n ≠ some id := by
    rw [idOf?_of_keys (t.keys_unregister n)]
    exact elsewhere
  rw [focus_complete_of_ne still, focus_unregister_of_ne elsewhere]

theorem Filed.focus_conclude (filed : t.Filed) (carried : t.idOf? n = some id)
    (verdict : Option (Except Failure Bool)) :
    (t.conclude n verdict).focus id = (t.focus id).conclude (t.rank id n) verdict := by
  rcases verdict with none | failure | last
  · rfl
  · exact filed.focus_evict carried (some failure)
  · cases last with
    | false => rfl
    | true => exact filed.focus_evict carried none

theorem focus_conclude_of_ne (elsewhere : t.idOf? n ≠ some id)
    (verdict : Option (Except Failure Bool)) : (t.conclude n verdict).focus id = t.focus id := by
  rcases t.conclude_cases n verdict with same | ⟨failure, same⟩
  · rw [same]
  · rw [same, focus_evict_of_ne elsewhere]

theorem Filed.focus_cancel (filed : t.Filed) (carried : t.idOf? n = some id) (failure : Failure) :
    (t.cancel n failure).1.focus id = ((t.focus id).cancel (t.rank id n) failure).1 :=
  filed.focus_evict carried (some failure)

theorem focus_cancel_of_ne (elsewhere : t.idOf? n ≠ some id) (failure : Failure) :
    (t.cancel n failure).1.focus id = t.focus id :=
  focus_evict_of_ne elsewhere (some failure)

theorem Filed.focus_dispatch (filed : t.Filed) (id : Int) (handler : Handler) :
    (t.dispatch (.id id) handler).1.focus id = ((t.focus id).dispatch (.id id) handler).1 := by
  rw [dispatch_id, dispatch_id, pendingId?_focus]
  cases pending : t.pendingId? id with
  | none => rfl
  | some n =>
    have carried : t.idOf? n = some id := filed.ofId id n pending
    have keys := t.keys_handle n handler
    have still : (t.handle n handler).1.idOf? n = some id := (idOf?_of_keys keys n).trans carried
    dsimp only [Option.map_some]
    rw [(filed.handle n handler).focus_conclude still, focus_handle carried, rank_of_keys keys,
      handle_snd_focus carried]

/-- A reply for another id, or for a code, is none of this id's business. -/
theorem Filed.focus_dispatch_of_ne (filed : t.Filed) {target : Target} (other : target ≠ .id id)
    (handler : Handler) : (t.dispatch target handler).1.focus id = t.focus id := by
  unfold Table.dispatch
  rcases t.find_cases target with
    found | ⟨own, n, rfl, pending, found⟩ | ⟨code, n, rest, rfl, queue, found⟩
  · rw [found]
  · -- pending under its own id, which is another one
    rw [found]
    have elsewhere : t.idOf? n ≠ some id := by
      rw [filed.ofId own n pending]
      exact fun same => other (congrArg Target.id (Option.some.inj same))
    have still : (t.handle n handler).1.idOf? n ≠ some id :=
      (idOf?_of_keys (t.keys_handle n handler) n).trans_ne elsewhere
    dsimp only
    rw [focus_conclude_of_ne still, focus_handle_of_ne elsewhere]
  · -- first in the queue of a code, so without an id
    rw [found]
    have elsewhere : (t.setQueue code rest).idOf? n ≠ some id := fun carried =>
      filed.not_queued_of_id carried code (queue ▸ List.mem_cons_self)
    let shown := (t.setQueue code rest).handle n handler
    have still : shown.1.idOf? n ≠ some id :=
      (idOf?_of_keys (keys_handle _ n handler) n).trans_ne elsewhere
    have concluded : (shown.1.conclude n shown.2).idOf? n ≠ some id :=
      (idOf?_of_keys (keys_conclude _ n shown.2) n).trans_ne still
    dsimp only
    rw [focus_complete_of_ne concluded, focus_conclude_of_ne still, focus_handle_of_ne elsewhere,
      focus_setQueue]

theorem Filed.focus_fail (filed : t.Filed) (id : Int) (failure : Failure) :
    (t.fail id failure).1.focus id = ((t.focus id).fail id failure).1 := by
  unfold Table.fail takeId
  rw [pendingId?_focus]
  cases pending : t.pendingId? id with
  | none => exact focus_eraseId t id
  | some n =>
    have still : (t.eraseId id).idOf? n = some id := filed.ofId id n pending
    dsimp only [Option.map_some]
    rw [focus_complete still, focus_eraseId]
    rfl

theorem Filed.focus_fail_of_ne (filed : t.Filed) {other : Int} (different : id ≠ other)
    (failure : Failure) : (t.fail other failure).1.focus id = t.focus id := by
  unfold Table.fail takeId
  cases pending : t.pendingId? other with
  | none => exact focus_eraseId_of_ne different
  | some n =>
    have elsewhere : (t.eraseId other).idOf? n ≠ some id := by
      intro carried
      have own : t.idOf? n = some other := filed.ofId other n pending
      exact different (Option.some.inj (carried.symm.trans own))
    dsimp only
    rw [focus_complete_of_ne elsewhere, focus_eraseId_of_ne different]

theorem Filed.focus_abandon (filed : t.Filed) (carried : t.idOf? n = some id) :
    (t.abandon n).1.focus id = ((t.focus id).abandon (t.rank id n)).1 := by
  rw [abandon_of_codeOf?_eq_none (codeOf?_eq_none_of_idOf? carried),
    abandon_of_codeOf?_eq_none (codeOf?_eq_none_of_idOf? (idOf?_focus carried))]
  exact filed.focus_cancel carried .cancelled

theorem focus_abandon_of_ne (elsewhere : t.idOf? n ≠ some id) :
    (t.abandon n).1.focus id = t.focus id := by
  cases waits : t.codeOf? n with
  | some code =>
    rw [abandon_of_code waits]
    exact focus_complete_of_ne elsewhere (some .cancelled)
  | none =>
    rw [abandon_of_codeOf?_eq_none waits]
    exact focus_cancel_of_ne elsewhere .cancelled

theorem rank_create (r : Request) (old : n ≤ t.requests.length) :
    (t.create r).1.rank id n = t.rank id n := by
  unfold rank create
  rw [List.take_append_of_le_length old]

theorem Filed.focus_create (filed : t.Filed) (id : Int) (r : Request) :
    (t.create r).1.focus id =
      { t.focus id with requests := t.under id ++ [r].filter (Request.carries id) } := by
  have pending : ((t.create r).1.pendingId? id).map (fun n => (id, (t.create r).1.rank id n)) =
      (t.pendingId? id).map fun n => (id, t.rank id n) := by
    show (t.pendingId? id).map _ = _
    refine Option.map_congr fun n found => ?_
    have inside := filed.inside_of_pending ((filed.mem_pending n).mpr (Or.inl ⟨id, found⟩))
    rw [rank_create r (Nat.le_of_lt inside)]
  rw [focus, pending, under, Table.create, List.filter_append]
  rfl

theorem focus_register (carried : t.idOf? n = some id) :
    (t.register n).1.focus id = ((t.focus id).register (t.rank id n)).1 := by
  rw [register_of_id carried, register_of_id (idOf?_focus carried), isSome_pendingId?_focus]
  cases pending : t.pendingId? id with
  | some _ => rfl
  | none =>
    have free : (t.focus id).byId = [] := by
      rw [focus, pending]
      rfl
    have taken : ({ t with byId := (id, n) :: t.byId } : Table).focus id =
        { requests := t.under id, byId := [(id, t.rank id n)] } := by
      rw [focus, pendingId?_pushId, if_pos rfl]
      rfl
    simp only [Option.isSome_none, Bool.false_eq_true, ↓reduceIte, taken, free]
    rfl

theorem focus_register_of_ne (elsewhere : t.idOf? n ≠ some id) :
    (t.register n).1.focus id = t.focus id := by
  rcases t.register_cases n with same | ⟨other, carried, _, same⟩ | ⟨_, _, same⟩
  · rw [same]
  · have different : id ≠ other := fun equal => elsewhere (equal ▸ carried)
    rw [same]
    refine focus_congr rfl ?_
    rw [pendingId?_pushId, if_neg different]
  · rw [same, focus_setQueue]

theorem Filed.focus_enroll (filed : t.Filed) {r : Request} (carries : r.key.id? = some id) :
    (t.enroll r).1.focus id = ((t.focus id).enroll r).1 := by
  have carried : (t.create r).1.idOf? t.requests.length = some id :=
    (t.idOf?_create_self r).trans carries
  have created : (t.create r).1.focus id = ((t.focus id).create r).1 := by
    rw [filed.focus_create, List.filter_singleton, (r.carries_iff id).mpr carries]
    rfl
  have last : (t.create r).1.rank id t.requests.length = (t.under id).length := by
    rw [rank_create r (Nat.le_refl _), rank, List.take_length, List.countP_eq_length_filter, under]
  rw [Table.enroll, focus_register carried, created, last]
  rfl

theorem Filed.focus_enroll_of_ne (filed : t.Filed) {r : Request} (elsewhere : r.key.id? ≠ some id) :
    (t.enroll r).1.focus id = t.focus id := by
  have other : (t.create r).1.idOf? t.requests.length ≠ some id := by
    rw [idOf?_create_self]
    exact elsewhere
  have gone : r.carries id = false := beq_eq_false_iff_ne.mpr elsewhere
  rw [Table.enroll, focus_register_of_ne other, filed.focus_create, List.filter_singleton, gone,
    Bool.cond_false, List.append_nil]
  rfl

def ranks (t : Table) (id : Int) (numbers : List Nat) : List Nat :=
  (numbers.filter fun n => t.idOf? n == some id).map (t.rank id)

theorem ranks_of_keys (same : after.keys = t.keys) (numbers : List Nat) :
    after.ranks id numbers = t.ranks id numbers := by
  unfold ranks
  rw [rank_of_keys same]
  simp only [idOf?_of_keys same]

theorem focus_completeAll (numbers : List Nat) (failure : Failure) :
    (t.completeAll numbers failure).focus id =
      (t.focus id).completeAll (t.ranks id numbers) failure := by
  induction numbers generalizing t with
  | nil => rfl
  | cons n rest ih =>
    show ((t.complete n (some failure)).1.completeAll rest failure).focus id = _
    rw [ih, ranks_of_keys (t.keys_complete n _)]
    by_cases carried : t.idOf? n = some id
    · have first : t.ranks id (n :: rest) = t.rank id n :: t.ranks id rest := by
        simp [ranks, carried]
      rw [first, focus_complete carried]
      rfl
    · have passed : t.ranks id (n :: rest) = t.ranks id rest := by
        simp [ranks, carried]
      rw [passed, focus_complete_of_ne carried]

theorem Filed.filter_pending (filed : t.Filed) (id : Int) :
    (t.pending.filter fun n => t.idOf? n == some id) = (t.pendingId? id).toList := by
  have found : ∀ m, m ∈ (t.pending.filter fun n => t.idOf? n == some id) ↔
      t.pendingId? id = some m := by
    intro m
    rw [List.mem_filter, filed.mem_pending, beq_iff_eq]
    constructor
    · rintro ⟨⟨other, pending⟩ | ⟨code, queued⟩, carried⟩
      · have same := (filed.ofId other m pending).symm.trans carried
        exact Option.some.inj same ▸ pending
      · exact absurd queued (filed.not_queued_of_id carried code)
    · intro pending
      exact ⟨Or.inl ⟨id, pending⟩, filed.ofId id m pending⟩
  -- both lists have the same entries, each once, and one of them has at most one
  have once := filed.nodup_pending.filter fun n => t.idOf? n == some id
  have perm : (t.pending.filter fun n => t.idOf? n == some id).Perm (t.pendingId? id).toList := by
    refine (List.perm_ext_iff_of_nodup once ?_).mpr fun m => ?_
    · cases t.pendingId? id <;> simp
    · rw [found, Option.mem_toList]
  cases pending : t.pendingId? id with
  | none =>
    rw [pending] at perm
    exact perm.eq_nil
  | some n =>
    rw [pending] at perm
    exact List.perm_singleton.mp perm

theorem Filed.focus_teardown (filed : t.Filed) (id : Int) (failure : Failure) :
    (t.teardown failure).focus id = (t.focus id).teardown failure := by
  have numbers : t.takeAll.1.ranks id t.takeAll.2 = (t.focus id).takeAll.2 := by
    show (t.pending.filter fun n => t.idOf? n == some id).map (t.rank id) = (t.focus id).pending
    rw [filed.filter_pending, pending, focus]
    cases t.pendingId? id <;> rfl
  show (t.takeAll.1.completeAll t.takeAll.2 failure).focus id = _
  rw [focus_completeAll, numbers]
  rfl

end Focus

end Table

end MarketLink.Correlation
