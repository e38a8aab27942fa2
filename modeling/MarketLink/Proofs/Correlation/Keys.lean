import MarketLink.Proofs.Correlation.Reply

set_option autoImplicit false

namespace MarketLink.Correlation

/-- A change that keeps the mark of every entry keeps the marks of the whole list. -/
theorem map_modify_of_kept {α β : Type} {mark : α → β} {change : α → α}
    (kept : ∀ a, mark (change a) = mark a) (entries : List α) (n : Nat) :
    (entries.modify n change).map mark = entries.map mark := by
  apply List.ext_getElem?
  intro m
  rw [List.getElem?_map, List.getElem?_map, List.getElem?_modify]
  by_cases same : n = m
  · subst same
    cases entries[n]? <;> simp [kept]
  · simp [same]

def Request.carries (id : Int) (r : Request) : Bool := r.key.id? == some id

theorem Request.carries_iff (id : Int) (r : Request) : r.carries id = true ↔ r.key.id? = some id :=
  beq_iff_eq

namespace Table

def keys (t : Table) : List Key := t.requests.map Request.key

/-- How many requests that carry an id were created before the request with a number. -/
def rank (t : Table) (id : Int) (n : Nat) : Nat := (t.requests.take n).countP (Request.carries id)

theorem idOf?_eq_keys (t : Table) (n : Nat) : t.idOf? n = t.keys[n]?.bind Key.id? := by
  rw [idOf?, request?, keys, List.getElem?_map, Option.bind_map]
  rfl

theorem rank_eq_keys (t : Table) (id : Int) (n : Nat) :
    t.rank id n = (t.keys.take n).countP fun key => key.id? == some id := by
  rw [keys, ← List.map_take, List.countP_map]
  rfl

section Keys

variable {t after : Table} {id : Int} {n : Nat}

theorem inside_of_idOf? (carried : t.idOf? n = some id) : n < t.requests.length := by
  obtain ⟨r, found, _⟩ := Option.bind_eq_some_iff.mp carried
  exact (List.getElem?_eq_some_iff.mp found).1

theorem idOf?_of_keys (same : after.keys = t.keys) (n : Nat) : after.idOf? n = t.idOf? n := by
  rw [idOf?_eq_keys, same, idOf?_eq_keys]

theorem rank_of_keys (same : after.keys = t.keys) (id : Int) : after.rank id = t.rank id := by
  funext n
  rw [rank_eq_keys, same, rank_eq_keys]

/-- New requests stand behind the old ones. -/
theorem idOf?_of_prefix (grown : t.keys <+: after.keys) (carried : t.idOf? n = some id) :
    after.idOf? n = some id := by
  obtain ⟨more, whole⟩ := grown
  have inside : n < t.keys.length := by
    rw [keys, List.length_map]
    exact inside_of_idOf? carried
  rw [idOf?_eq_keys, ← whole, List.getElem?_append_left inside, ← idOf?_eq_keys]
  exact carried

theorem rank_of_prefix (grown : t.keys <+: after.keys) (old : n ≤ t.requests.length) :
    after.rank id n = t.rank id n := by
  obtain ⟨more, whole⟩ := grown
  have inside : n ≤ t.keys.length := by
    rw [keys, List.length_map]
    exact old
  rw [rank_eq_keys, ← whole, List.take_append_of_le_length inside, ← rank_eq_keys]

variable (t : Table) (n : Nat)

theorem keys_update {change : Request → Request} (kept : ∀ r, (change r).key = r.key) :
    (t.update n change).keys = t.keys :=
  map_modify_of_kept kept t.requests n

@[simp] theorem keys_complete (failure : Option Failure) :
    (t.complete n failure).1.keys = t.keys := by
  rw [complete_fst]
  exact t.keys_update n fun r => r.key_complete failure

@[simp] theorem keys_handle (handler : Handler) : (t.handle n handler).1.keys = t.keys := by
  rw [handle_fst]
  exact t.keys_update n fun r => r.key_handle handler

@[simp] theorem keys_unregister : (t.unregister n).keys = t.keys := by
  rw [keys, requests_unregister, keys]

@[simp] theorem keys_register : (t.register n).1.keys = t.keys := by
  rw [keys, requests_register, keys]

@[simp] theorem keys_setQueue (code : Int) (queue : List Nat) :
    (t.setQueue code queue).keys = t.keys := rfl

@[simp] theorem keys_eraseId (id : Int) : (t.eraseId id).keys = t.keys := rfl

@[simp] theorem keys_create (r : Request) : (t.create r).1.keys = t.keys ++ [r.key] := by
  rw [keys, create, List.map_append]
  rfl

@[simp] theorem keys_conclude (verdict : Option (Except Failure Bool)) :
    (t.conclude n verdict).keys = t.keys := by
  rcases t.conclude_cases n verdict with same | ⟨failure, same⟩ <;> simp [same]

@[simp] theorem keys_dispatch (target : Target) (handler : Handler) :
    (t.dispatch target handler).1.keys = t.keys := by
  unfold dispatch
  rcases t.find_cases target with found | ⟨_, n, rfl, _, found⟩ | ⟨_, n, _, rfl, _, found⟩ <;>
    simp [found]

@[simp] theorem keys_fail (id : Int) (failure : Failure) : (t.fail id failure).1.keys = t.keys := by
  unfold fail takeId
  cases t.pendingId? id <;> simp

@[simp] theorem keys_cancel (failure : Failure) : (t.cancel n failure).1.keys = t.keys := by
  simp [cancel]

@[simp] theorem keys_abandon : (t.abandon n).1.keys = t.keys := by
  unfold abandon
  split <;> simp

@[simp] theorem keys_completeAll (numbers : List Nat) (failure : Failure) :
    (t.completeAll numbers failure).keys = t.keys := by
  induction numbers generalizing t with
  | nil => rfl
  | cons n rest ih => exact (ih _).trans (t.keys_complete n (some failure))

@[simp] theorem keys_teardown (failure : Failure) : (t.teardown failure).keys = t.keys :=
  keys_completeAll t.takeAll.1 t.takeAll.2 failure

end Keys

section Filed

variable {t : Table} {id : Int} {n : Nat}

theorem Filed.evict (filed : t.Filed) (n : Nat) (failure : Option Failure) :
    ((t.unregister n).complete n failure).1.Filed :=
  ((filed.without_unregister n).filed filed).complete n failure

theorem Filed.conclude (filed : t.Filed) (n : Nat) (verdict : Option (Except Failure Bool)) :
    (t.conclude n verdict).Filed := by
  rcases t.conclude_cases n verdict with same | ⟨failure, same⟩
  · rw [same]
    exact filed
  · rw [same]
    exact filed.evict n failure

theorem Filed.dispatch (filed : t.Filed) (target : Target) (handler : Handler) :
    (t.dispatch target handler).1.Filed := by
  unfold Table.dispatch
  rcases t.find_cases target with found | ⟨_, n, rfl, _, found⟩ | ⟨code, n, rest, rfl, queue, found⟩
  · rw [found]
    exact filed
  · rw [found]
    exact (filed.handle n handler).conclude n _
  · rw [found]
    have popped : (t.setQueue code rest).Filed := (filed.without_find queue).filed filed
    exact ((popped.handle n handler).conclude n _).complete n none

theorem Filed.fail (filed : t.Filed) (id : Int) (failure : Failure) :
    (t.fail id failure).1.Filed := by
  unfold Table.fail takeId
  cases pending : t.pendingId? id with
  | none =>
    rw [eraseId_of_absent pending]
    exact filed
  | some n => exact ((filed.without_eraseId pending).filed filed).complete n (some failure)

theorem Filed.abandon (filed : t.Filed) (n : Nat) : (t.abandon n).1.Filed := by
  cases waits : t.codeOf? n with
  | some code =>
    rw [abandon_of_code waits]
    exact filed.complete n (some .cancelled)
  | none =>
    rw [abandon_of_codeOf?_eq_none waits]
    exact filed.evict n (some .cancelled)

theorem Filed.inside_of_pending (filed : t.Filed) (member : n ∈ t.pending) :
    n < t.requests.length := by
  rcases (filed.mem_pending n).mp member with ⟨id, found⟩ | ⟨code, queued⟩
  · exact inside_of_idOf? (filed.ofId id n found)
  · exact inside_of_codeOf? (filed.ofCode code n queued)

/-- Creates a request and makes it pending; one whose id is taken is created in vain. -/
def enroll (t : Table) (r : Request) : Table × Except Failure Unit :=
  (t.create r).1.register t.requests.length

theorem idOf?_create_self (t : Table) (r : Request) :
    (t.create r).1.idOf? t.requests.length = r.key.id? := by
  simp [idOf?, request?, create]

theorem Filed.enroll (filed : t.Filed) (r : Request) : (t.enroll r).1.Filed := by
  refine (filed.create r).register fun member => ?_
  have inside : t.requests.length < t.requests.length := filed.inside_of_pending member
  omega

/-- A request is let in if and only if none is pending under its id. -/
theorem enroll_of_id {r : Request} (carries : r.key.id? = some id) :
    t.enroll r =
      if (t.pendingId? id).isSome then
        ((t.create r).1, .error (.internal ("id " ++ toString id ++ " is already pending")))
      else ({ (t.create r).1 with byId := (id, t.requests.length) :: t.byId }, .ok ()) := by
  have carried : (t.create r).1.idOf? t.requests.length = some id :=
    (t.idOf?_create_self r).trans carries
  rw [Table.enroll, register_of_id carried]
  rfl

theorem enroll_snd {r : Request} (carries : r.key.id? = some id) :
    (t.enroll r).2 =
      if (t.pendingId? id).isSome then
        .error (.internal ("id " ++ toString id ++ " is already pending"))
      else .ok () := by
  rw [enroll_of_id carries]
  split <;> rfl

theorem Filed.completeAll (filed : t.Filed) (numbers : List Nat) (failure : Failure) :
    (t.completeAll numbers failure).Filed := by
  induction numbers generalizing t with
  | nil => exact filed
  | cons n rest ih => exact ih (filed.complete n (some failure))

theorem Filed.teardown (t : Table) (failure : Failure) : (t.teardown failure).Filed :=
  Filed.completeAll (filed_empty _ rfl rfl) _ failure

end Filed

end Table

end MarketLink.Correlation
