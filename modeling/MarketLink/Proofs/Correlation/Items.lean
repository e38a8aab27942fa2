import MarketLink.Proofs.Correlation.Focus
import MarketLink.Proofs.Correlation.Pending

set_option autoImplicit false

namespace MarketLink.Correlation

theorem Request.items_complete (r : Request) (failure : Option Failure) :
    (r.complete failure).1.items = r.items := by
  unfold complete
  split <;> rfl

namespace Table

/-- What has been put on the stream of a request, the oldest first. -/
def items (t : Table) (n : Nat) : List Item := ((t.request? n).map Request.items).getD []

section Items

variable {t after : Table} {n : Nat}

theorem items_of_request? (same : after.request? n = t.request? n) : after.items n = t.items n := by
  rw [items, same, items]

theorem items_complete (t : Table) (m n : Nat) (failure : Option Failure) :
    (t.complete m failure).1.items n = t.items n := by
  have kept := funext fun r : Request => r.items_complete failure
  rw [items, complete_fst, request?_update]
  split
  · rw [Option.map_map, items]
    exact congrArg (fun change => ((t.request? n).map change).getD []) kept
  · rfl

theorem items_evict (t : Table) (m n : Nat) (failure : Option Failure) :
    ((t.unregister m).complete m failure).1.items n = t.items n := by
  rw [items_complete]
  exact items_of_request? (request?_unregister t m n)

theorem items_cancel (t : Table) (m n : Nat) (failure : Failure) :
    (t.cancel m failure).1.items n = t.items n :=
  t.items_evict m n (some failure)

theorem items_abandon (t : Table) (m n : Nat) : (t.abandon m).1.items n = t.items n := by
  unfold abandon
  split
  · exact t.items_complete m n _
  · exact t.items_cancel m n _

theorem items_conclude (t : Table) (m n : Nat) (verdict : Option (Except Failure Bool)) :
    (t.conclude m verdict).items n = t.items n := by
  rcases t.conclude_cases m verdict with same | ⟨failure, same⟩
  · rw [same]
  · rw [same, items_evict]

theorem items_fail (t : Table) (id : Int) (failure : Failure) (n : Nat) :
    (t.fail id failure).1.items n = t.items n := by
  unfold fail takeId
  cases t.pendingId? id with
  | none => rfl
  | some m => exact (t.eraseId id).items_complete m n _

theorem items_completeAll (t : Table) (numbers : List Nat) (failure : Failure) (n : Nat) :
    (t.completeAll numbers failure).items n = t.items n := by
  induction numbers generalizing t with
  | nil => rfl
  | cons m rest ih => exact (ih _).trans (t.items_complete m n _)

theorem items_teardown (t : Table) (failure : Failure) (n : Nat) :
    (t.teardown failure).items n = t.items n :=
  t.takeAll.1.items_completeAll t.takeAll.2 failure n

theorem items_enroll {old : Request} (found : t.request? n = some old) (r : Request) :
    (t.enroll r).1.items n = t.items n := by
  have there : (t.create r).1.request? n = t.request? n := by
    rw [request?_create_of_some found, found]
  refine Eq.trans ?_ (items_of_request? there)
  rw [items, enroll, request?, requests_register]
  rfl

theorem items_enroll_self (t : Table) (key : Key) (slot : Slot) (streaming : Bool) :
    (t.enroll (Request.new key slot streaming)).1.items t.requests.length = [] := by
  rw [items, enroll, request?, requests_register]
  simp [create, Request.new]

theorem items_handle_of_ended (ended : (t.outcome? n).isSome = true) (m : Nat) (handler : Handler) :
    (t.handle m handler).1.items n = t.items n := by
  by_cases same : m = n
  · rw [same, handle_of_ended ended]
  · exact items_of_request? (t.request?_handle_of_ne (Ne.symm same) handler)

theorem items_dispatch_of_ended (ended : (t.outcome? n).isSome = true) (target : Target)
    (handler : Handler) : (t.dispatch target handler).1.items n = t.items n := by
  unfold dispatch
  rcases t.find_cases target with found | ⟨_, m, rfl, _, found⟩ | ⟨code, m, rest, rfl, _, found⟩
  · rw [found]
  · rw [found]
    dsimp only
    rw [items_conclude, items_handle_of_ended ended]
  · have left : ((t.setQueue code rest).outcome? n).isSome = true := ended
    rw [found]
    dsimp only
    rw [items_complete, items_conclude, items_handle_of_ended left]
    rfl

end Items

section Waits

variable {t : Table} {id : Int} {n : Nat} {slot : Slot}

theorem Waits.inside (waits : t.Waits id n slot) : n < t.requests.length := by
  obtain ⟨r, found, _⟩ := waits.holds
  exact (List.getElem?_eq_some_iff.mp found).1

/-- Whatever a handler makes of the verdict, its items are on the stream. -/
theorem Waits.items_dispatch (waits : t.Waits id n slot) (handler : Handler) :
    (t.dispatch (.id id) handler).1.items n = t.items n ++ (handler slot).items := by
  obtain ⟨r, found, holds⟩ := waits.holds
  rw [dispatch_id, waits.pending]
  dsimp only
  rw [items_conclude, items, handle_fst, request?_update, if_pos rfl, items, found, Option.map_some,
    Request.handle_of_holds holds]
  rfl

end Waits

section Focus

variable {t : Table} {id : Int} {n : Nat}

theorem items_focus (carried : t.idOf? n = some id) :
    (t.focus id).items (t.rank id n) = t.items n := by
  rw [items, request?_focus carried, items]

theorem outcome?_focus (carried : t.idOf? n = some id) :
    (t.focus id).outcome? (t.rank id n) = t.outcome? n := by
  rw [outcome?, request?_focus carried, outcome?]

theorem Filed.waits_focus_iff (filed : t.Filed) (carried : t.idOf? n = some id) {slot : Slot} :
    (t.focus id).Waits id (t.rank id n) slot ↔ t.Waits id n slot := by
  have pending := filed.pendingId?_focus_iff carried
  have holds := request?_focus carried
  constructor
  · exact fun waits => ⟨pending.mp waits.pending, holds ▸ waits.holds⟩
  · exact fun waits => ⟨pending.mpr waits.pending, holds ▸ waits.holds⟩

end Focus

end Table

end MarketLink.Correlation
