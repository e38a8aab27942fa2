import MarketLink.Correlation.Table

set_option autoImplicit false

namespace MarketLink.Correlation

/-- The key of a request to be created; one without an id draws its number from the table. -/
inductive NewKey where
  | withId (id : Int)
  | ticker (id : Int)
  | withoutId (code : Int)
  deriving Repr, DecidableEq

/-- One thing asked of a table. -/
inductive Operation where
  | seed (first : Int)
  | allocate
  | create (key : NewKey) (slot : Slot) (streaming : Bool)
  | register (request : Nat)
  | hangUp (request : Nat)
  | dispatch (target : Target) (handler : Handler)
  | handle (request : Nat) (handler : Handler)
  | complete (request : Nat) (failure : Option Failure)
  | cancel (request : Nat) (failure : Failure)
  | abandon (request : Nat)
  | fail (id : Int) (failure : Failure)
  | teardown (failure : Failure)

inductive Answer where
  | done
  | id (result : Except Failure Int)
  | created (request : Request)
  | registered (result : Except Failure Unit)
  /-- Whether a request was found, and the kind of the slot that the handler saw. -/
  | dispatched (routed : Bool) (ran : Option String)
  | handled (verdict : Option (Except Failure Bool))
  | live (was : Bool)

namespace Table

def newKey (t : Table) : NewKey → Table × Key
  | .withId id => (t, .withId id)
  | .ticker id => (t, .ticker id)
  | .withoutId code => t.keyOfCode code

def openKind? (t : Table) (n : Nat) : Option String :=
  ((t.request? n).bind Request.openSlot?).map Slot.kind

def perform (t : Table) : Operation → Table × Answer
  | .seed first => (t.seed first, .done)
  | .allocate =>
    let (t, id) := t.allocate
    (t, .id id)
  | .create key slot streaming =>
    let (t, key) := t.newKey key
    let request := Request.new key slot streaming
    ((t.create request).1, .created request)
  | .register n =>
    let (t, result) := t.register n
    (t, .registered result)
  | .hangUp n => (t.update n Request.hangUp, .done)
  | .dispatch target handler =>
    let (after, routed) := t.dispatch target handler
    (after, .dispatched routed.isSome (routed.bind t.openKind?))
  | .handle n handler =>
    let (t, verdict) := t.handle n handler
    (t, .handled verdict)
  | .complete n failure =>
    let (t, was) := t.complete n failure
    (t, .live was)
  | .cancel n failure =>
    let (t, was) := t.cancel n failure
    (t, .live was)
  | .abandon n =>
    let (t, was) := t.abandon n
    (t, .live was)
  | .fail id failure =>
    let (t, was) := t.fail id failure
    (t, .live was)
  | .teardown failure => (t.teardown failure, .done)

/-- One turn of a table whose callers look on: they look at the outcomes of the turn before, then
one operation is carried out, and its news are gathered. -/
def turn (t : Table) (operation : Operation) : Table × Answer × List (Nat × News) :=
  let (after, answer) := t.collect.perform operation
  (after, answer, t.news after)

def run (t : Table) (operations : List Operation) : Table :=
  operations.foldl (fun t operation => (t.perform operation).1) t

end Table

end MarketLink.Correlation
