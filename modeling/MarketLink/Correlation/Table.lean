import MarketLink.Correlation.Request

set_option autoImplicit false

namespace MarketLink.Correlation

/-- All requests in order of creation, where the pending ones are found, and the counters. -/
structure Table where
  requests : List Request := []
  /-- Ids with the number of the request that is pending under each. -/
  byId : List (Int × Nat) := []
  /-- Reply codes with the numbers of the requests that wait for each, the oldest first. -/
  byCode : List (Int × List Nat) := []
  /-- The next id; zero until the gateway has announced its first one. -/
  nextId : Int := 0
  /-- The next number to tell requests without an id apart by. -/
  nextSeq : Int := 1

/-- What a reply says about its request. -/
inductive Target where
  | id (id : Int)
  | code (code : Int)
  deriving Repr, DecidableEq

def greatestId : Int := 2147483647

/-- The value of a counter and the counter's next state: behind the greatest id comes one, and a
counter at zero stays there. -/
def bump (counter : Int) : Int × Int :=
  if counter = 0 then (0, 0)
  else (counter, if counter = greatestId then 1 else counter + 1)

namespace Table

def empty : Table := {}

def request? (t : Table) (n : Nat) : Option Request := t.requests[n]?

def update (t : Table) (n : Nat) (change : Request → Request) : Table :=
  { t with requests := t.requests.modify n change }

def pendingId? (t : Table) (id : Int) : Option Nat := t.byId.lookup id

def queue (t : Table) (code : Int) : List Nat := (t.byCode.lookup code).getD []

/-- Replaces the queue of a code; an empty queue is not kept. -/
def setQueue (t : Table) (code : Int) (queue : List Nat) : Table :=
  let others := t.byCode.filter fun entry => entry.1 != code
  { t with byCode := if queue.isEmpty then others else (code, queue) :: others }

def eraseId (t : Table) (id : Int) : Table :=
  { t with byId := t.byId.filter fun entry => entry.1 != id }

/-- Sets the first id; ids below one count as one. -/
def seed (t : Table) (first : Int) : Table := { t with nextId := max first 1 }

def allocate (t : Table) : Table × Except Failure Int :=
  let (id, next) := bump t.nextId
  ({ t with nextId := next },
    if id = 0 then .error (.internal "correlation ids not initialised") else .ok id)

def keyOfCode (t : Table) (code : Int) : Table × Key :=
  let (seq, next) := bump t.nextSeq
  ({ t with nextSeq := next }, .withoutId code seq)

/-- Creates a request, which is not pending yet; gives its number. -/
def create (t : Table) (request : Request) : Table × Nat :=
  ({ t with requests := t.requests ++ [request] }, t.requests.length)

/-- Makes a request pending. An id under which another one is pending is refused. -/
def register (t : Table) (n : Nat) : Table × Except Failure Unit :=
  match (t.request? n).map Request.key with
  | some (.withId id) | some (.ticker id) =>
    if (t.pendingId? id).isSome then
      (t, .error (.internal ("id " ++ toString id ++ " is already pending")))
    else ({ t with byId := (id, n) :: t.byId }, .ok ())
  | some (.withoutId code _) => (t.setQueue code (t.queue code ++ [n]), .ok ())
  | none => (t, .ok ())

/-- Takes a request out of the table; another one under its id stays. -/
def unregister (t : Table) (n : Nat) : Table :=
  match (t.request? n).map Request.key with
  | some (.withId id) | some (.ticker id) =>
    if t.pendingId? id = some n then t.eraseId id else t
  | some (.withoutId code _) => t.setQueue code ((t.queue code).filter fun m => m != n)
  | none => t

/-- Finds the request that a reply is for; a request found by its code leaves the queue. -/
def find (t : Table) (target : Target) : Table × Option Nat :=
  match target with
  | .id id => (t, t.pendingId? id)
  | .code code =>
    match t.queue code with
    | [] => (t, none)
    | n :: rest => (t.setQueue code rest, some n)

def handle (t : Table) (n : Nat) (handler : Handler) :
    Table × Option (Except Failure Bool) :=
  match t.request? n with
  | none => (t, none)
  | some r => (t.update n fun _ => (r.handle handler).1, (r.handle handler).2)

/-- Completes a request; says whether this was the completion that counts. -/
def complete (t : Table) (n : Nat) (failure : Option Failure) : Table × Bool :=
  match t.request? n with
  | none => (t, false)
  | some r => (t.update n fun _ => (r.complete failure).1, (r.complete failure).2)

/-- What follows from a handler's verdict: a last reply or a failure ends the request. -/
def conclude (t : Table) (n : Nat) (verdict : Option (Except Failure Bool)) : Table :=
  match verdict with
  | none => t
  | some (.ok false) => t
  | some (.ok true) => ((t.unregister n).complete n none).1
  | some (.error failure) => ((t.unregister n).complete n (some failure)).1

/-- Hands a reply to the request that it is for; gives that request's number, or `none` when no
request is pending for it. A request found by its code gets no second reply, so it is completed in
any case. -/
def dispatch (t : Table) (target : Target) (handler : Handler) : Table × Option Nat :=
  match t.find target with
  | (t, none) => (t, none)
  | (t, some n) =>
    let (t, verdict) := t.handle n handler
    let t := t.conclude n verdict
    match target with
    | .id _ => (t, some n)
    | .code _ => ((t.complete n none).1, some n)

def takeId (t : Table) (id : Int) : Table × Option Nat := (t.eraseId id, t.pendingId? id)

/-- Fails the request that is pending under an id; says whether there was one. -/
def fail (t : Table) (id : Int) (failure : Failure) : Table × Bool :=
  match t.takeId id with
  | (t, none) => (t, false)
  | (t, some n) => ((t.complete n (some failure)).1, true)

/-- Takes a request out of the table and completes it with a failure; says whether it was still
open. -/
def cancel (t : Table) (n : Nat) (failure : Failure) : Table × Bool :=
  (t.unregister n).complete n (some failure)

/-- Completes a request whose caller has gone, and says whether it was still open. One without an id
stays in its queue, where it takes the reply that is still on its way. -/
def abandon (t : Table) (n : Nat) : Table × Bool :=
  match (t.request? n).map Request.key with
  | some (.withoutId _ _) => t.complete n (some .cancelled)
  | _ => t.cancel n .cancelled

/-- Empties the table; gives the numbers of the requests that were pending. -/
def takeAll (t : Table) : Table × List Nat :=
  ({ t with byId := [], byCode := [] }, t.byId.map Prod.snd ++ t.byCode.flatMap Prod.snd)

def completeAll (t : Table) (numbers : List Nat) (failure : Failure) : Table :=
  numbers.foldl (fun t n => (t.complete n (some failure)).1) t

/-- Completes every pending request with a failure and leaves the table empty. -/
def teardown (t : Table) (failure : Failure) : Table :=
  let (t, numbers) := t.takeAll
  t.completeAll numbers failure

def collect (t : Table) : Table := { t with requests := t.requests.map Request.collect }

/-- What the holders of requests get to know when a table has gone from one state to a later one, by
request. -/
def news (before after : Table) : List (Nat × News) :=
  (before.requests.zip after.requests).zipIdx.flatMap fun ((old, new), n) =>
    (old.news new).map (n, ·)

end Table

end MarketLink.Correlation
