
set_option autoImplicit false

namespace MarketLink

/-- How many guards are out, and whether the gate has closed. -/
structure Gate where
  active : Nat := 0
  closing : Bool := false
  deriving Repr, DecidableEq

namespace Gate

/-- Gives out a guard unless the gate has closed; says whether it did. -/
def acquire (g : Gate) : Gate × Bool :=
  if g.closing then (g, false) else ({ g with active := g.active + 1 }, true)

/-- Takes a guard back; says whether waiters are to be notified: the gate has closed and this was
the last guard. -/
def release (g : Gate) : Gate × Bool :=
  let active := g.active - 1
  ({ g with active }, g.closing && active == 0)

def beginClose (g : Gate) : Gate × Bool := ({ g with closing := true }, !g.closing)

end Gate

/-- Where a waiter is; `noticed` says that the notice came after it enlisted. -/
inductive Waiter where
  | starting
  | enlisted (noticed : Bool)
  | parked (noticed : Bool)
  | returned
  deriving Repr, DecidableEq

namespace Waiter

def enlist : Waiter → Waiter
  | .starting => .enlisted false
  | w => w

def look (g : Gate) : Waiter → Waiter
  | .enlisted noticed => if g.active = 0 then .returned else .parked noticed
  | w => w

def resume : Waiter → Waiter
  | .parked true => .starting
  | w => w

def notice : Waiter → Waiter
  | .enlisted _ => .enlisted true
  | .parked _ => .parked true
  | w => w

def poll (g : Gate) (w : Waiter) : Waiter := w.resume.enlist.look g

end Waiter

/-- A gate with the guards that are out and everyone who waits. -/
structure Rundown where
  gate : Gate := {}
  guards : List Bool := []
  waiters : List Waiter := []
  deriving Repr, DecidableEq

namespace Rundown

inductive Step where
  | acquire
  | release (guard : Nat)
  | close
  | wait
  deriving Repr, DecidableEq

inductive Answer where
  | guard (number : Option Nat)
  | held (was : Bool)
  | first (was : Bool)
  | waiter (number : Nat)
  deriving Repr, DecidableEq

def act (r : Rundown) : Step → Rundown × Answer
  | .acquire =>
    match r.gate.acquire with
    | (gate, true) => ({ r with gate, guards := r.guards ++ [true] }, .guard r.guards.length)
    | (gate, false) => ({ r with gate }, .guard none)
  | .release guard =>
    if r.guards[guard]? = some true then
      let (gate, drained) := r.gate.release
      ({ gate, guards := r.guards.set guard false
         waiters := if drained then r.waiters.map Waiter.notice else r.waiters }, .held true)
    else (r, .held false)
  | .close =>
    let (gate, first) := r.gate.beginClose
    ({ r with gate }, .first first)
  | .wait => ({ r with waiters := r.waiters ++ [.starting] }, .waiter r.waiters.length)

def settle (r : Rundown) : Rundown := { r with waiters := r.waiters.map (Waiter.poll r.gate) }

def returned (r : Rundown) : List Nat :=
  r.waiters.zipIdx.filterMap fun (w, n) => if w = .returned then some n else none

/-- Does one step and lets waiters go on; gives the waiters that returned in it. -/
def step (r : Rundown) (s : Step) : Rundown × Answer × List Nat :=
  let (acted, answer) := r.act s
  let after := acted.settle
  (after, answer, after.returned.filter fun n => !r.returned.contains n)

end Rundown

end MarketLink
