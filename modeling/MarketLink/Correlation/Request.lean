import MarketLink.Correlation.Slot

set_option autoImplicit false

namespace MarketLink.Correlation

inductive Key where
  | withId (id : Int)
  /-- By the code of the reply, the oldest request first; `seq` only tells requests apart. -/
  | withoutId (code seq : Int)
  | ticker (id : Int)
  deriving Repr, DecidableEq

namespace Key

def id? : Key → Option Int
  | .withId id => some id
  | .ticker id => some id
  | .withoutId _ _ => none

def text : Key → String
  | .withId id => "WithId(" ++ toString id ++ ")"
  | .withoutId code seq =>
    "WithoutId \x7b code: " ++ toString code ++ ", seq: " ++ toString seq ++ " \x7d"
  | .ticker id => "Ticker(" ++ toString id ++ ")"

end Key

structure Request where
  key : Key
  slot : Option Slot
  /-- A stream has a reader of items; any other request has a caller that waits for the outcome. -/
  streaming : Bool
  listening : Bool := true
  items : List Item := []
  outcome : Option (Except Failure Slot) := none
  collected : Bool := false

namespace Request

def new (key : Key) (slot : Slot) (streaming : Bool) : Request :=
  { key, slot := some slot, streaming }

def isDone (r : Request) : Bool := r.outcome.isSome

def text (r : Request) : String :=
  "Request \x7b key: " ++ r.key.text ++ ", done: " ++ (if r.isDone then "true" else "false") ++
    " \x7d"

def openSlot? (r : Request) : Option Slot := if r.isDone then none else r.slot

def handle (r : Request) (handler : Handler) : Request × Option (Except Failure Bool) :=
  if r.isDone then (r, none)
  else
    match r.slot with
    | some slot =>
      let handled := handler slot
      ({ r with slot := some handled.slot, items := r.items ++ handled.items },
        some handled.verdict)
    | none => (r, some (.error (.internal "response slot already released")))

def outcomeOf (failure : Option Failure) (slot : Option Slot) : Except Failure Slot :=
  match failure, slot with
  | some failure, _ => .error failure
  | none, some slot => .ok slot
  | none, none => .error (.internal "request completed without a response")

def complete (r : Request) (failure : Option Failure) : Request × Bool :=
  if r.isDone then (r, false)
  else ({ r with slot := none, outcome := some (outcomeOf failure r.slot) }, true)

def hangUp (r : Request) : Request := { r with listening := false }

def collect (r : Request) : Request := { r with collected := r.isDone }

/-- The slot that is still held: by the request, or in an outcome that its caller has not looked
at. -/
def heldSlot? (r : Request) : Option Slot :=
  match r.outcome with
  | none => r.slot
  | some (.ok slot) => if !r.streaming && r.listening && !r.collected then some slot else none
  | some (.error _) => none

def sendsTicks (r : Request) : Bool := (r.heldSlot?.map Slot.isMarketData).getD false

theorem complete_of_isDone (r : Request) (failure : Option Failure) (h : r.isDone = true) :
    r.complete failure = (r, false) := by
  simp [complete, h]

theorem isDone_complete (r : Request) (failure : Option Failure) :
    (r.complete failure).1.isDone = true := by
  unfold complete
  split
  · assumption
  · rfl

theorem handle_of_isDone (r : Request) (handler : Handler) (h : r.isDone = true) :
    r.handle handler = (r, none) := by
  simp [handle, h]

end Request

/-- What the holder of a request gets to know. -/
inductive News where
  | completed (failure : Option Failure)
  | item (item : Item)
  | ended
  | outcome (result : Except Failure Slot)

/-- What there is to know when a request has gone from one state to a later one. A stream whose last
slot went to a caller ends only when that caller has looked at the outcome. -/
def Request.news (before after : Request) : List News :=
  let items := (after.items.drop before.items.length).map .item
  let ended := if before.sendsTicks && !after.sendsTicks then [.ended] else []
  match before.outcome, after.outcome with
  | none, some result =>
    (if after.streaming then [.completed (match result with | .error e => some e | .ok _ => none)]
      else []) ++
    items ++ ended ++
    (if !after.streaming && after.listening then [.outcome result] else [])
  | _, _ => items ++ ended

end MarketLink.Correlation
