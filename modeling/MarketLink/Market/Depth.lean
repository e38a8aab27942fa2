import MarketLink.Number.Decimal

set_option autoImplicit false

namespace MarketLink.Market

open MarketLink.Number

inductive Side where
  | ask
  | bid
  deriving Repr, DecidableEq

inductive DepthOperation where
  | insert
  | update
  | delete
  deriving Repr, DecidableEq

/-- Why a depth update is refused. -/
inductive DepthError where
  | positionOutOfRange (position : Int) (depth : Nat)
  | unknownOperation (code : Int)
  | unknownSide (code : Int)
  deriving Repr, DecidableEq

def DepthError.message : DepthError → String
  | .positionOutOfRange position depth =>
    "depth position " ++ toString position ++ " outside 0.." ++ toString depth
  | .unknownOperation code => "unknown depth operation " ++ toString code
  | .unknownSide code => "unknown depth side " ++ toString code

def DepthOperation.ofCode (code : Int) : Except DepthError DepthOperation :=
  match code with
  | 0 => .ok .insert
  | 1 => .ok .update
  | 2 => .ok .delete
  | _ => .error (.unknownOperation code)

def Side.ofCode (code : Int) : Except DepthError Side :=
  match code with
  | 0 => .ok .ask
  | 1 => .ok .bid
  | _ => .error (.unknownSide code)

structure DepthUpdate where
  position : Int
  /-- The market maker of a second-level row; empty otherwise. -/
  marketMaker : String
  operation : DepthOperation
  side : Side
  price : Float
  size : Decimal

structure DepthLevel where
  price : Float := 0
  size : Decimal := Decimal.zero
  marketMaker : String := ""

def DepthLevel.blank : DepthLevel := {}

/-- Two rows show the same price, size and market maker. -/
def DepthLevel.sameLevel (a b : DepthLevel) : Bool :=
  a.price == b.price && a.size.sameNumber b.size && a.marketMaker == b.marketMaker

/-- Both sides of a book at one moment, best rows first. -/
structure MarketDepth where
  bids : List DepthLevel := []
  asks : List DepthLevel := []

/-- The best row of either side. -/
structure TopOfBook where
  bid : Option DepthLevel
  ask : Option DepthLevel

def TopOfBook.isEmpty (top : TopOfBook) : Bool := top.bid.isNone && top.ask.isNone

def TopOfBook.spread (top : TopOfBook) : Option Float :=
  match top.bid, top.ask with
  | some bid, some ask => some (ask.price - bid.price)
  | _, _ => none

def TopOfBook.mid (top : TopOfBook) : Option Float :=
  match top.bid, top.ask with
  | some bid, some ask => some ((ask.price + bid.price) / 2)
  | _, _ => none

def MarketDepth.top (depth : MarketDepth) : TopOfBook := ⟨depth.bids.head?, depth.asks.head?⟩

/-- A book with room for `depth` rows on either side. -/
structure DepthBook where
  depth : Nat
  bids : List DepthLevel := []
  asks : List DepthLevel := []

namespace DepthBook

def empty (depth : Nat) : DepthBook := { depth }

def grow (rows : List DepthLevel) (count : Nat) : List DepthLevel :=
  rows ++ List.replicate (count - rows.length) DepthLevel.blank

/-- Puts a row in at `position`; at capacity the last row falls off first. -/
def insertRow (depth : Nat) (rows : List DepthLevel) (position : Nat) (level : DepthLevel) :
    List DepthLevel :=
  let kept := if depth ≤ rows.length then rows.take (depth - 1) else rows
  (grow kept position).insertIdx position level

def updateRow (rows : List DepthLevel) (position : Nat) (level : DepthLevel) : List DepthLevel :=
  (grow rows (position + 1)).set position level

def changeRows (depth : Nat) (operation : DepthOperation) (rows : List DepthLevel)
    (position : Nat) (level : DepthLevel) : List DepthLevel :=
  match operation with
  | .insert => insertRow depth rows position level
  | .update => updateRow rows position level
  | .delete => rows.eraseIdx position

def checkPosition (book : DepthBook) (position : Int) : Except DepthError Nat :=
  if 0 ≤ position ∧ position < book.depth then .ok position.toNat
  else .error (.positionOutOfRange position book.depth)

def rows (book : DepthBook) : Side → List DepthLevel
  | .bid => book.bids
  | .ask => book.asks

def withRows (book : DepthBook) (side : Side) (rows : List DepthLevel) : DepthBook :=
  match side with
  | .bid => { book with bids := rows }
  | .ask => { book with asks := rows }

def apply (book : DepthBook) (update : DepthUpdate) : Except DepthError DepthBook := do
  let position ← book.checkPosition update.position
  let level : DepthLevel := ⟨update.price, update.size, update.marketMaker⟩
  .ok (book.withRows update.side
    (changeRows book.depth update.operation (book.rows update.side) position level))

def snapshot (book : DepthBook) : MarketDepth := ⟨book.bids, book.asks⟩

def top (book : DepthBook) : TopOfBook := book.snapshot.top

end DepthBook

end MarketLink.Market
