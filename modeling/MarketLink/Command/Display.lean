import MarketLink.Session.Stream
import MarketLink.Time.Stamp

set_option autoImplicit false

namespace MarketLink.Command

open Correlation Market Number Session Text

def detailsLine (d : ContractDetails) : String :=
  d.contract.symbol ++ " " ++ d.contract.securityType ++ " " ++ d.contract.primaryExchange ++
    " con_id=" ++ wholeText d.contract.id ++ " min_tick=" ++ realText d.minTick ++ " " ++ d.longName

def barLine (b : Bar) : String :=
  b.time.display ++ " O=" ++ realText b.opening ++ " H=" ++ realText b.high ++ " L=" ++
    realText b.low ++ " C=" ++ realText b.closing ++ " V=" ++ b.volume.text

def replyLines : Reply → List String
  | .time time => [time.display]
  | .accounts accounts => accounts
  | .id id => [wholeText id]
  | .details details => details.map detailsLine
  | .bars bars => bars.map barLine

def tickLine : Tick → String
  | .price tickType price size _ =>
    "price[" ++ wholeText tickType ++ "] " ++ realText price ++ " x " ++ size.text
  | .size tickType size => "size[" ++ wholeText tickType ++ "] " ++ size.text
  | .generic tickType value => "generic[" ++ wholeText tickType ++ "] " ++ realText value
  | .text tickType value => "string[" ++ wholeText tickType ++ "] " ++ value
  | .marketDataType kind => "market data type " ++ wholeText kind
  | .requestParameters minTick exchange _ =>
    "params min_tick=" ++ realText minTick ++ " bbo=" ++ exchange

def optionalReal : Option Float → String
  | some x => "Some(" ++ realDetailedText x ++ ")"
  | none => "None"

def depthLine (d : MarketDepth) : String :=
  "bids=" ++ toString d.bids.length ++ " asks=" ++ toString d.asks.length ++ " spread=" ++
    optionalReal d.top.spread ++ " mid=" ++ optionalReal d.top.mid

def itemLine : Item → String
  | .tick tick => tickLine tick
  | .depth depth => depthLine depth

/-- Why a command failed, with its causes, the nearest first. -/
structure Trouble where
  message : String
  causes : List String := []
  deriving Repr, DecidableEq

namespace Trouble

def ofFailure (failure : Failure) : Trouble := ⟨failure.message, failure.cause?.toList⟩

def within (context : String) (failure : Failure) : Trouble :=
  ⟨context, failure.message :: failure.cause?.toList⟩

/-- A text in lines, the first behind `first` and the others behind `others`. -/
def indented (first others text : String) : List String :=
  match text.splitOn "\n" with
  | [] => [first]
  | line :: lines => (first ++ line) :: lines.map (others ++ ·)

def causeLines : List String → List String
  | [] => []
  | [cause] => indented "    " "    " cause
  | causes =>
    causes.zipIdx.flatMap fun (cause, n) =>
      let number := toString n
      let room := String.ofList (List.replicate (5 - number.length) ' ')
      indented (room ++ number ++ ": ") "       " cause

def lines (trouble : Trouble) : List String :=
  indented "Error: " "" trouble.message ++
    (if trouble.causes.isEmpty then [] else "" :: "Caused by:" :: causeLines trouble.causes)

end Trouble

end MarketLink.Command
