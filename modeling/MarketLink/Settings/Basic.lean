import MarketLink.Failure
import MarketLink.Number.Whole
import MarketLink.Settings.Span
import MarketLink.Text.Blank

set_option autoImplicit false

namespace MarketLink

open Number Text

/-- How a session is to be opened and kept. -/
structure Settings where
  address : String := "127.0.0.1:4002"
  /-- The client's number; a fresh one is drawn when there is none. -/
  clientId : Option Int := none
  /-- What is said behind the range of versions in the hello. -/
  connectOptions : String := ""
  optionalCapabilities : String := ""
  /-- How far the gateway's times without a zone are east of universal time. -/
  offsetMinutes : Int := 0
  dialTimeout : Span := .ofMillis 3000
  connectTimeout : Span := .ofMillis 10000
  writeTimeout : Span := .ofMillis 5000
  /-- How long a call may wait for its reply; without one it waits as long as the connection
  lasts. -/
  requestTimeout : Option Span := none
  deriving Repr, DecidableEq

namespace Settings

def ofAddress (address : String) : Settings := { address }

def secondsOfMinutes? (minutes : Int) : Option Int :=
  if int32.Holds (minutes * 60) then some (minutes * 60) else none

def isZoneOffset (seconds : Int) : Bool := -86400 < seconds && seconds < 86400

def offset (s : Settings) : Except Failure Int :=
  match (secondsOfMinutes? s.offsetMinutes).filter isZoneOffset with
  | some seconds => .ok seconds
  | none =>
    .error (.config
      ("timezone offset of " ++ wholeText s.offsetMinutes ++ " minutes is out of range"))

def checkClientId (s : Settings) : Except Failure Unit :=
  match s.clientId with
  | some id =>
    if id < 0 then .error (.config ("client id " ++ wholeText id ++ " is negative")) else .ok ()
  | none => .ok ()

def validate (s : Settings) : Except Failure Unit := do
  if isBlankText s.address then throw (.config "address is empty")
  s.checkClientId
  if s.requestTimeout = some .zero then
    throw (.config "request timeout of zero; leave it unset to wait indefinitely")
  let _ ← s.offset

def validated (s : Settings) : Except Failure Settings := do
  s.validate
  return s

def resolveClientId (s : Settings) (fresh : Int) : Int := s.clientId.getD fresh

end Settings

/-- One setting with its new value. -/
inductive Change where
  | address (address : String)
  | clientId (id : Int)
  | connectOptions (options : String)
  | optionalCapabilities (capabilities : String)
  | offsetMinutes (minutes : Int)
  | dialTimeout (span : Span)
  | connectTimeout (span : Span)
  | writeTimeout (span : Span)
  | requestTimeout (span : Option Span)
  deriving Repr, DecidableEq

def Settings.change (s : Settings) : Change → Settings
  | .address address => { s with address }
  | .clientId id => { s with clientId := some id }
  | .connectOptions connectOptions => { s with connectOptions }
  | .optionalCapabilities optionalCapabilities => { s with optionalCapabilities }
  | .offsetMinutes offsetMinutes => { s with offsetMinutes }
  | .dialTimeout dialTimeout => { s with dialTimeout }
  | .connectTimeout connectTimeout => { s with connectTimeout }
  | .writeTimeout writeTimeout => { s with writeTimeout }
  | .requestTimeout requestTimeout => { s with requestTimeout }

end MarketLink
