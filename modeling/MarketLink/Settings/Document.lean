import MarketLink.Document.Reading
import MarketLink.Settings.Basic

set_option autoImplicit false

namespace MarketLink.Settings

open Document Number

def misfit (name expected : String) : Failure :=
  .document (name ++ " is not " ++ expected)

/-- The value of a name, or `default` when the name is missing; `read` refuses other kinds. -/
def entry {α : Type} (entries : Entries) (name expected : String) (default : α)
    (read : Value → Option α) : Except Failure α :=
  match entries.lookup name with
  | none => .ok default
  | some value =>
    match read value with
    | some result => .ok result
    | none => .error (misfit name expected)

def textValue? : Value → Option String
  | .text text => some text
  | _ => none

def intValue? : Value → Option Int
  | .whole n => if int32.Holds n then some n else none
  | _ => none

def millisValue? : Value → Option Nat
  | .whole n => if 0 ≤ n then some n.toNat else none
  | _ => none

def decode (entries : Entries) : Except Failure Settings := do
  let defaults : Settings := {}
  let text (name default : String) := entry entries name "a text" default textValue?
  let span (name : String) (default : Span) :=
    entry entries name "a number of milliseconds" default fun v => (millisValue? v).map .ofMillis
  return {
    address := ← text "address" defaults.address
    clientId := ← entry entries "client_id" "a number" none fun v => (intValue? v).map some
    connectOptions := ← text "connect_options" defaults.connectOptions
    optionalCapabilities := ← text "optional_capabilities" defaults.optionalCapabilities
    offsetMinutes := ← entry entries "tz_offset_minutes" "a number" 0 intValue?
    dialTimeout := ← span "dial_timeout" defaults.dialTimeout
    connectTimeout := ← span "connect_timeout" defaults.connectTimeout
    writeTimeout := ← span "write_timeout" defaults.writeTimeout
    requestTimeout := ← entry entries "request_timeout" "a number of milliseconds" none fun v =>
      (millisValue? v).map Span.deadline }

def ofEntries (entries : Entries) : Except Failure Settings := do
  (← decode entries).validated

def ofDocument (text : String) : Except Failure Settings :=
  match read? text with
  | some entries => ofEntries entries
  | none => .error (.document "the document cannot be read")

/-- The milliseconds of a span as a document holds them: a number of 64 bits with a sign. -/
def millisEntry (name : String) (span : Span) : Except Failure (String × Value) :=
  if int64.Holds span.millis then .ok (name, .whole span.millis)
  else .error (.document (name ++ " is too long to be written"))

def toEntries (s : Settings) : Except Failure Entries := do
  let dial ← millisEntry "dial_timeout" s.dialTimeout
  let connect ← millisEntry "connect_timeout" s.connectTimeout
  let write ← millisEntry "write_timeout" s.writeTimeout
  let request ← s.requestTimeout.toList.mapM (millisEntry "request_timeout")
  return [("address", .text s.address)] ++
    (s.clientId.toList.map fun id => ("client_id", .whole id)) ++
    [("connect_options", .text s.connectOptions),
      ("optional_capabilities", .text s.optionalCapabilities),
      ("tz_offset_minutes", .whole s.offsetMinutes), dial, connect, write] ++ request

/-- Writes the settings as entries and reads them back; says whether they are the same as before. -/
def survivesWriting (s : Settings) : Except Failure Bool := do
  let back ← ofEntries (← s.toEntries)
  return back == s

end MarketLink.Settings
