import MarketLink.Settings.Basic
import MarketLink.Text.Bytes
import MarketLink.Text.Quoted

set_option autoImplicit false

namespace MarketLink.Settings

open Number Text

inductive Variable
  | unset
  | set (bytes : Bytes)

namespace Variable

/-- The text that a variable is set to. One whose bytes are not valid UTF-8 has no text either. -/
def text? : Variable → Option String
  | unset => none
  | set bytes => ofBytes? bytes

def ofText? : Option String → Variable
  | none => unset
  | some written => set (toBytes written)

instance : Coe (Option String) Variable := ⟨ofText?⟩

theorem text?_eq_some_iff {v : Variable} {written : String} :
    v.text? = some written ↔ v = set (toBytes written) := by
  cases v with
  | unset => simp [text?]
  | set bytes => simp only [text?, ofBytes?_eq_some_iff, set.injEq]

end Variable

abbrev Environment := String → Variable

def variableNames : List String :=
  ["GATEWAY_ADDR", "GATEWAY_CLIENT_ID", "GATEWAY_CONNECT_OPTIONS",
    "GATEWAY_OPTIONAL_CAPABILITIES", "GATEWAY_REQUEST_TIMEOUT_MS", "GATEWAY_TZ_OFFSET_MINUTES"]

def wholeOf (range : WholeRange) (name written : String) : Except Failure Int :=
  (readWhole range (trim written)).mapError fun fault =>
    .config (name ++ "=" ++ quoted written ++ ": " ++ fault.message)

def wholeOf? (range : WholeRange) (env : Environment) (name : String) :
    Except Failure (Option Int) :=
  match (env name).text? with
  | some written => (wholeOf range name written).map some
  | none => .ok none

def ofEnvironment (env : Environment) : Except Failure Settings := do
  let defaults : Settings := {}
  let clientId ← wholeOf? int32 env "GATEWAY_CLIENT_ID"
  let offsetMinutes ← wholeOf? int32 env "GATEWAY_TZ_OFFSET_MINUTES"
  let millis ← wholeOf? nat64 env "GATEWAY_REQUEST_TIMEOUT_MS"
  validated
    { defaults with
      address := (env "GATEWAY_ADDR").text?.getD defaults.address
      clientId
      connectOptions := (env "GATEWAY_CONNECT_OPTIONS").text?.getD defaults.connectOptions
      optionalCapabilities :=
        (env "GATEWAY_OPTIONAL_CAPABILITIES").text?.getD defaults.optionalCapabilities
      offsetMinutes := offsetMinutes.getD 0
      requestTimeout := Span.deadline (millis.getD 0).toNat }

end MarketLink.Settings
