import MarketLink.Proofs.Number.Whole
import MarketLink.Proofs.Settings.Rules
import MarketLink.Settings.Environment

set_option autoImplicit false

namespace MarketLink.Settings

open Number Text

inductive Says (range : WholeRange) : Option String → Option Int → Prop
  | nothing : Says range none none
  | number {written : String} {n : Int} (denotes : Denotes range (trimBlanks written.toList) n) :
    Says range (some written) (some n)

/-- The settings that an environment describes, whether they can be used or not. -/
structure Describes (env : Environment) (s : Settings) : Prop where
  address : s.address = (env "GATEWAY_ADDR").text?.getD ({} : Settings).address
  clientId : Says int32 (env "GATEWAY_CLIENT_ID").text? s.clientId
  connectOptions : s.connectOptions =
    (env "GATEWAY_CONNECT_OPTIONS").text?.getD ({} : Settings).connectOptions
  optionalCapabilities : s.optionalCapabilities =
    (env "GATEWAY_OPTIONAL_CAPABILITIES").text?.getD ({} : Settings).optionalCapabilities
  offsetMinutes : ∃ minutes, Says int32 (env "GATEWAY_TZ_OFFSET_MINUTES").text? minutes ∧
    s.offsetMinutes = minutes.getD ({} : Settings).offsetMinutes
  requestTimeout : ∃ millis, Says nat64 (env "GATEWAY_REQUEST_TIMEOUT_MS").text? millis ∧
    s.requestTimeout =
      if millis.getD 0 = 0 then none else some (Span.ofMillis (millis.getD 0).toNat)
  dialTimeout : s.dialTimeout = ({} : Settings).dialTimeout
  connectTimeout : s.connectTimeout = ({} : Settings).connectTimeout
  writeTimeout : s.writeTimeout = ({} : Settings).writeTimeout

variable {range : WholeRange} {env : Environment} {name : String}

theorem wholeOf_eq_ok_iff {written : String} {n : Int} :
    wholeOf range name written = .ok n ↔ Denotes range (trimBlanks written.toList) n := by
  have same : readWhole range (trim written) = .ok n ↔ Denotes range (trim written).toList n :=
    readWhole_eq_ok_iff
  have trimmed : (trim written).toList = trimBlanks written.toList := String.toList_ofList
  rw [← trimmed, ← same, wholeOf]
  cases readWhole range (trim written) <;> simp [Except.mapError]

theorem wholeOf?_eq_ok_iff {n : Option Int} :
    wholeOf? range env name = .ok n ↔ Says range (env name).text? n := by
  unfold wholeOf?
  cases held : (env name).text? with
  | none =>
    constructor
    · rintro ⟨⟩
      exact .nothing
    · rintro ⟨⟩
      rfl
  | some written =>
    dsimp only
    constructor
    · intro found
      cases read : wholeOf range name written with
      | error failure =>
        rw [read] at found
        cases found
      | ok n =>
        rw [read] at found
        cases found
        exact .number (wholeOf_eq_ok_iff.mp read)
    · rintro (_ | denotes)
      rw [wholeOf_eq_ok_iff.mpr denotes]
      rfl

/-- A number of milliseconds is not negative, so nothing is lost when its sign is left out. -/
theorem deadline_toNat {millis : Option Int} {value : Option String}
    (said : Says nat64 value millis) :
    Span.deadline (millis.getD 0).toNat =
      if millis.getD 0 = 0 then none else some (Span.ofMillis (millis.getD 0).toNat) := by
  have positive : 0 ≤ millis.getD 0 := by
    cases said with
    | nothing => exact Int.le_refl 0
    | number denotes =>
      obtain ⟨_, _, _, _, _, _, _, _, holds⟩ := denotes
      exact holds.1
  have zero : (millis.getD 0).toNat = 0 ↔ millis.getD 0 = 0 := by omega
  simp only [Span.deadline, zero]

theorem ofEnvironment_eq_ok_iff {s : Settings} :
    ofEnvironment env = .ok s ↔ Describes env s ∧ s.validate = .ok () := by
  unfold ofEnvironment
  simp only [bind_eq_ok_iff, wholeOf?_eq_ok_iff, validated_eq_ok_iff]
  constructor
  · rintro ⟨id, clientId, minutes, offset, millis, timeout, rfl, valid⟩
    exact ⟨⟨rfl, clientId, rfl, rfl, ⟨minutes, offset, rfl⟩,
      ⟨millis, timeout, deadline_toNat timeout⟩, rfl, rfl, rfl⟩, valid⟩
  · rintro ⟨⟨address, clientId, options, capabilities, ⟨minutes, offset, east⟩,
      ⟨millis, timeout, deadline⟩, dial, connect, write⟩, valid⟩
    refine ⟨s.clientId, clientId, minutes, offset, millis, timeout, ?_, valid⟩
    rw [deadline_toNat timeout, ← deadline, ← address, ← options, ← capabilities]
    cases s
    simp only at dial connect write east
    rw [dial, connect, write, east]

end MarketLink.Settings
