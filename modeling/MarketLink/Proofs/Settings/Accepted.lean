import MarketLink.Proofs.Message.Asked
import MarketLink.Proofs.Session.Connecting
import MarketLink.Proofs.Settings.Variables
import MarketLink.Settings.Document

set_option autoImplicit false

namespace MarketLink

open Number Text

namespace Settings

theorem ofDocument_valid {text : String} {s : Settings} (found : ofDocument text = .ok s) :
    s.validate = .ok () := by
  unfold ofDocument ofEntries at found
  split at found
  · obtain ⟨_, _, checked⟩ := bind_eq_ok_iff.mp found
    exact (validated_eq_ok_iff.mp checked).2
  · cases found

open Session Message Wire

theorem stream_cases {settings : Settings} {clientId : Int} {inbound : Link} {broken : Bool}
    {a : Attempt} (settled : a.Settled settings clientId inbound broken) :
    ∃ stream, (stream = [] ∨ stream = helloFrame settings ∨
        ∃ frame, startApi clientId settings.optionalCapabilities = .ok frame ∧
          stream = helloFrame settings ++ frame) ∧
      a.link.written <+: stream ∧ (broken = false → a.link.written = stream) := by
  obtain ⟨stream, known, -, front, whole⟩ := settled.stream
  refine ⟨stream, known.imp_right ?_, front, whole⟩
  rintro (greeting | ⟨-, both⟩)
  · exact .inl greeting
  · rw [startFrame] at both
    cases encoded : startApi clientId settings.optionalCapabilities with
    | error why =>
      rw [encoded] at both
      exact .inl (both.trans (List.append_nil _))
    | ok frame =>
      rw [encoded] at both
      exact .inr ⟨frame, rfl, both⟩

/-- Settings that have been changed one by one, from whatever they were, can be used exactly if they
keep the rules, of which the first that fails is reported; the last change of each decides. Nor does
an environment or a document hold others. No connection is made with settings that cannot be used,
and with those that can a client whose number is not negative is started, or none. -/
theorem settings_are_accepted_by_their_rules (base : Settings) (changes : List Change)
    (env : Environment) (network : Network) (script : List (List Happening)) (fresh : Int)
    (drawn : 1 ≤ fresh ∧ fresh ≤ 2147483647) :
    let s := changes.foldl Settings.change base
    let dials := (connect network script s fresh).1
    let result := (connect network script s fresh).2
    -- the rules, and which of them is reported
    (s.validate = .ok () ↔
      (∃ c ∈ s.address.toList, isBlank c = false) ∧ (∀ id, s.clientId = some id → 0 ≤ id) ∧
        s.requestTimeout ≠ some .zero ∧ -1440 < s.offsetMinutes ∧ s.offsetMinutes < 1440) ∧
    (∀ failure, s.validate = .error failure ↔ ∃ front rule later,
      Rule.all = front ++ rule :: later ∧
      (∀ earlier ∈ front, s.Keeps earlier) ∧ ¬s.Keeps rule ∧ failure = s.breach rule) ∧
    (∀ rule, s.Keeps rule ↔
      match rule.latest? changes with
      | some change => change.alone.Keeps rule
      | none => base.Keeps rule) ∧
    -- environments and documents
    (∀ name written, (env name).text? = some written ↔ env name = .set (toBytes written)) ∧
    (∀ found, ofEnvironment env = .ok found ↔ Describes env found ∧ found.validate = .ok ()) ∧
    (∀ text found, ofDocument text = .ok found → found.validate = .ok ()) ∧
    -- sessions
    (∀ failure, s.validate = .error failure → dials = [] ∧ result = .error failure) ∧
    (s.validate = .ok () →
      s.offset = .ok (s.offsetMinutes * 60) ∧
      ∃ clientId, 0 ≤ clientId ∧ clientId = s.clientId.getD fresh ∧
        (∀ (i : Nat) (d : Dial), dials[i]? = some d →
          ∃ (happenings : List Happening) (stream : Bytes), script[i]? = some happenings ∧
          (stream = [] ∨ stream = helloFrame s ∨
            ∃ frame payload, stream = helloFrame s ++ frame ∧
              splitFrame frame = .ok (some (payload, [])) ∧
              fieldsOf payload =
                ["71", "2", wholeText clientId, s.optionalCapabilities].map toBytes) ∧
          d.link.written <+: stream ∧
          ((∀ happening ∈ happenings, happening.isFault = false) → d.link.written = stream)) ∧
        ∀ opened, result = .ok opened →
          opened.clientId = clientId ∧ opened.offset = s.offsetMinutes * 60) := by
  intro s dials result
  refine ⟨?_, ?_, keeps_changes base changes, fun _ _ => Variable.text?_eq_some_iff,
    fun found => ofEnvironment_eq_ok_iff, fun _ _ => ofDocument_valid, ?_, ?_⟩
  · rw [validate_eq_ok_iff]
    constructor
    · intro kept
      exact ⟨kept .address, kept .clientId, kept .requestTimeout, kept .offset⟩
    · rintro ⟨address, clientId, timeout, offset⟩ rule
      cases rule with
      | address => exact address
      | clientId => exact clientId
      | requestTimeout => exact timeout
      | offset => exact offset
  · intro failure
    rw [validate_eq_error_iff]
    simp only [broken?_eq_some_iff]
    constructor
    · rintro ⟨rule, ⟨front, later, order, kept, broken⟩, same⟩
      exact ⟨front, rule, later, order, kept, broken, same⟩
    · rintro ⟨front, rule, later, order, kept, broken, same⟩
      exact ⟨rule, ⟨front, later, order, kept, broken⟩, same⟩
  · intro failure invalid
    dsimp only [dials, result]
    rw [connect_of_invalid network script fresh invalid]
    exact ⟨rfl, rfl⟩
  · intro valid
    have trail : Trail network s (s.resolveClientId fresh) (s.offsetMinutes * 60) script s.address 0
        dials result := by
      dsimp only [dials, result]
      rw [connect_eq_follow network script fresh valid]
      exact trail_follow network s _ _ script s.address 0
    refine ⟨offset_of_valid valid, s.resolveClientId fresh,
      resolveClientId_nonneg valid (Int.le_trans (by decide) drawn.1), rfl, ?_, ?_⟩
    · intro i d found
      obtain ⟨happenings, there, link, -⟩ := trail.link found
      obtain ⟨stream, known, front, whole⟩ :=
        stream_cases (settled_attempt s (s.resolveClientId fresh) happenings)
      rw [link]
      refine ⟨happenings, stream, there, ?_, front, fun intact => whole ?_⟩
      · rcases known with nothing | greeting | ⟨frame, start, both⟩
        · exact .inl nothing
        · exact .inr (.inl greeting)
        · obtain ⟨payload, cut, fields⟩ := Asked.fields_of_encode (a := .startApi _ _) start
          exact .inr (.inr ⟨frame, payload, both, cut, fields⟩)
      · rw [List.any_eq_false]
        exact fun happening member => ne_true_of_eq_false (intact happening member)
    · intro opened ready
      exact (trail.opened ready).2

/-- A negative client id and an offset of a day are refused, the client id first, and later changes
make them good. Blanks and a sign around a number in a variable are passed over, and a timeout of
zero is none. The gateway hears of client 7, although 9 was drawn. -/
theorem later_changes_make_good :
    let changes : List Change :=
      [.clientId (-3), .offsetMinutes 1440, .clientId 7, .connectOptions "", .offsetMinutes (-300)]
    let s := changes.foldl Settings.change {}
    let env : Environment := fun name =>
      if name = "GATEWAY_CLIENT_ID" then .set (toBytes " +12 ")
      else if name = "GATEWAY_REQUEST_TIMEOUT_MS" then .set (toBytes "0") else .unset
    let accepting := Happening.ofActs [.send [49, 55, 54, 0, 0], .send [57, 0, 49, 0, 53, 0]]
    (1 ≤ (9 : Int) ∧ (9 : Int) ≤ 2147483647) ∧
      ((changes.take 2).foldl Settings.change {}).validate =
        .error (.config "client id -3 is negative") ∧
      s.validate = .ok () ∧ s.offset = .ok (-18000) ∧
      ofEnvironment env = .ok { clientId := some 12 } ∧
      ∃ d frame payload, (connect .connected [accepting] s 9).1 = [d] ∧
        d.link.written =
          [65, 80, 73, 0, 0, 0, 0, 9, 118, 49, 48, 48, 46, 46, 49, 56, 55] ++ frame ∧
        splitFrame frame = .ok (some (payload, [])) ∧
        fieldsOf payload = ["71", "2", "7", ""].map toBytes := by
  intro changes s env accepting
  have drawn : 1 ≤ (9 : Int) ∧ (9 : Int) ≤ 2147483647 := by decide
  obtain ⟨-, refuses, -⟩ :=
    settings_are_accepted_by_their_rules {} (changes.take 2) env .connected [accepting] 9 drawn
  obtain ⟨accepts, -, -, -, described, -, -, opens⟩ :=
    settings_are_accepted_by_their_rules {} changes env .connected [accepting] 9 drawn
  have early : (changes.take 2).foldl Settings.change {} =
      { clientId := some (-3), offsetMinutes := 1440 } := rfl
  have built : s = { clientId := some 7, offsetMinutes := -300 } := rfl
  have valid : s.validate = .ok () := by
    rw [built]
    exact validate_eq_ok_iff.mpr fun rule => by cases rule <;> decide
  obtain ⟨offset, clientId, -, number, carries, -⟩ := opens valid
  refine ⟨drawn, ?_, valid, offset, (described _).mpr ⟨?_, ?_⟩, ?_⟩
  · refine (refuses _).mpr ⟨[.address], .clientId, [.requestTimeout, .offset], rfl, ?_⟩
    rw [early]
    decide
  · have twelve : Denotes int32 (trimBlanks " +12 ".toList) 12 :=
      ⟨false, ['+'], by decide, ['1', '2'], by decide, by decide, by simp, rfl, by decide⟩
    have zero : Denotes nat64 (trimBlanks "0".toList) 0 :=
      ⟨false, [], by decide, ['0'], by decide, by decide, by simp, rfl, by decide⟩
    have id : (env "GATEWAY_CLIENT_ID").text? = some " +12 " :=
      Variable.text?_eq_some_iff.mpr rfl
    have timeout : (env "GATEWAY_REQUEST_TIMEOUT_MS").text? = some "0" :=
      Variable.text?_eq_some_iff.mpr rfl
    exact ⟨rfl, by rw [id]; exact .number twelve, rfl, rfl, ⟨none, .nothing, rfl⟩,
      ⟨some 0, by rw [timeout]; exact .number zero, rfl⟩, rfl, rfl, rfl⟩
  · exact validate_eq_ok_iff.mpr fun rule => by cases rule <;> decide
  · have reached : Network.connected.dialFault? s.address = none := by cbv
    have other : redirect? s (s.resolveClientId 9) accepting = none := by cbv
    obtain ⟨d, dials, link⟩ := connect_once 9 valid reached other
    have greeting : helloFrame s =
        [65, 80, 73, 0, 0, 0, 0, 9, 118, 49, 48, 48, 46, 46, 49, 56, 55] := by cbv
    have more : d.link.written.length = 29 := by
      rw [link]
      cbv
    rw [dials] at carries
    obtain ⟨happenings, stream, there, known, -, whole⟩ := carries 0 d rfl
    cases there
    have written := whole (by decide)
    rcases known with nothing | same | ⟨frame, payload, same, cut, fields⟩
    · rw [written, nothing] at more
      cases more
    · rw [written, same, greeting] at more
      cases more
    · rw [number] at fields
      exact ⟨d, frame, payload, dials, (written.trans same).trans (congrArg (· ++ frame) greeting),
        cut, fields⟩

/-- An address that is set to bytes which are no text is passed over, as if it were not set. -/
theorem illegible_address_leaves_the_default :
    let env : Environment := fun name => if name = "GATEWAY_ADDR" then .set [255] else .unset
    env "GATEWAY_ADDR" ≠ .unset ∧ ofEnvironment env = .ok {} := by
  intro env
  have illegible : (env "GATEWAY_ADDR").text? = none := by cbv
  have present : env "GATEWAY_ADDR" ≠ .unset := by
    intro absent
    cases absent
  refine ⟨present, ofEnvironment_eq_ok_iff.mpr ⟨⟨?_, .nothing, rfl, rfl, ⟨none, .nothing, rfl⟩,
    ⟨none, .nothing, rfl⟩, rfl, rfl, rfl⟩, ?_⟩⟩
  · rw [illegible]
    rfl
  · exact validate_eq_ok_iff.mpr fun rule => by cases rule <;> decide

end Settings

end MarketLink
