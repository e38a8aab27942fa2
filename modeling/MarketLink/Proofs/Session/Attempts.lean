import MarketLink.Proofs.Session.Carriage
import MarketLink.Proofs.Session.FirstId

set_option autoImplicit false

namespace MarketLink.Session

open Message Wire

def Verdict.isReady : Verdict → Bool
  | .ready _ _ _ => true
  | .redirected _ | .failed _ => false

/-- The frame of the hello; nothing where that cannot be encoded. -/
def helloFrame (settings : Settings) : Bytes :=
  (hello leastClientVersion greatestClientVersion settings.connectOptions).toOption.getD []

/-- The frame that asks a gateway to start; nothing where that cannot be encoded. -/
def startFrame (settings : Settings) (clientId : Int) : Bytes :=
  (startApi clientId settings.optionalCapabilities).toOption.getD []

namespace Phase

def accepted? : Phase → Option (Int × String)
  | accepted version text | starting version text => some (version, text)
  | fresh | greeting => none

def said (settings : Settings) (clientId : Int) : Phase → Bytes
  | fresh => []
  | greeting | accepted _ _ => helloFrame settings
  | starting _ _ => helloFrame settings ++ startFrame settings clientId

/-- Which payloads have been taken in a phase: none, or the reply and perhaps more. -/
def Taken (phase : Phase) (taken : List Bytes) : Prop :=
  match phase.accepted? with
  | none => taken = []
  | some reply => taken.head?.map (fun payload => (handshakeReply (Cursor.start payload 0)).1) =
    some (.ok reply)

end Phase

def Link.reply? (l : Link) : Option (Except WireError (Int × String)) :=
  l.arrived.head?.map fun payload => (handshakeReply (Cursor.start payload 0)).1

namespace Happening

def act? : Happening → Option Act
  | .act done => some done
  | .step | .write _ => none

def isFault : Happening → Bool
  | .write stroke => stroke.isFault
  | .act _ | .step => false

end Happening

/-- What has come in on a new connection from which nothing is taken. -/
def received (happenings : List Happening) : Link :=
  (happenings.filterMap Happening.act?).foldl Link.meet {}

/-- A fault has been raised on a connection, by its reader or its writer. -/
def Troubled (inbound : Link) (broken : Bool) : Prop := broken = true ∨ inbound.fault.isSome = true

/-- Why an attempt fails on a connection without a fault. -/
inductive Cause (settings : Settings) (inbound : Link) : Phase → Failure → Prop
  | unsaid {e : WireError}
    (spoiled : hello leastClientVersion greatestClientVersion settings.connectOptions = .error e) :
    Cause settings inbound .greeting (.protocol e)
  | silent (deaf : inbound.reading = false) (none : inbound.reply? = none) :
    Cause settings inbound .greeting .closed
  | unreadable {e : WireError} (said : inbound.reply? = some (.error e)) :
    Cause settings inbound .greeting (.protocol e)
  | unheard {version : Int} {text : String} {failure : Failure} :
    Cause settings inbound (.starting version text) failure

inductive Judged (settings : Settings) (inbound : Link) (broken : Bool) : Phase → Verdict → Prop
  | redirected {version : Int} {target : String}
    (said : inbound.reply? = some (.ok (version, target))) (negative : version < 0) :
    Judged settings inbound broken .greeting (.redirected target)
  | old {version : Int} {text : String} (said : inbound.reply? = some (.ok (version, text)))
    (positive : 0 ≤ version) (low : version < leastServerVersion) :
    Judged settings inbound broken .greeting (.failed (.unsupportedServerVersion version))
  | ready {version : Int} {text : String} (raw : Int) :
    Judged settings inbound broken (.starting version text) (.ready version text (usableId raw))
  | failed {phase : Phase} {failure : Failure} (own : failure.ofConnection = true)
    (waiting : phase.isDue = false)
    (cause : Troubled inbound broken ∨ Cause settings inbound phase failure) :
    Judged settings inbound broken phase (.failed failure)

/-- The stream that an attempt has sent: all that is due in its phase, or all but the last frame,
when that met the fault of the connection. -/
def Attempt.HasSent (settings : Settings) (clientId : Int) (inbound : Link) (broken : Bool)
    (a : Attempt) (stream : Bytes) : Prop :=
  stream = a.phase.said settings clientId ∨
    Troubled inbound broken ∧
      (∃ failure, failure.ofConnection = true ∧ a.verdict = some (.failed failure)) ∧
      (a.phase = .greeting ∧ stream = [] ∨
        (∃ version text, a.phase = .starting version text) ∧ stream = helloFrame settings)

/-- An attempt on a connection on which so much has come in, and whose writer has broken off or
not. -/
structure Encounter.Sound (settings : Settings) (clientId : Int) (inbound : Link) (broken : Bool)
    (e : Encounter) : Prop where
  up : e.attempt.verdict.all Verdict.isReady = true → e.attempt.link.IsUp
  listening : inbound.shutdown = false
  own : ∀ failure, e.attempt.link.fault = some failure → failure.ofConnection = true
  inflow : e.attempt.verdict = none → ∃ taken,
    e.attempt.link.Receives inbound taken broken ∧ e.attempt.phase.Taken taken
  greeted : e.attempt.phase ≠ .fresh →
    (∃ frame, hello leastClientVersion greatestClientVersion settings.connectOptions = .ok frame) ∨
    e.attempt.phase = .greeting ∧ ∃ why,
      hello leastClientVersion greatestClientVersion settings.connectOptions = .error why ∧
      e.attempt.verdict = some (.failed (.protocol why))
  accepted : ∀ reply, e.attempt.phase.accepted? = some reply →
    inbound.reply? = some (.ok reply) ∧ leastServerVersion ≤ reply.1
  judged : ∀ verdict, e.attempt.verdict = some verdict →
    Judged settings inbound broken e.attempt.phase verdict
  outflow : ∃ stream, e.attempt.link.Ships stream broken ∧
    e.attempt.HasSent settings clientId inbound broken stream

section Inbound

variable {settings : Settings} {inbound : Link} {broken : Bool}

theorem Link.reply?_meet {reply : Except WireError (Int × String)}
    (said : inbound.reply? = some reply) (act : Act) : (inbound.meet act).reply? = some reply := by
  obtain ⟨more, grown⟩ := (Link.met_meet inbound act).arrived
  unfold Link.reply? at said ⊢
  rw [← grown]
  cases come : inbound.arrived with
  | nil =>
    rw [come] at said
    cases said
  | cons payload rest =>
    rw [come] at said
    exact said

theorem Troubled.meet (troubled : Troubled inbound broken) (act : Act) :
    Troubled (inbound.meet act) broken := by
  refine troubled.imp_right fun faulty => ?_
  obtain ⟨failure, kept⟩ := Option.isSome_iff_exists.mp faulty
  rw [(Link.met_meet inbound act).kept failure kept]
  rfl

theorem Cause.meet {phase : Phase} {failure : Failure}
    (cause : Cause settings inbound phase failure) (act : Act) :
    Cause settings (inbound.meet act) phase failure := by
  cases cause with
  | unsaid spoiled => exact .unsaid spoiled
  | silent deaf none =>
    rw [(Link.met_meet inbound act).deaf deaf]
    exact .silent deaf none
  | unreadable said => exact .unreadable (Link.reply?_meet said act)
  | unheard => exact .unheard

/-- What an attempt was decided by stays, whatever comes in later. -/
theorem Judged.meet {phase : Phase} {verdict : Verdict}
    (judged : Judged settings inbound broken phase verdict) (act : Act) :
    Judged settings (inbound.meet act) broken phase verdict := by
  cases judged with
  | redirected said negative => exact .redirected (Link.reply?_meet said act) negative
  | old said positive low => exact .old (Link.reply?_meet said act) positive low
  | ready raw => exact .ready raw
  | failed own waiting cause =>
    exact .failed own waiting (cause.imp (·.meet act) (·.meet act))

theorem Judged.torn {phase : Phase} {verdict : Verdict} {torn : Bool}
    (judged : Judged settings inbound broken phase verdict)
    (grown : Troubled inbound broken → Troubled inbound torn) :
    Judged settings inbound torn phase verdict := by
  cases judged with
  | redirected said negative => exact .redirected said negative
  | old said positive low => exact .old said positive low
  | ready raw => exact .ready raw
  | failed own waiting cause => exact .failed own waiting (cause.imp_left grown)

theorem Attempt.HasSent.imp {clientId : Int} {later : Link} {torn : Bool} {a : Attempt}
    {stream : Bytes} (sent : a.HasSent settings clientId inbound broken stream)
    (stays : Troubled inbound broken → Troubled later torn) :
    a.HasSent settings clientId later torn stream :=
  sent.imp_right fun ⟨troubled, refused⟩ => ⟨stays troubled, refused⟩

end Inbound

namespace Encounter

variable {settings : Settings} {clientId : Int} {inbound : Link} {broken : Bool} {e : Encounter}

theorem sound_blank : Sound settings clientId {} false {} :=
  ⟨fun _ => ⟨rfl, rfl⟩, rfl, nofun, fun _ => ⟨[], ⟨rfl, rfl, rfl, fun _ => rfl⟩, rfl⟩,
    fun moved => absurd rfl moved, nofun, nofun, [], Link.ships_blank, .inl rfl⟩

theorem Sound.looks (sound : Sound settings clientId inbound broken e) (looking : Bool) :
    Sound settings clientId inbound broken { e with looking } :=
  ⟨sound.up, sound.listening, sound.own, sound.inflow, sound.greeted, sound.accepted,
    sound.judged, sound.outflow⟩

theorem Sound.troubled (sound : Sound settings clientId inbound broken e)
    (undecided : e.attempt.verdict = none) {failure : Failure}
    (kept : e.attempt.link.fault = some failure) : Troubled inbound broken := by
  obtain ⟨taken, receives, -⟩ := sound.inflow undecided
  cases intact : broken with
  | true => exact .inl rfl
  | false => exact .inr (by rw [← receives.fault intact, kept]; rfl)

theorem Sound.ships (sound : Sound settings clientId inbound broken e)
    (undecided : e.attempt.verdict = none) :
    e.attempt.link.Ships (e.attempt.phase.said settings clientId) broken := by
  obtain ⟨stream, ships, same | ⟨-, ⟨failure, -, decided⟩, -⟩⟩ := sound.outflow
  · exact same ▸ ships
  · cases undecided.symm.trans decided

theorem Sound.helloOk (sound : Sound settings clientId inbound broken e)
    (undecided : e.attempt.verdict = none) (moved : e.attempt.phase ≠ .fresh) :
    ∃ frame, hello leastClientVersion greatestClientVersion settings.connectOptions = .ok frame :=
  (sound.greeted moved).resolve_right fun ⟨_, _, _, decided⟩ => by
    cases undecided.symm.trans decided

theorem Sound.meet (sound : Sound settings clientId inbound broken e) (act : Act) :
    Sound settings clientId (inbound.meet act) broken
      (e.setLink (e.attempt.link.meet act)) := by
  have met := Link.met_meet e.attempt.link act
  have also := Link.met_meet inbound act
  have sending := met.sending
  have inboundSending := also.sending
  simp only [Prod.mk.injEq] at sending inboundSending
  obtain ⟨-, -, -, -, shutdown, gate⟩ := sending
  refine ⟨?_, inboundSending.2.2.2.2.1.trans sound.listening, ?_, ?_, sound.greeted, ?_, ?_, ?_⟩
  · intro stays
    obtain ⟨open', on⟩ := sound.up stays
    exact ⟨(congrArg Gate.closing gate).trans open', shutdown.trans on⟩
  · intro failure kept
    exact (met.fault failure kept).elim (sound.own failure) id
  · intro undecided
    obtain ⟨taken, receives, heard⟩ := sound.inflow undecided
    have on := (sound.up (by rw [show e.attempt.verdict = none from undecided]; rfl)).2
    exact ⟨taken, receives.meet on sound.listening act, heard⟩
  · intro reply accepted
    obtain ⟨said, new⟩ := sound.accepted reply accepted
    exact ⟨Link.reply?_meet said act, new⟩
  · intro verdict decided
    exact (sound.judged verdict decided).meet act
  · obtain ⟨stream, ships, sent⟩ := sound.outflow
    exact ⟨stream, ships.congr met.sending, sent.imp (·.meet act)⟩

theorem Sound.write (sound : Sound settings clientId inbound broken e) (stroke : Stroke) :
    Sound settings clientId inbound (broken || stroke.isFault)
      (e.setLink (e.attempt.link.write stroke)) := by
  have same := Link.aside_write e.attempt.link stroke
  simp only [Prod.mk.injEq] at same
  obtain ⟨buffer, arrived, reading, shutdown, gate⟩ := same
  have grown : Troubled inbound broken → Troubled inbound (broken || stroke.isFault) :=
    Or.imp_left fun torn => by rw [torn, Bool.true_or]
  refine ⟨?_, sound.listening, ?_, ?_, sound.greeted, sound.accepted, ?_, ?_⟩
  · intro stays
    obtain ⟨open', on⟩ := sound.up stays
    exact ⟨(congrArg Gate.closing gate).trans open', shutdown.trans on⟩
  · intro failure kept
    exact (Link.fault_write kept).elim (sound.own failure) id
  · intro undecided
    obtain ⟨taken, receives, heard⟩ := sound.inflow undecided
    refine ⟨taken, ⟨buffer.trans receives.buffer, by rw [receives.arrived, ← arrived]; rfl,
      reading.trans receives.reading, fun intact => ?_⟩, heard⟩
    obtain ⟨before, whole⟩ := Bool.or_eq_false_iff.mp intact
    exact (Link.fault_write_of_intact whole).trans (receives.fault before)
  · intro verdict decided
    exact (sound.judged verdict decided).torn grown
  · obtain ⟨stream, ships, sent⟩ := sound.outflow
    exact ⟨stream, ships.write stroke, sent.imp grown⟩

theorem Sound.decide (sound : Sound settings clientId inbound broken e)
    (undecided : e.attempt.verdict = none) (moved : e.attempt.phase ≠ .fresh) {verdict : Verdict}
    (judged : Judged settings inbound broken e.attempt.phase verdict) (looking : Bool) :
    Sound settings clientId inbound broken ⟨e.attempt.decide verdict, looking⟩ := by
  refine ⟨fun _ => sound.up (by rw [undecided]; rfl), sound.listening, sound.own, nofun,
    fun _ => .inl (sound.helloOk undecided moved), sound.accepted, ?_,
    _, sound.ships undecided, .inl rfl⟩
  rintro _ ⟨⟩
  exact judged

theorem send_cases {a : Attempt} (up : a.link.gate.closing = false)
    (frame : Except WireError Bytes) :
    (∃ why, frame = .error why ∧ a.send frame = a.fail (.protocol why)) ∨
    (∃ bytes failure, frame = .ok bytes ∧ a.link.fault = some failure ∧
      a.send frame = a.fail failure) ∨
    ∃ bytes, frame = .ok bytes ∧ a.link.fault = none ∧ a.send frame =
      { a with link := { a.link with outbound := a.link.outbound ++ bytes, woken := true } } := by
  unfold Attempt.send
  cases frame with
  | error why => exact .inl ⟨why, rfl, rfl⟩
  | ok bytes =>
    simp only [Link.send, up, Bool.false_eq_true, ↓reduceIte]
    cases kept : a.link.fault with
    | some failure => exact .inr (.inl ⟨bytes, failure, rfl, rfl, rfl⟩)
    | none => exact .inr (.inr ⟨bytes, rfl, rfl, rfl⟩)

/-- The client goes on to a phase and sends what is due in it: that is queued, or the attempt is
over. -/
theorem Sound.say (sound : Sound settings clientId inbound broken e)
    (undecided : e.attempt.verdict = none) {next : Phase} {frame : Except WireError Bytes}
    (waits : next.isDue = false)
    (heard : ∀ taken, e.attempt.phase.Taken taken → next.Taken taken)
    (greeted : (∃ bytes, hello leastClientVersion greatestClientVersion settings.connectOptions =
        .ok bytes) ∨
      next = .greeting ∧
        hello leastClientVersion greatestClientVersion settings.connectOptions = frame)
    (accepted : ∀ reply, next.accepted? = some reply →
      inbound.reply? = some (.ok reply) ∧ leastServerVersion ≤ reply.1)
    (cause : ∀ why, frame = .error why → Cause settings inbound next (.protocol why))
    (said : e.attempt.phase.said settings clientId ++ frame.toOption.getD [] =
      next.said settings clientId)
    (front : next = .greeting ∧ e.attempt.phase.said settings clientId = [] ∨
      (∃ version text, next = .starting version text) ∧
        e.attempt.phase.said settings clientId = helloFrame settings) :
    Sound settings clientId inbound broken
      { e with attempt := ({ e.attempt with phase := next } : Attempt).send frame } := by
  obtain ⟨up, on⟩ := sound.up (by rw [undecided]; rfl)
  have ships := sound.ships undecided
  obtain ⟨taken, receives, taking⟩ := sound.inflow undecided
  have helloOk : ∀ bytes, frame = .ok bytes → ∃ greeting,
      hello leastClientVersion greatestClientVersion settings.connectOptions = .ok greeting := by
    intro bytes encoded
    rcases greeted with fine | ⟨-, same⟩
    · exact fine
    · exact ⟨bytes, same.trans encoded⟩
  rcases send_cases (a := { e.attempt with phase := next }) up frame with
    ⟨why, spoiled, same⟩ | ⟨bytes, failure, encoded, kept, same⟩ | ⟨bytes, encoded, -, same⟩
  · rw [same]
    rw [spoiled] at said
    refine ⟨fun _ => ⟨up, on⟩, sound.listening, sound.own, nofun, fun _ => ?_, accepted, ?_, _,
      ships, .inl ((List.append_nil _).symm.trans said)⟩
    · exact greeted.imp_right (And.imp_right fun same => ⟨why, same.trans spoiled, rfl⟩)
    · rintro _ ⟨⟩
      exact .failed rfl waits (.inr (cause why spoiled))
  · rw [same]
    have troubled := sound.troubled undecided kept
    have own := sound.own failure kept
    refine ⟨fun _ => ⟨up, on⟩, sound.listening, sound.own, nofun,
      fun _ => .inl (helloOk bytes encoded), accepted, ?_, _, ships,
      .inr ⟨troubled, ⟨failure, own, rfl⟩, front⟩⟩
    rintro _ ⟨⟩
    exact .failed own waits (.inl troubled)
  · rw [same]
    rw [encoded] at said
    refine ⟨fun _ => ⟨up, on⟩, sound.listening, sound.own,
      fun _ => ⟨taken, ⟨receives.buffer, receives.arrived, receives.reading, receives.fault⟩,
        heard taken taking⟩,
      fun _ => .inl (helloOk bytes encoded), accepted, ?_, _, ships.queue on bytes, .inl said⟩
    intro verdict decided
    cases undecided.symm.trans decided

theorem Sound.speak (sound : Sound settings clientId inbound broken e)
    (undecided : e.attempt.verdict = none) (due : e.attempt.phase.isDue = true) :
    Sound settings clientId inbound broken
      { e with attempt := e.attempt.speak settings clientId } := by
  unfold Attempt.speak
  cases phase : e.attempt.phase with
  | greeting | starting =>
    rw [phase] at due
    cases due
  | fresh =>
    refine sound.say undecided rfl ?_ (.inr ⟨rfl, rfl⟩) nofun (fun _ => .unsaid) ?_ ?_ <;>
      rw [phase]
    · exact fun _ heard => heard
    · rfl
    · exact .inl ⟨rfl, rfl⟩
  | accepted version text =>
    have greeted := sound.helloOk undecided (by rw [phase]; nofun)
    have accepted := sound.accepted
    rw [phase] at accepted
    refine sound.say undecided rfl ?_ (.inl greeted) accepted (fun _ _ => .unheard) ?_ ?_ <;>
      rw [phase]
    · exact fun _ heard => heard
    · rfl
    · exact .inr ⟨⟨version, text, rfl⟩, rfl⟩

/-- A payload is taken out of the queue, and the client goes on to a phase in which nothing more has
been said, or stays where it is. -/
theorem Sound.behind (sound : Sound settings clientId inbound broken e)
    (undecided : e.attempt.verdict = none) (moved : e.attempt.phase ≠ .fresh)
    {payload : Bytes} {rest : List Bytes} (come : e.attempt.link.arrived = payload :: rest)
    (next : Phase)
    (heard : ∀ taken, inbound.arrived = taken ++ payload :: rest → e.attempt.phase.Taken taken →
      next.Taken (taken ++ [payload]))
    (accepted : ∀ reply, next.accepted? = some reply →
      inbound.reply? = some (.ok reply) ∧ leastServerVersion ≤ reply.1)
    (said : next.said settings clientId = e.attempt.phase.said settings clientId) :
    Sound settings clientId inbound broken
      { e with attempt := { e.attempt.behind rest with phase := next } } := by
  obtain ⟨taken, receives, taking⟩ := sound.inflow undecided
  have order : inbound.arrived = taken ++ payload :: rest := come ▸ receives.arrived
  have nowTaken : (e.attempt.behind rest).link.Receives inbound (taken ++ [payload]) broken :=
    ⟨receives.buffer, by rw [order, List.append_assoc]; rfl, receives.reading, receives.fault⟩
  refine ⟨fun stays => ⟨(sound.up stays).gate, (sound.up stays).shutdown⟩, sound.listening,
    sound.own, fun _ => ⟨_, nowTaken, heard taken order taking⟩,
    fun _ => .inl (sound.helloOk undecided moved), accepted, ?_, _,
    (sound.ships undecided).congr rfl, .inl said.symm⟩
  intro verdict decided
  cases undecided.symm.trans decided

/-- A payload decides the attempt, and what stays in the queue does not matter any more. -/
theorem Sound.decideBehind (sound : Sound settings clientId inbound broken e)
    (undecided : e.attempt.verdict = none) (moved : e.attempt.phase ≠ .fresh)
    (rest : List Bytes) {verdict : Verdict}
    (judged : Judged settings inbound broken e.attempt.phase verdict) :
    Sound settings clientId inbound broken
      { e with attempt := (e.attempt.behind rest).decide verdict } := by
  obtain ⟨gate, shutdown⟩ := sound.up (by rw [undecided]; rfl)
  refine ⟨fun _ => ⟨gate, shutdown⟩, sound.listening, sound.own, nofun,
    fun _ => .inl (sound.helloOk undecided moved), sound.accepted, ?_, _,
    (sound.ships undecided).congr rfl, .inl rfl⟩
  rintro _ ⟨⟩
  exact judged

theorem Sound.hearGreeting (sound : Sound settings clientId inbound broken e)
    (undecided : e.attempt.verdict = none) (phase : e.attempt.phase = .greeting)
    {payload : Bytes} {rest : List Bytes} (come : e.attempt.link.arrived = payload :: rest) :
    Sound settings clientId inbound broken
      { e with attempt := (e.attempt.behind rest).hearGreeting payload } := by
  have moved : e.attempt.phase ≠ .fresh := by rw [phase]; nofun
  have first : ∀ taken, e.attempt.phase.Taken taken → taken = [] := by
    intro taken heard
    rw [phase] at heard
    exact heard
  have reply : inbound.reply? = some (handshakeReply (Cursor.start payload 0)).1 := by
    obtain ⟨taken, receives, heard⟩ := sound.inflow undecided
    rw [Link.reply?, receives.arrived, first taken heard, come]
    rfl
  have decide : ∀ verdict, Judged settings inbound broken .greeting verdict →
      Sound settings clientId inbound broken
        { e with attempt := (e.attempt.behind rest).decide verdict } :=
    fun _ judged => sound.decideBehind undecided moved rest (phase ▸ judged)
  unfold Attempt.hearGreeting
  cases read : (handshakeReply (Cursor.start payload 0)).1 with
  | error why =>
    rw [read] at reply
    exact decide _ (.failed rfl rfl (.inr (.unreadable reply)))
  | ok found =>
    obtain ⟨version, text⟩ := found
    rw [read] at reply
    dsimp only
    split
    · rename_i negative
      exact decide _ (.redirected reply negative)
    · rename_i positive
      split
      · rename_i low
        exact decide _ (.old reply (Int.not_lt.mp positive) low)
      · rename_i high
        refine sound.behind undecided moved come (.accepted version text) ?_ ?_
          (by rw [phase]; rfl)
        · intro taken _ heard
          rw [first taken heard]
          exact congrArg some read
        · rintro _ ⟨⟩
          exact ⟨reply, Int.not_lt.mp high⟩

theorem Sound.hearStart (sound : Sound settings clientId inbound broken e)
    (undecided : e.attempt.verdict = none) {version : Int} {text : String}
    (phase : e.attempt.phase = .starting version text)
    {payload : Bytes} {rest : List Bytes} (come : e.attempt.link.arrived = payload :: rest) :
    Sound settings clientId inbound broken
      { e with attempt := (e.attempt.behind rest).hearStart version text payload } := by
  have moved : e.attempt.phase ≠ .fresh := by rw [phase]; nofun
  have decide : ∀ verdict, Judged settings inbound broken (.starting version text) verdict →
      Sound settings clientId inbound broken
        { e with attempt := (e.attempt.behind rest).decide verdict } :=
    fun _ judged => sound.decideBehind undecided moved rest (phase ▸ judged)
  unfold Attempt.hearStart
  split
  · exact decide _ (.failed rfl rfl (.inr .unheard))
  · split
    · split
      · exact decide _ (.failed rfl rfl (.inr .unheard))
      · exact decide _ (.ready _)
    · refine sound.behind undecided moved come e.attempt.phase ?_ sound.accepted rfl
      intro taken _ heard
      rw [phase] at heard ⊢
      unfold Phase.Taken at heard ⊢
      cases taken with
      | nil => cases heard
      | cons first others => exact heard

theorem Sound.hear (sound : Sound settings clientId inbound broken e)
    (undecided : e.attempt.verdict = none) (waits : e.attempt.phase.isDue = false)
    {payload : Bytes} {rest : List Bytes} (come : e.attempt.link.arrived = payload :: rest) :
    Sound settings clientId inbound broken
      { e with attempt := (e.attempt.behind rest).hear payload } := by
  unfold Attempt.hear
  rw [show (e.attempt.behind rest).phase = e.attempt.phase from rfl]
  cases phase : e.attempt.phase with
  | fresh | accepted =>
    rw [phase] at waits
    cases waits
  | greeting => exact sound.hearGreeting undecided phase come
  | starting version text => exact sound.hearStart undecided phase come

/-- An attempt that is lost begins to close its link. -/
theorem Sound.shut (sound : Sound settings clientId inbound broken e) {verdict : Verdict}
    (decided : e.attempt.verdict = some verdict) (lost : verdict.isReady = false) :
    Sound settings clientId inbound broken
      { e with attempt := { e.attempt with
        link := { e.attempt.link with
          gate := e.attempt.link.gate.beginClose.1, shutdown := true } } } := by
  refine ⟨?_, sound.listening, sound.own, ?_, sound.greeted, sound.accepted, sound.judged, ?_⟩
  · intro stays
    have stays : e.attempt.verdict.all Verdict.isReady = true := stays
    rw [decided, Option.all_some, lost] at stays
    cases stays
  · intro undecided
    cases decided.symm.trans undecided
  · obtain ⟨stream, ships, sent⟩ := sound.outflow
    exact ⟨stream, ships.shutting, sent⟩

/-- Nothing is left to be taken, and nothing more comes. -/
theorem Sound.judged_of_deaf (sound : Sound settings clientId inbound broken e)
    (undecided : e.attempt.verdict = none) (waits : e.attempt.phase.isDue = false)
    (nothing : e.attempt.link.arrived = []) (deaf : e.attempt.link.reading = false) :
    Judged settings inbound broken e.attempt.phase
      (.failed (e.attempt.link.fault.getD .closed)) := by
  cases kept : e.attempt.link.fault with
  | some failure =>
    exact .failed (sound.own failure kept) waits (.inl (sound.troubled undecided kept))
  | none =>
    obtain ⟨taken, receives, heard⟩ := sound.inflow undecided
    refine .failed rfl waits (.inr ?_)
    cases phase : e.attempt.phase with
    | fresh | accepted =>
      rw [phase] at waits
      cases waits
    | greeting =>
      rw [phase] at heard
      have first : taken = [] := heard
      refine .silent (receives.reading.symm.trans deaf) ?_
      rw [Link.reply?, receives.arrived, first, nothing]
      rfl
    | starting version text => exact .unheard

theorem Sound.step (sound : Sound settings clientId inbound broken e) :
    Sound settings clientId inbound broken (e.step settings clientId) := by
  unfold Encounter.step
  dsimp only
  split
  · exact sound
  · rename_i target decided
    exact sound.shut decided rfl
  · rename_i failure decided
    exact sound.shut decided rfl
  · rename_i undecided
    by_cases due : e.attempt.phase.isDue = true
    · rw [if_pos due]
      exact sound.speak undecided due
    have waits : e.attempt.phase.isDue = false := Bool.eq_false_iff.mpr due
    have moved : e.attempt.phase ≠ .fresh := by
      intro same
      rw [same] at due
      exact due rfl
    rw [if_neg due]
    split
    · split
      · rename_i failure kept
        exact sound.decide undecided moved
          (.failed (sound.own failure kept) waits (.inl (sound.troubled undecided kept))) false
      · exact sound.looks false
    · split
      · rename_i payload rest come
        exact sound.hear undecided waits come
      · rename_i nothing
        split
        · exact sound.looks true
        · rename_i deaf
          exact sound.decide undecided moved
            (sound.judged_of_deaf undecided waits nothing (Bool.eq_false_iff.mpr deaf)) _

theorem Sound.run (sound : Sound settings clientId inbound broken e) (happenings : List Happening) :
    Sound settings clientId ((happenings.filterMap Happening.act?).foldl Link.meet inbound)
      (broken || happenings.any Happening.isFault)
      (happenings.foldl (happen settings clientId) e) := by
  induction happenings generalizing inbound broken e with
  | nil => exact (Bool.or_false broken).symm ▸ sound
  | cons first rest ih =>
    rw [List.any_cons, List.foldl_cons]
    cases first with
    | act act =>
      rw [List.filterMap_cons_some (show (Happening.act act).act? = some act from rfl)]
      exact ih (sound.meet act)
    | step => exact ih sound.step
    | write stroke =>
      rw [← Bool.or_assoc]
      exact ih (sound.write stroke)

theorem take_cases {l : Link} (up : l.IsUp) :
    (∃ payload rest, l.arrived = payload :: rest ∧
      l.take = ({ l with arrived := rest }, some (.ok payload))) ∨
    l.arrived = [] ∧
      ((∃ failure, l.fault = some failure ∧ l.take = (l, some (.error failure))) ∨
      l.fault = none ∧ (l.reading = false ∧ l.take = (l, some (.error .closed)) ∨
        l.reading = true ∧ l.take = (l, none))) := by
  unfold Link.take
  rw [up.gate, up.shutdown]
  cases come : l.arrived with
  | cons payload rest => exact .inl ⟨payload, rest, rfl, rfl⟩
  | nil =>
    refine .inr ⟨rfl, ?_⟩
    cases kept : l.fault with
    | some failure => exact .inl ⟨failure, rfl, rfl⟩
    | none => cases l.reading <;> simp

/-- What every step of the client keeps is kept until it has to wait, and then nothing more can be
taken. -/
theorem hearAll_of_step {P : Encounter → Prop} (next : ∀ e, P e → P (e.step settings clientId))
    (up : ∀ e, P e → e.attempt.verdict = none → e.attempt.link.IsUp)
    {a : Attempt} (start : P ⟨a, false⟩) :
    P ⟨a.hearAll settings clientId, false⟩ ∧
      ((a.hearAll settings clientId).verdict = none →
        (a.hearAll settings clientId).phase.isDue = false ∧
        (a.hearAll settings clientId).link.arrived = [] ∧
        (a.hearAll settings clientId).link.fault = none) := by
  fun_induction Attempt.hearAll settings clientId a with
  | case1 a verdict decided => exact ⟨start, fun undecided => by cases decided.symm.trans undecided⟩
  | case2 a undecided due ih =>
    refine ih ?_
    have stepped := next _ start
    simp only [Encounter.step, undecided, due, ↓reduceIte] at stepped
    exact stepped
  | case3 a undecided due link taken =>
    refine ⟨start, fun _ => ⟨Bool.eq_false_iff.mpr due, ?_⟩⟩
    rcases take_cases (l := a.link) (up _ start undecided) with ⟨_, _, _, same⟩ | ⟨nothing,
      ⟨_, _, same⟩ | ⟨whole, ⟨_, same⟩ | _⟩⟩
    · cases taken.symm.trans same
    · cases taken.symm.trans same
    · cases taken.symm.trans same
    · exact ⟨nothing, whole⟩
  | case4 a undecided due link failure taken =>
    refine ⟨?_, nofun⟩
    have stepped := next _ start
    simp only [Encounter.step, undecided, due, Bool.false_eq_true, ↓reduceIte] at stepped
    rcases take_cases (l := a.link) (up _ start undecided) with ⟨_, _, _, same⟩ | ⟨nothing,
      ⟨found, kept, same⟩ | ⟨whole, ⟨deaf, same⟩ | ⟨_, same⟩⟩⟩ <;> cases taken.symm.trans same
    · rw [nothing] at stepped
      cases reading : a.link.reading with
      | true =>
        -- the queue is found empty first, and the fault behind it
        simp only [reading, ↓reduceIte] at stepped
        have again := next _ stepped
        simp only [Encounter.step, undecided, due, Bool.false_eq_true, ↓reduceIte] at again
        rw [kept] at again
        exact again
      | false =>
        simp only [reading, Bool.false_eq_true, ↓reduceIte] at stepped
        rw [kept] at stepped
        exact stepped
    · rw [nothing] at stepped
      simp only [deaf, Bool.false_eq_true, ↓reduceIte] at stepped
      rw [whole] at stepped
      exact stepped
  | case5 a undecided due link payload taken ih =>
    refine ih ?_
    have stepped := next _ start
    simp only [Encounter.step, undecided, due, Bool.false_eq_true, ↓reduceIte] at stepped
    rcases take_cases (l := a.link) (up _ start undecided) with ⟨_, _, come, same⟩ | ⟨nothing,
      ⟨_, _, same⟩ | ⟨_, ⟨_, same⟩ | ⟨_, same⟩⟩⟩ <;> cases taken.symm.trans same
    rw [come] at stepped
    rw [undecided]
    exact stepped

theorem Sound.hearAll {a : Attempt} {looking : Bool}
    (sound : Sound settings clientId inbound broken ⟨a, looking⟩) :
    Sound settings clientId inbound broken ⟨a.hearAll settings clientId, false⟩ ∧
      ((a.hearAll settings clientId).verdict = none →
        (a.hearAll settings clientId).phase.isDue = false ∧
        (a.hearAll settings clientId).link.arrived = [] ∧
        (a.hearAll settings clientId).link.fault = none) :=
  hearAll_of_step (P := Sound settings clientId inbound broken) (fun _ => Sound.step)
    (fun _ sound undecided => sound.up (by rw [undecided]; rfl)) (sound.looks false)

end Encounter

/-- What an attempt has come to, on a connection on which so much has come in. -/
structure Attempt.Decided (settings : Settings) (inbound : Link) (broken : Bool) (a : Attempt) :
    Prop where
  own : ∀ failure, a.link.fault = some failure → failure.ofConnection = true
  greeted : (∃ frame,
      hello leastClientVersion greatestClientVersion settings.connectOptions = .ok frame) ∨
    a.phase = .greeting ∧ ∃ why,
      hello leastClientVersion greatestClientVersion settings.connectOptions = .error why ∧
      a.verdict = some (.failed (.protocol why))
  accepted : ∀ reply, a.phase.accepted? = some reply →
    inbound.reply? = some (.ok reply) ∧ leastServerVersion ≤ reply.1
  judged : ∃ verdict, a.verdict = some verdict ∧
    (Judged settings inbound broken a.phase verdict ∨
      verdict = .failed .timeout ∧ a.phase.isDue = false ∧
        (a.phase = .greeting → inbound.reply? = none))

/-- An attempt at its end, with its link put away. -/
structure Attempt.Settled (settings : Settings) (clientId : Int) (inbound : Link) (broken : Bool)
    (a : Attempt) : Prop extends a.Decided settings inbound broken where
  sent : ∃ stream, a.HasSent settings clientId inbound broken stream ∧
    a.link.written <+: stream ∧ (broken = false → a.link.written = stream)
  isUp : a.verdict.all Verdict.isReady = true → a.link.IsUp
  isClosed : a.verdict.all Verdict.isReady = false → a.link.IsClosed

theorem Judged.moved {settings : Settings} {inbound : Link} {broken : Bool} {phase : Phase}
    {verdict : Verdict} (judged : Judged settings inbound broken phase verdict) :
    phase ≠ .fresh := by
  rintro rfl
  cases judged with
  | failed _ waiting _ => cases waiting

namespace Encounter

variable {settings : Settings} {clientId : Int} {inbound : Link} {broken : Bool} {a : Attempt}

/-- An attempt that still waits when its time is up fails without a word. -/
theorem Sound.expire (sound : Sound settings clientId inbound broken ⟨a, false⟩)
    (waits : a.verdict = none →
      a.phase.isDue = false ∧ a.link.arrived = [] ∧ a.link.fault = none) :
    a.expire.Decided settings inbound broken ∧
      (∃ stream, a.expire.HasSent settings clientId inbound broken stream ∧
        a.expire.link.Ships stream broken) ∧
      (a.expire.verdict.all Verdict.isReady = true → a.expire.link.IsUp) := by
  cases decided : a.verdict with
  | some verdict =>
    have same : a.expire = a := by rw [Attempt.expire, decided, Option.isSome_some, if_pos rfl]
    have judged := sound.judged verdict decided
    obtain ⟨stream, ships, sent⟩ := sound.outflow
    rw [same]
    exact ⟨⟨sound.own, sound.greeted judged.moved, sound.accepted, verdict, decided, .inl judged⟩,
      ⟨stream, sent, ships⟩, sound.up⟩
  | none =>
    have late : a.expire = a.fail .timeout := by
      rw [Attempt.expire, decided]
      rfl
    obtain ⟨waiting, nothing, -⟩ := waits decided
    have moved : a.phase ≠ .fresh := by
      intro fresh
      rw [fresh] at waiting
      cases waiting
    rw [late]
    refine ⟨⟨sound.own, .inl (sound.helloOk decided moved), sound.accepted, _, rfl,
      .inr ⟨rfl, waiting, ?_⟩⟩, ⟨_, .inl rfl, sound.ships decided⟩, nofun⟩
    intro greeting
    obtain ⟨taken, receives, heard⟩ := sound.inflow decided
    have heard : a.phase.Taken taken := heard
    rw [show a.phase = .greeting from greeting] at heard
    have first : taken = [] := heard
    rw [Link.reply?, receives.arrived, first, show a.link.arrived = [] from nothing]
    rfl

/-- Behind its last step an attempt is decided, and its link is put away. -/
theorem Sound.settle {e : Encounter} (sound : Sound settings clientId inbound broken e) :
    (e.settle settings clientId).Settled settings clientId inbound broken := by
  have looked : Sound settings clientId inbound broken
      (if e.looking then e.step settings clientId else e) := by
    split
    · exact sound.step
    · exact sound
  unfold Encounter.settle
  dsimp only
  generalize (if e.looking then e.step settings clientId else e) = e at looked ⊢
  obtain ⟨heard, waits⟩ := looked.hearAll
  obtain ⟨⟨own, greeted, accepted, verdict, decided, judged⟩, ⟨stream, sent, ships⟩, up⟩ :=
    heard.expire waits
  generalize (e.attempt.hearAll settings clientId).expire = a at *
  cases verdict with
  | ready version text id =>
    have flushed : a.conclude = { a with link := a.link.flush } := by
      rw [Attempt.conclude, decided]
    obtain ⟨-, shutdown, gate⟩ := Link.wroteOn_flush a.link
    rw [flushed]
    refine ⟨⟨fun failure same => own failure ((Link.written_flush _).fault.symm.trans same),
      greeted, accepted, _, decided, judged⟩, ⟨stream, sent, ships.flush.front, ?_⟩, ?_, ?_⟩
    · intro intact
      subst intact
      exact ships.written_flush
    · intro stays
      exact ⟨(congrArg Gate.closing gate).trans (up stays).1, shutdown.trans (up stays).2⟩
    · intro lost
      have lost : a.verdict.all Verdict.isReady = false := lost
      rw [decided] at lost
      cases lost
  | redirected target | failed failure =>
    have closed : a.conclude = { a with link := a.link.close } := by
      rw [Attempt.conclude, decided]
    rw [closed]
    refine ⟨⟨fun failure same => own failure ((Link.fault_close _).symm.trans same),
      greeted, accepted, _, decided, judged⟩, ⟨stream, sent, ships.close.front, ?_⟩, ?_,
      fun _ => Link.isClosed_close _⟩
    · intro intact
      subst intact
      exact ships.written_close
    · intro stays
      have stays : a.verdict.all Verdict.isReady = true := stays
      rw [decided] at stays
      cases stays

end Encounter

/-- Whatever happens on a connection, and in whatever order, its attempt ends as it is said here. -/
theorem settled_attempt (settings : Settings) (clientId : Int) (happenings : List Happening) :
    (attempt settings clientId happenings).Settled settings clientId (received happenings)
      (happenings.any Happening.isFault) :=
  (Encounter.sound_blank.run happenings).settle

end MarketLink.Session
