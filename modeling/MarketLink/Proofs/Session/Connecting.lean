import MarketLink.Proofs.Session.Attempts
import MarketLink.Proofs.Session.Redirects
import MarketLink.Proofs.Settings.Rules

set_option autoImplicit false

namespace MarketLink.Session

open Message Text Wire

/-- The reply that a gateway gives on a connection, whether it is heard or not. -/
def replyOf (happenings : List Happening) : Option (Except WireError (Int × String)) :=
  (received happenings).reply?

/-- The reply accepts the client. -/
def accepts : Option (Except WireError (Int × String)) → Bool
  | some (.ok (version, _)) => leastServerVersion ≤ version
  | some (.error _) | none => false

/-- What a connection carries on which nothing fails before its reply has been heard. -/
def carried (settings : Settings) (clientId : Int)
    (reply : Option (Except WireError (Int × String))) : Bytes :=
  match hello leastClientVersion greatestClientVersion settings.connectOptions with
  | .error _ => []
  | .ok frame => frame ++ if accepts reply then startFrame settings clientId else []

namespace Attempt

/-- The connection has failed. -/
def IsLost (a : Attempt) : Prop :=
  ∃ failure, failure.ofConnection = true ∧ a.verdict = some (.failed failure)

/-- The verdict that follows from a reply that is heard. -/
inductive Answers (settings : Settings) :
    Option (Except WireError (Int × String)) → Verdict → Prop
  | unsaid {reply why}
    (spoiled : hello leastClientVersion greatestClientVersion settings.connectOptions =
      .error why) :
    Answers settings reply (.failed (.protocol why))
  | silent {failure} (nothing : failure = .closed ∨ failure = .timeout) :
    Answers settings none (.failed failure)
  | unreadable {why} : Answers settings (some (.error why)) (.failed (.protocol why))
  | redirected {version target} (negative : version < 0) :
    Answers settings (some (.ok (version, target))) (.redirected target)
  | old {version text} (positive : 0 ≤ version) (low : version < leastServerVersion) :
    Answers settings (some (.ok (version, text))) (.failed (.unsupportedServerVersion version))
  | unheard {version text failure} (accepted : leastServerVersion ≤ version)
    (own : failure.ofConnection = true) :
    Answers settings (some (.ok (version, text))) (.failed failure)
  | ready {version text id} (accepted : leastServerVersion ≤ version) :
    Answers settings (some (.ok (version, text))) (.ready version text id)

section Settled

variable {settings : Settings} {clientId : Int} {inbound : Link} {broken : Bool} {a : Attempt}

theorem Decided.answers (decided : a.Decided settings inbound broken)
    (heard : ¬Troubled inbound broken ∨ ¬a.IsLost) {verdict : Verdict}
    (same : a.verdict = some verdict) : Answers settings inbound.reply? verdict := by
  obtain ⟨found, also, judged⟩ := decided.judged
  cases same.symm.trans also
  -- a failure behind the reply of a gateway that was accepted
  have unheard : ∀ version text failure, a.phase = .starting version text →
      failure.ofConnection = true → Answers settings inbound.reply? (.failed failure) := by
    intro version text failure phase own
    obtain ⟨said, new⟩ := decided.accepted (version, text) (by rw [phase]; rfl)
    rw [said]
    exact .unheard new own
  rcases judged with judged | ⟨rfl, waiting, silent⟩
  · generalize phase : a.phase = here at judged
    cases judged with
    | redirected said negative => exact said ▸ .redirected negative
    | old said positive low => exact said ▸ .old positive low
    | ready raw =>
      obtain ⟨said, new⟩ := decided.accepted _ (by rw [phase]; rfl)
      exact said ▸ .ready new
    | failed own waiting cause =>
      rcases cause with troubled | cause
      · rcases heard with calm | kept
        · exact absurd troubled calm
        · exact absurd ⟨_, own, same⟩ kept
      · cases cause with
        | unsaid spoiled => exact .unsaid spoiled
        | silent _ none => exact none ▸ .silent (.inl rfl)
        | unreadable said => exact said ▸ .unreadable
        | unheard => exact unheard _ _ _ phase own
  · cases phase : a.phase with
    | fresh | accepted =>
      rw [phase] at waiting
      cases waiting
    | greeting => exact silent phase ▸ .silent (.inr rfl)
    | starting version text => exact unheard _ _ _ phase rfl

theorem Decided.phase_cases (decided : a.Decided settings inbound broken) :
    a.phase = .greeting ∨ ∃ version text, a.phase = .starting version text := by
  have waiting : a.phase.isDue = false := by
    obtain ⟨verdict, -, judged | ⟨-, waiting, -⟩⟩ := decided.judged
    · generalize a.phase = phase at judged
      cases judged with
      | redirected | old | ready => rfl
      | failed _ waiting _ => exact waiting
    · exact waiting
  cases phase : a.phase with
  | fresh | accepted =>
    rw [phase] at waiting
    cases waiting
  | greeting => exact .inl rfl
  | starting version text => exact .inr ⟨version, text, rfl⟩

theorem Decided.accepts_of_starting (decided : a.Decided settings inbound broken) {version : Int}
    {text : String} (phase : a.phase = .starting version text) :
    accepts inbound.reply? = true := by
  obtain ⟨said, new⟩ := decided.accepted (version, text) (by rw [phase]; rfl)
  rw [said]
  exact decide_eq_true new

/-- A gateway whose reply has not been followed by a frame has not accepted the client. -/
theorem Decided.accepts_of_greeting (decided : a.Decided settings inbound broken)
    (heard : ¬Troubled inbound broken ∨ ¬a.IsLost) (phase : a.phase = .greeting) {frame : Bytes}
    (greets : hello leastClientVersion greatestClientVersion settings.connectOptions =
      .ok frame) :
    accepts inbound.reply? = false := by
  have least : (0 : Int) ≤ leastServerVersion := by decide
  obtain ⟨verdict, same, judged | ⟨-, -, silent⟩⟩ := decided.judged
  · rw [phase] at judged
    cases judged with
    | redirected said negative =>
      rw [said]
      exact decide_eq_false (by omega)
    | old said positive low =>
      rw [said]
      exact decide_eq_false (by omega)
    | failed own _ cause =>
      rcases cause with troubled | cause
      · rcases heard with calm | kept
        · exact absurd troubled calm
        · exact absurd ⟨_, own, same⟩ kept
      · cases cause with
        | unsaid spoiled => cases greets.symm.trans spoiled
        | silent _ nothing => rw [nothing]; rfl
        | unreadable said => rw [said]; rfl
  · rw [silent phase]
    rfl

/-- Nothing is asked of a gateway that has not accepted the client. -/
theorem Decided.carried_eq (decided : a.Decided settings inbound broken)
    (heard : ¬Troubled inbound broken ∨ ¬a.IsLost) :
    carried settings clientId inbound.reply? = a.phase.said settings clientId := by
  rcases decided.phase_cases with phase | ⟨version, text, phase⟩
  · rw [phase]
    cases greets : hello leastClientVersion greatestClientVersion settings.connectOptions with
    | error why =>
      simp only [carried, Phase.said, helloFrame, greets, Except.toOption, Option.getD_none]
    | ok frame =>
      simp only [carried, Phase.said, helloFrame, greets,
        decided.accepts_of_greeting heard phase greets, Except.toOption, Option.getD_some,
        Bool.false_eq_true, ↓reduceIte, List.append_nil]
  · obtain ⟨frame, greets⟩ | ⟨here, -⟩ := decided.greeted
    · rw [phase]
      simp only [carried, Phase.said, helloFrame, greets, decided.accepts_of_starting phase,
        Except.toOption, Option.getD_some, ↓reduceIte]
    · cases phase.symm.trans here

/-- A connection carries the front of one hello, and behind it of the frame that asks for a start if
the gateway has accepted the client; all of it, if nothing fails. -/
theorem Settled.stream (settled : a.Settled settings clientId inbound broken) :
    ∃ stream, (stream = [] ∨ stream = helloFrame settings ∨
        accepts inbound.reply? = true ∧
          stream = helloFrame settings ++ startFrame settings clientId) ∧
      (¬Troubled inbound broken ∨ ¬a.IsLost → stream = carried settings clientId inbound.reply?) ∧
      a.link.written <+: stream ∧ (broken = false → a.link.written = stream) := by
  obtain ⟨stream, sent, front, whole⟩ := settled.sent
  refine ⟨stream, ?_, ?_, front, whole⟩
  · rcases sent with all | ⟨-, -, ⟨-, nothing⟩ | ⟨-, greeting⟩⟩
    · rcases settled.phase_cases with phase | ⟨version, text, phase⟩ <;> rw [phase] at all
      · exact .inr (.inl all)
      · exact .inr (.inr ⟨settled.accepts_of_starting phase, all⟩)
    · exact .inl nothing
    · exact .inr (.inl greeting)
  · intro heard
    rcases sent with all | ⟨troubled, lost, -⟩
    · rw [settled.carried_eq heard]
      exact all
    · rcases heard with calm | kept
      · exact absurd troubled calm
      · exact absurd lost kept

end Settled

end Attempt

def redirect? (settings : Settings) (clientId : Int) (happenings : List Happening) :
    Option String :=
  match (attempt settings clientId happenings).verdict with
  | some (.redirected target) => some target
  | some (.ready _ _ _) | some (.failed _) | none => none

/-- The redirects in front of a script: those up to the first connection that is not redirected. -/
def redirects (settings : Settings) (clientId : Int) : List (List Happening) → List String
  | [] => []
  | happenings :: later =>
    match redirect? settings clientId happenings with
    | some target => target :: redirects settings clientId later
    | none => []

/-- A dial to an address meets a fault, with what is left of the script. -/
def Refused (network : Network) (script : List (List Happening)) (address : String)
    (fault : IoFault) : Prop :=
  network.dialFault? address = some fault ∨
    network.dialFault? address = none ∧ script = [] ∧ fault = refusedFault

def ended (settings : Settings) (clientId offset : Int) (happenings : List Happening) :
    Except Failure Session :=
  let a := attempt settings clientId happenings
  match a.verdict with
  | some (.ready version text id) =>
    .ok (ofReady settings clientId offset a.link version text id)
  | some (.failed failure) => .error failure
  | some (.redirected _) | none => .error .timeout

section Attempts

variable {settings : Settings} {clientId offset : Int} {happenings : List Happening}

theorem redirect?_eq_some_iff {target : String} :
    redirect? settings clientId happenings = some target ↔
      (attempt settings clientId happenings).verdict = some (.redirected target) := by
  unfold redirect?
  split <;> rename_i same <;> rw [same] <;> simp

theorem verdict_of_other (other : redirect? settings clientId happenings = none) :
    (∃ failure, failure.ofConnection = true ∧
      (attempt settings clientId happenings).verdict = some (.failed failure)) ∨
    (∃ version, (attempt settings clientId happenings).verdict =
      some (.failed (.unsupportedServerVersion version))) ∨
    ∃ version text id,
      (attempt settings clientId happenings).verdict = some (.ready version text id) := by
  obtain ⟨verdict, same, judged | ⟨rfl, -⟩⟩ := (settled_attempt settings clientId happenings).judged
  · generalize (attempt settings clientId happenings).phase = phase at judged
    cases judged with
    | redirected => cases other.symm.trans (redirect?_eq_some_iff.mpr same)
    | old => exact .inr (.inl ⟨_, same⟩)
    | ready => exact .inr (.inr ⟨_, _, _, same⟩)
    | failed own => exact .inl ⟨_, own, same⟩
  · exact .inl ⟨_, rfl, same⟩

theorem onward_of_other (other : redirect? settings clientId happenings = none) (address : String)
    (count : Nat) :
    (attempt settings clientId happenings).onward settings clientId offset address count =
      .arrived (ended settings clientId offset happenings) := by
  unfold Attempt.onward ended
  rcases verdict_of_other other with ⟨_, _, same⟩ | ⟨_, same⟩ | ⟨_, _, _, same⟩ <;> simp only [same]

theorem isClosed_of_redirect {target : String}
    (redirected : redirect? settings clientId happenings = some target) :
    (attempt settings clientId happenings).link.IsClosed :=
  (settled_attempt settings clientId happenings).isClosed (by
    rw [redirect?_eq_some_iff.mp redirected]
    rfl)

theorem link_of_other (offset : Int) (other : redirect? settings clientId happenings = none) :
    (attempt settings clientId happenings).link.IsClosed ∧
      (∃ failure, ended settings clientId offset happenings = .error failure) ∨
    (attempt settings clientId happenings).link.IsUp ∧
      ∃ s, ended settings clientId offset happenings = .ok s ∧ s.isConnected = true ∧
        s.link = (attempt settings clientId happenings).link := by
  have settled := settled_attempt settings clientId happenings
  unfold ended
  rcases verdict_of_other other with ⟨failure, _, same⟩ | ⟨version, same⟩ |
    ⟨version, text, id, same⟩
  · exact .inl ⟨settled.isClosed (by rw [same]; rfl), failure, by simp only [same]⟩
  · exact .inl ⟨settled.isClosed (by rw [same]; rfl), .unsupportedServerVersion version,
      by simp only [same]⟩
  · refine .inr ⟨settled.isUp (by rw [same]; rfl), ?_⟩
    simp only [same]
    exact ⟨_, rfl, rfl, rfl⟩

end Attempts

/-- The dials that are made from an address to which so many redirects have led, and what they end
in. -/
inductive Trail (network : Network) (settings : Settings) (clientId offset : Int) :
    List (List Happening) → String → Nat → List Dial → Except Failure Session → Prop
  | refused {script address count fault} (met : Refused network script address fault) :
    Trail network settings clientId offset script address count [] (.error (.io fault))
  | redirected {happenings later address count target dials result}
    (redirected : redirect? settings clientId happenings = some target)
    (few : count < redirectLimit)
    (rest : Trail network settings clientId offset later (redirectAddress target address)
      (count + 1) dials result) :
    Trail network settings clientId offset (happenings :: later) address count
      (⟨address, (attempt settings clientId happenings).link⟩ :: dials) result
  | limited {happenings later address count target}
    (redirected : redirect? settings clientId happenings = some target)
    (many : redirectLimit ≤ count) :
    Trail network settings clientId offset (happenings :: later) address count
      [⟨address, (attempt settings clientId happenings).link⟩]
      (.error (.tooManyRedirects redirectLimit))
  | arrived {happenings later address count}
    (other : redirect? settings clientId happenings = none) :
    Trail network settings clientId offset (happenings :: later) address count
      [⟨address, (attempt settings clientId happenings).link⟩]
      (ended settings clientId offset happenings)

theorem trail_follow (network : Network) (settings : Settings) (clientId offset : Int)
    (script : List (List Happening)) (address : String) (count : Nat) :
    Trail network settings clientId offset script address count
      (follow network settings clientId offset script address count).1
      (follow network settings clientId offset script address count).2 := by
  induction script generalizing address count with
  | nil =>
    unfold follow
    cases met : network.dialFault? address with
    | some fault => exact .refused (.inl met)
    | none => exact .refused (.inr ⟨met, rfl, rfl⟩)
  | cons happenings later ih =>
    unfold follow
    cases met : network.dialFault? address with
    | some fault => exact .refused (.inl met)
    | none =>
      dsimp only
      cases redirected : redirect? settings clientId happenings with
      | none =>
        rw [onward_of_other redirected]
        exact .arrived redirected
      | some target =>
        unfold Attempt.onward
        rw [redirect?_eq_some_iff.mp redirected]
        dsimp only
        by_cases few : count < redirectLimit
        · rw [if_pos few]
          dsimp only
          exact .redirected redirected few (ih _ _)
        · rw [if_neg few]
          dsimp only
          exact .limited redirected (Nat.not_lt.mp few)

section Trail

variable {network : Network} {settings : Settings} {clientId offset : Int}
  {script : List (List Happening)} {address : String} {count : Nat} {dials : List Dial}
  {result : Except Failure Session} {happenings : List Happening}

theorem redirects_cons_of_redirect {later : List (List Happening)} {target : String}
    (redirected : redirect? settings clientId happenings = some target) :
    redirects settings clientId (happenings :: later) =
      target :: redirects settings clientId later := by
  rw [redirects, redirected]

theorem redirects_cons_of_other {later : List (List Happening)}
    (other : redirect? settings clientId happenings = none) :
    redirects settings clientId (happenings :: later) = [] := by
  rw [redirects, other]

theorem Trail.length_le
    (trail : Trail network settings clientId offset script address count dials result)
    (few : count ≤ redirectLimit) : dials.length + count ≤ redirectLimit + 1 := by
  induction trail with
  | refused _ => exact (Nat.zero_add _).trans_le (few.trans (Nat.le_succ _))
  | redirected _ more _ ih =>
    have rest := ih more
    rw [List.length_cons]
    omega
  | limited _ _ | arrived _ =>
    rw [List.length_singleton]
    omega

/-- A way ends where a dial is refused, where there were too many redirects, or on a connection that
is not redirected. -/
theorem Trail.ends (trail : Trail network settings clientId offset script address count
    dials result) (few : count ≤ redirectLimit) :
    let targets := redirects settings clientId script
    (dials.length ≤ targets.length ∧ dials.length + count ≤ redirectLimit ∧
      ∃ fault, result = .error (.io fault) ∧ Refused network (script.drop dials.length)
        (followed (targets.take dials.length) address) fault) ∨
    (dials.length ≤ targets.length ∧ dials.length + count = redirectLimit + 1 ∧
      result = .error (.tooManyRedirects redirectLimit)) ∨
    (dials.length = targets.length + 1 ∧
      ∃ happenings, script[targets.length]? = some happenings ∧
        redirect? settings clientId happenings = none ∧
        result = ended settings clientId offset happenings) := by
  induction trail with
  | refused met =>
    refine .inl ⟨Nat.zero_le _, ?_, _, rfl, met⟩
    rwa [List.length_nil, Nat.zero_add]
  | redirected redirected more _ ih =>
    rw [redirects_cons_of_redirect redirected]
    rcases ih more with ⟨short, within, fault, same, met⟩ | ⟨short, full, same⟩ |
      ⟨whole, happenings, last, other, same⟩
    · refine .inl ⟨Nat.succ_le_succ short, ?_, fault, same, ?_⟩
      · rw [List.length_cons]
        omega
      · rw [List.length_cons, List.drop_succ_cons, List.take_succ_cons, followed_cons]
        exact met
    · refine .inr (.inl ⟨Nat.succ_le_succ short, ?_, same⟩)
      rw [List.length_cons]
      omega
    · refine .inr (.inr ⟨congrArg (· + 1) whole, happenings, ?_, other, same⟩)
      rw [List.length_cons, List.getElem?_cons_succ]
      exact last
  | limited redirected many =>
    rw [redirects_cons_of_redirect redirected]
    refine .inr (.inl ⟨Nat.succ_le_succ (Nat.zero_le _), ?_, rfl⟩)
    rw [List.length_singleton]
    omega
  | arrived other =>
    rw [redirects_cons_of_other other]
    exact .inr (.inr ⟨rfl, _, rfl, other, rfl⟩)

/-- A connection is put away by its own attempt, and only the session's stays open. -/
theorem Trail.link (trail : Trail network settings clientId offset script address count
    dials result) {i : Nat} {d : Dial} (found : dials[i]? = some d) :
    ∃ happenings, script[i]? = some happenings ∧
      d.link = (attempt settings clientId happenings).link ∧
      (d.link.IsClosed ∨ i + 1 = dials.length ∧ d.link.IsUp ∧
        ∃ s, result = .ok s ∧ s.isConnected = true ∧ s.link = d.link) := by
  induction trail generalizing i with
  | refused _ => cases found
  | @redirected happenings _ _ _ _ _ _ redirected _ _ ih =>
    cases i with
    | zero =>
      cases found
      exact ⟨happenings, rfl, rfl, .inl (isClosed_of_redirect redirected)⟩
    | succ i =>
      obtain ⟨happenings, there, link, stays⟩ := ih found
      exact ⟨happenings, there, link, stays.imp_right (And.imp_left (congrArg (· + 1)))⟩
  | @limited happenings _ _ _ _ redirected _ =>
    cases i with
    | zero =>
      cases found
      exact ⟨happenings, rfl, rfl, .inl (isClosed_of_redirect redirected)⟩
    | succ i => cases found
  | @arrived happenings _ _ _ other =>
    cases i with
    | zero =>
      cases found
      refine ⟨happenings, rfl, rfl, ?_⟩
      exact (link_of_other _ other).imp And.left fun ⟨isUp, session⟩ => ⟨rfl, isUp, session⟩
    | succ i => cases found

theorem Trail.session
    (trail : Trail network settings clientId offset script address count dials result)
    {s : Session} (opened : result = .ok s) :
    ∃ d, dials.getLast? = some d ∧ d.link.IsUp ∧ s.link = d.link := by
  induction trail with
  | refused _ | limited _ _ => cases opened
  | redirected _ _ _ ih =>
    obtain ⟨d, last, isUp, same⟩ := ih opened
    refine ⟨d, ?_, isUp, same⟩
    rw [List.getLast?_cons, last]
    rfl
  | arrived other =>
    refine ⟨_, rfl, ?_⟩
    rcases link_of_other offset other with ⟨_, failure, failed⟩ | ⟨isUp, found, arrived, _, same⟩
    · rw [failed] at opened
      cases opened
    · rw [arrived] at opened
      cases opened
      exact ⟨isUp, same⟩

theorem Trail.opened
    (trail : Trail network settings clientId offset script address count dials result)
    {s : Session} (opened : result = .ok s) :
    s.settings = settings ∧ s.clientId = clientId ∧ s.offset = offset := by
  induction trail with
  | refused _ | limited _ _ => cases opened
  | redirected _ _ _ ih => exact ih opened
  | arrived _ =>
    unfold ended at opened
    dsimp only at opened
    split at opened <;> cases opened
    exact ⟨rfl, rfl, rfl⟩

end Trail

/-- Settings that cannot be used open nothing. -/
theorem connect_of_invalid (network : Network) (script : List (List Happening))
    {settings : Settings} (fresh : Int) {failure : Failure}
    (invalid : settings.validate = .error failure) :
    connect network script settings fresh = ([], .error failure) := by
  unfold connect
  rw [invalid]

theorem connect_eq_follow (network : Network) (script : List (List Happening))
    {settings : Settings} (fresh : Int) (valid : settings.validate = .ok ()) :
    connect network script settings fresh =
      follow network settings (settings.resolveClientId fresh) (settings.offsetMinutes * 60) script
        settings.address 0 := by
  unfold connect
  rw [valid, Settings.offset_of_valid valid]

theorem connect_once {settings : Settings} {happenings : List Happening} (fresh : Int)
    (valid : settings.validate = .ok ())
    (reached : Network.connected.dialFault? settings.address = none)
    (other : redirect? settings (settings.resolveClientId fresh) happenings = none) :
    ∃ d, (connect .connected [happenings] settings fresh).1 = [d] ∧
      d.link = (attempt settings (settings.resolveClientId fresh) happenings).link := by
  refine ⟨⟨settings.address, _⟩, ?_, rfl⟩
  rw [connect_eq_follow .connected [happenings] fresh valid]
  unfold follow
  rw [reached]
  dsimp only
  rw [onward_of_other other]

end MarketLink.Session
