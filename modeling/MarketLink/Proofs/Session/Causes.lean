import MarketLink.Proofs.Session.Desk
import MarketLink.Proofs.Session.WithdrawnOnce

set_option autoImplicit false

namespace MarketLink.Session

open Correlation Market Message Wire

theorem Errand.check_error {errand : Errand} {failure : Failure}
    (refused : errand.check = .error failure) : failure.isInternal = false := by
  cases errand with
  | call _ => cases refused
  | stream feed =>
    cases feed with
    | ticks _ _ _ => cases refused
    | depth contract rows smart =>
      simp only [Errand.check, Feed.check] at refused
      split at refused
      · cases refused
      · cases refused
        rfl

theorem Errand.frame_error {errand : Errand} {number : Int} {failure : Failure}
    (refused : errand.frame number = .error failure) : failure.isInternal = false := by
  have written : ∀ frame : Except WireError Bytes, frame.mapError Failure.protocol =
    .error failure →
      failure.isInternal = false := by
    intro frame same
    cases frame <;> cases same
    rfl
  cases errand with
  | call question => exact written _ refused
  | stream feed =>
    have refused : (feed.check.bind fun _ => (feed.frame number).mapError .protocol) =
      .error failure :=
      refused
    cases checked : feed.check with
    | error own =>
      rw [checked] at refused
      cases refused
      have stopped : (Errand.stream feed).check = .error failure := checked
      exact Errand.check_error stopped
    | ok _ =>
      rw [checked] at refused
      exact written _ refused

theorem Foreign.words {handled : List Arrival} {errand : Errand} {number : Int} {failure : Failure}
    (foreign : Foreign handled errand number failure) :
    failure ≠ .internal "response slot already released" ∧
      failure ≠ .internal "request completed without a response" := by
  obtain ⟨a, _, reply, called, _, _, rfl⟩ := foreign
  generalize errand.slot = slot
  cases a <;> cases called <;> cases slot <;> simp [Slot.mismatch, Slot.kind]

theorem Office.Sound.comes_of_idOf? {o : Office} (sound : o.Sound) {m : Nat} {id : Int}
    (carried : o.session.table.idOf? m = some id) :
    ∃ errand number, o.errands[m]? = some (errand, number) ∧ (errand.key number).id? = some id := by
  have inside : m < o.crowd.race.callers.length := by
    rw [sound.crowd.race.numbered]
    exact Table.inside_of_idOf? carried
  obtain ⟨errand, number, comes⟩ := sound.comes m _ (List.getElem?_eq_getElem inside)
  rw [Table.idOf?_eq_keys, comes.key] at carried
  exact ⟨errand, number, comes.there, carried⟩

namespace Desk

variable {w : Desk} {first : Int} {n : Nat} {failure : Failure}

/-- Everybody keeps to what was agreed on, whatever is drawn. -/
theorem fair_step (fair : w.office.Fair w.handled) (move : Move) :
    (w.step move).office.Fair (w.step move).handled := by
  have silent : ∀ move : Office.Move, move.isNumbered = true →
      (w.office.step move).Fair w.handled := by
    intro move numbered
    have next := fair.step move
    cases move with
    | come _ _ | draw _ => exact List.append_nil w.handled ▸ next
    | _ => cases numbered
  cases move with
  | draw errand =>
    unfold step
    dsimp only
    split
    · exact silent (.draw errand.question) rfl
    · exact fair
  | come draw =>
    unfold step
    dsimp only
    split
    · split
      · exact silent (.come _ _) rfl
      · exact fair
    · exact fair
  | act move =>
    unfold step
    dsimp only
    split
    · exact fair
    · exact fair.step move

theorem fair_opened {s : Session} (sober : s.Sober) (firstId : Int) :
    (opened s firstId).office.Fair [] := by
  refine ⟨Office.Sound.opened s firstId, ⟨?_, ?_, sober.congr rfl rfl, ?_, ?_⟩, ?_⟩
  · intro n r found
    cases found
  · intro ending member
    cases member
  · intro failure carried
    cases carried
  · intro n c failure there
    cases there
  · intro n result member
    cases member

theorem kept_run (fair : w.office.Fair w.handled) (numbered : w.Numbered first)
    (moves : List Move) :
    (w.run moves).office.Fair (w.run moves).handled ∧ (w.run moves).Numbered first := by
  induction moves generalizing w with
  | nil => exact ⟨fair, numbered⟩
  | cons move rest ih => exact ih (fair_step fair move) (numbered.step move)

theorem Numbered.slip (numbered : w.Numbered first) {come : Errand × Int}
    (there : w.office.errands[n]? = some come) :
    ∃ draw, w.slips[n]? = some draw ∧ w.drawn[draw]? = some come := by
  have both := congrArg (fun entries => entries[n]?) numbered.slips
  simp only [List.getElem?_map, there, Option.map_some] at both
  exact Option.map_eq_some_iff.mp both

/-- Two requests under one id have drawn it a full round apart. -/
theorem Numbered.round (numbered : w.Numbered first) {m : Nat} {id number also : Int}
    {errand other : Errand} (one : w.office.errands[n]? = some (errand, number))
    (carries : (errand.key number).id? = some id)
    (two : w.office.errands[m]? = some (other, also)) (same : (other.key also).id? = some id)
    (apart : m ≠ n) :
    ∃ own theirs, w.slips[n]? = some own ∧ w.slips[m]? = some theirs ∧
      (Round w.drawn own theirs ∨ Round w.drawn theirs own) := by
  have drawn : ∀ {errand : Errand} {number : Int} {draw : Nat}, (errand.key number).id? = some id →
      w.drawn[draw]? = some (errand, number) →
      errand.takesId = true ∧ id = idAt first (idsBefore w.drawn draw) := by
    intro errand number draw carries there
    rw [Errand.id?_key] at carries
    split at carries
    · rename_i takes
      cases carries
      exact ⟨takes, numbered.ids draw errand id there takes⟩
    · cases carries
  obtain ⟨own, slip, there⟩ := numbered.slip one
  obtain ⟨theirs, slipped, found⟩ := numbered.slip two
  obtain ⟨takes, ownId⟩ := drawn carries there
  obtain ⟨alsoTakes, theirId⟩ := drawn same found
  refine ⟨own, theirs, slip, slipped, ?_⟩
  -- nobody comes with a draw that somebody has come with
  have different : own ≠ theirs := by
    rintro rfl
    have inside := (List.getElem?_eq_some_iff.mp slipped).1
    exact apart ((List.getElem?_inj inside numbered.once).mp (slipped.trans slip.symm))
  rcases Nat.lt_or_gt_of_ne different with before | behind
  · exact Or.inl (round_of_idAt (ownId.symm.trans theirId) (idsBefore_lt there takes before))
  · exact Or.inr (round_of_idAt (theirId.symm.trans ownId) (idsBefore_lt found alsoTakes behind))

/-- Whoever is turned down because its id is pending has drawn it a full round apart from the
other. -/
theorem Numbered.wrapped (numbered : w.Numbered first) (sound : w.office.Sound) {c : Caller}
    (there : w.office.caller? n = some c) (fresh : c.stance = .fresh)
    (refused : (w.session.table.register n).2 = .error failure) : w.Wrapped n := by
  have race := sound.crowd.race
  rcases w.session.table.carried_cases n with absent | ⟨id, carried⟩ | ⟨code, waits⟩
  · have inside : w.session.table.request? n = some _ :=
      List.getElem?_eq_getElem (race.inside there)
    cases absent.symm.trans inside
  · rw [Table.register_of_id carried] at refused
    split at refused
    · rename_i taken
      obtain ⟨m, pending⟩ := Option.isSome_iff_exists.mp taken
      have apart : m ≠ n := by
        rintro rfl
        have safe := race.safe m c there
        rw [fresh] at safe
        exact safe ((race.filed.mem_pending m).mpr (Or.inl ⟨id, pending⟩))
      obtain ⟨errand, number, come, own⟩ := sound.comes_of_idOf? carried
      obtain ⟨other, also, came, same⟩ := sound.comes_of_idOf? (race.filed.ofId id m pending)
      obtain ⟨draw, theirs, slip, slipped, round⟩ := numbered.round come own came same apart
      exact ⟨id, m, draw, theirs, carried, pending, apart, slip, slipped, round⟩
    · cases refused
  · rw [Table.register_of_code waits] at refused
    cases refused

theorem Numbered.draw_error (numbered : w.Numbered first) {errand : Errand}
    (refused : errand.draw w.session.table = .error failure) : failure.isInternal = false := by
  unfold Errand.draw at refused
  cases checked : errand.check with
  | error own =>
    rw [checked] at refused
    cases refused
    exact Errand.check_error checked
  | ok _ =>
    rw [checked] at refused
    have refused : errand.number w.session.table = .error failure := refused
    rw [Errand.number_eq, allocate_of_counting (numbered.counter ▸ (isNumber_idAt first _).1)]
      at refused
    split at refused <;> cases refused

/-- Nobody is turned away by what must not be, but whose id is pending. -/
theorem Numbered.grants (numbered : w.Numbered first) (fair : w.office.Fair w.handled) {move : Move}
    (refused : w.grants move = .error failure) (internal : failure.isInternal = true) :
    ∃ n, move = .act (.turn n) ∧ w.Wrapped n := by
  have usual : ¬ failure.isInternal = false := by
    rw [internal]
    exact Bool.noConfusion
  have failing : ∀ {α : Type} {result : Except Failure α},
      (result.map fun _ => ()) = .error failure → result = .error failure := by
    intro α result same
    cases result <;> cases same
    rfl
  cases move with
  | draw errand => exact absurd (numbered.draw_error (failing refused)) usual
  | come draw =>
    unfold Desk.grants at refused
    dsimp only at refused
    split at refused
    · exact absurd (Errand.frame_error (failing refused)) usual
    · cases refused
  | act move =>
    cases move with
    | turn n =>
      unfold Desk.grants at refused
      dsimp only at refused
      split at refused
      · rename_i c there
        split at refused
        · rename_i fresh
          exact ⟨n, rfl, numbered.wrapped fair.sound there fresh refused⟩
        · exact absurd (fair.race.sober.send refused) usual
        · cases refused
      · cases refused
    | enter =>
      unfold Desk.grants Session.passes at refused
      dsimp only at refused
      split at refused
      · cases refused
        cases internal
      · cases refused
    | switch kind =>
      unfold Desk.grants at refused
      dsimp only at refused
      cases framed : reqMarketDataType kind with
      | error e =>
        rw [framed] at refused
        cases refused
        cases internal
      | ok frame =>
        rw [framed] at refused
        exact absurd (fair.race.sober.send refused) usual
    | _ => cases refused

section Fair

variable {o : Office} {handled : List Arrival} {r : Request} {slot : Slot} {target : Target}
  {handler : Handler}

theorem ended_of_fair (fair : o.Fair handled) (found : o.session.table.request? n = some r)
    (ended : r.outcome = some (.error failure)) (internal : failure.isInternal = true) :
    ∃ errand number, o.errands[n]? = some (errand, number) ∧
    Foreign handled errand number failure := by
  obtain ⟨brief, _, keeps⟩ := fair.race.holds n r found
  exact keeps.failed failure ended internal

theorem serves_of_fair (fair : o.Fair handled)
    (task : o.crowd.race.loop.task = .serve target n handler) :
    n < o.session.table.requests.length ∧
    (Office.terms o.errands handled).Serves target n handler := by
  have fits := fair.race.fits
  rw [task] at fits
  exact fits

/-- A reply that was taken out of the queue of a code is the last one that its request needs. -/
theorem verdict_of_fair (fair : o.Fair handled) {code : Int}
    (task : o.crowd.race.loop.task = .serve (.code code) n handler)
    (found : o.session.table.request? n = some r) (held : r.Holds slot) :
    (handler slot).verdict = .ok true := by
  obtain ⟨_, brief, there, suits⟩ := serves_of_fair fair task
  obtain ⟨own, same, keeps⟩ := fair.race.holds n r found
  cases there.symm.trans same
  obtain ⟨also, before, kind⟩ := keeps.holds held.2
  cases held.1.symm.trans before.1
  exact (suits slot kind).last code rfl

/-- No reply comes to a request that has lost its slot before its end. -/
theorem handled_of_fair (fair : o.Fair handled)
    (task : o.crowd.race.loop.task = .serve target n handler) :
    (o.session.table.handle n handler).2 ≠
      some (.error (.internal "response slot already released")) := by
  intro verdict
  obtain ⟨inside, serving⟩ := serves_of_fair fair task
  rcases fair.race.holds.handle_cases inside serving with ⟨none, _⟩ | ⟨slot, suits, own, _⟩
  · cases none.symm.trans verdict
  · obtain ⟨_, _, _, foreign⟩ := suits.failed _ (Option.some.inj (own.symm.trans verdict)) rfl
    exact foreign.words.1 rfl

end Fair

/-- Whatever a session's callers do and the gateway sends: a call that comes back with a slot finds
its answer in it; a reply that was taken out of the queue of a code is the answer of the request
that it was taken out for; a request has its slot until it ends and never ends without one, so that
neither of the two failures for that is ever raised; what a request or a call ends by that must not
be is a message that the gateway has sent under its id and that is of another kind; and nobody is
turned away by what must not be, but a caller whose id is still pending for another one, when the
counter of ids has gone all the way round between the two draws. -/
theorem internal_failures_take_a_foreign_reply_or_a_full_round (s : Session) (sober : s.Sober)
    (firstId : Int) (inRange : firstId ≤ greatestId) (moves : List Move) :
    let w := (opened s firstId).run moves
    (∀ n slot, (n, Except.ok slot) ∈ w.office.crowd.told → ∃ question number reply,
      w.office.errands[n]? = some (.call question, number) ∧ question.replyOf slot = .ok reply) ∧
    (∀ code n handler, w.office.crowd.race.loop.task = .serve (.code code) n handler →
      ∀ r slot, w.session.table.request? n = some r → r.Holds slot →
      (handler slot).verdict = .ok true) ∧
    (∀ n r, w.session.table.request? n = some r → (r.outcome = none → r.slot.isSome = true) ∧
      r.outcome ≠ some (.error (.internal "request completed without a response"))) ∧
    (∀ target n handler, w.office.crowd.race.loop.task = .serve target n handler →
      (w.session.table.handle n handler).2 ≠
        some (.error (.internal "response slot already released"))) ∧
    (∀ n failure, w.session.outcome? n = some (.error failure) ∨
        (n, Except.error failure) ∈ w.office.crowd.told → failure.isInternal = true →
      ∃ errand number, w.office.errands[n]? = some (errand, number) ∧
        Foreign w.handled errand number failure) ∧
    ∀ move failure, w.grants move = .error failure → failure.isInternal = true →
      ∃ n, move = .act (.turn n) ∧ w.Wrapped n := by
  intro w
  obtain ⟨fair, numbered⟩ := kept_run (fair_opened sober firstId) (.opened s inRange) moves
  refine ⟨?_, ?_, ?_, ?_, ?_, fun _ _ => numbered.grants fair⟩
  · intro n slot member
    obtain ⟨question, number, come, reply, answered⟩ := fair.told n _ member
    exact ⟨question, number, reply, come, answered⟩
  · intro code n handler task r slot found held
    exact verdict_of_fair fair task found held
  · intro n r found
    obtain ⟨brief, _, keeps⟩ := fair.race.holds n r found
    refine ⟨fun running => ?_, fun ended => ?_⟩
    · obtain ⟨slot, held, _⟩ := keeps.running running
      rw [held]
      rfl
    · obtain ⟨_, _, _, foreign⟩ := ended_of_fair fair found ended rfl
      exact foreign.words.2 rfl
  · intro target n handler task
    exact handled_of_fair fair task
  · rintro n failure (outcome | told) internal
    · obtain ⟨r, found, ended⟩ := Option.bind_eq_some_iff.mp outcome
      exact ended_of_fair fair found ended internal
    · obtain ⟨question, number, come, foreign⟩ := fair.told n _ told
      exact ⟨_, number, come, foreign internal⟩

/-- A call for past bars comes in front of one for the time, which has drawn its number first. The
gateway sends the end of a list of details under the id of the bars, and the time. -/
def endOfDetails : List Move :=
  [.draw (.call .currentTime), .draw (.call (.historicalBars {} {})),
    .come 1, .act (.turn 0), .act (.turn 0), .come 0, .act (.turn 1), .act (.turn 1),
    .act (.read (.bytes
      [0, 0, 0, 7, 53, 50, 0, 49, 0, 49, 0, 0, 0, 0, 7, 52, 57, 0, 49, 0, 53, 0])),
    .act .fetch, .act .proceed, .act .proceed, .act .proceed, .act .proceed, .act (.look 0),
    .act .fetch, .act .proceed, .act .proceed, .act .proceed, .act .proceed, .act .proceed,
    .act (.look 1)]

theorem end_of_details_fails_a_call_for_bars :
    let s := ofReady {} 7 0 {} 176 "" 1
    let w := (opened s 1).run endOfDetails
    let wrong := Failure.internal "contract data end reply routed to a historical bars request"
    (s.Sober ∧ 1 ≤ greatestId) ∧ w.slips = [1, 0] ∧
      (∃ errand number, w.office.errands[0]? = some (errand, number) ∧
        Foreign w.handled errand number wrong) ∧
      ∃ slot question number reply, (1, Except.ok slot) ∈ w.office.crowd.told ∧
        w.office.errands[1]? = some (.call question, number) ∧
        question.replyOf slot = .ok reply := by
  intro s w wrong
  have sober : s.Sober := ⟨nofun, nofun⟩
  have inRange : 1 ≤ greatestId := by decide
  have told : w.office.crowd.told.map (fun entry => (entry.1, failureOf entry.2)) =
      [(0, some wrong), (1, none)] := by decide +kernel
  obtain ⟨answers, _, _, _, causes, _⟩ :=
    internal_failures_take_a_foreign_reply_or_a_full_round s sober 1 inRange endOfDetails
  have first : (0, some wrong) ∈ w.office.crowd.told.map fun entry =>
    (entry.1, failureOf entry.2) :=
    told ▸ List.mem_cons_self
  have second : (1, none) ∈ w.office.crowd.told.map fun entry => (entry.1, failureOf entry.2) :=
    told ▸ List.mem_cons_of_mem _ List.mem_cons_self
  obtain ⟨⟨_, _ | _⟩, failed, same⟩ := List.mem_map.mp first <;> cases same
  obtain ⟨⟨_, _ | slot⟩, answered, same⟩ := List.mem_map.mp second <;> cases same
  obtain ⟨question, number, reply, come, own⟩ := answers 1 slot answered
  exact ⟨⟨sober, inRange⟩, by
    decide +kernel, causes 0 wrong (Or.inr failed) rfl, slot, question, number,
    reply, answered, come, own⟩

section HeldUp

def pastBars : Errand := .call (.historicalBars {} {})

theorem step_draw_pastBars (counting : 1 ≤ w.session.table.nextId) :
    w.step (.draw pastBars) =
      { w with
        office := { w.office with
          crowd.race.session.table.nextId := (bump w.session.table.nextId).2 }
        drawn := w.drawn ++ [(pastBars, w.session.table.nextId)] } := by
  have given : pastBars.draw w.session.table = .ok w.session.table.nextId := by
    show Errand.number _ pastBars = _
    rw [Errand.number_eq]
    exact allocate_of_counting counting
  rw [step, given]
  rfl

theorem run_draws (s : Session) {first : Int} (isNumber : IsNumber first) (count : Nat) :
    (opened s first).run (List.replicate count (.draw pastBars)) =
      { office := { Office.opened s first with
          crowd.race.session.table.nextId := idAt first count }
        drawn := (List.range count).map fun k => (pastBars, idAt first k) } := by
  induction count with
  | zero =>
    rw [(idAt_zero isNumber).trans (max_eq_left isNumber.1).symm]
    rfl
  | succ count ih =>
    have next := bump_idAt first count
    rw [List.replicate_succ', run_append, ih, List.range_succ, List.map_append]
    refine (step_draw_pastBars (isNumber_idAt first count).1).trans ?_
    dsimp only
    rw [next]
    rfl

/-- Behind such draws the last one is registered, and the first one finds its id pending. -/
theorem refused_behind_newcomer (s : Session) (value : Int) {drawn : List (Errand × Int)}
    {last : Nat} (apart : last ≠ 0) (own : drawn[0]? = some (pastBars, 1))
    (newcomer : drawn[last]? = some (pastBars, 1)) :
    let w : Desk :=
      { office := { Office.opened s 1 with crowd.race.session.table.nextId := value }, drawn }
    let after := w.run [.come last, .act (.turn 0), .come 0]
    (∃ c, after.office.caller? 1 = some c ∧ c.stance = .fresh) ∧
      (after.session.table.register 1).2 = .error (.internal "id 1 is already pending") ∧
      after.session.table.pendingId? 1 = some 0 ∧ after.slips = [last, 0] := by
  intro w after
  have framed : (pastBars.frame 1).isOk = true := by decide +kernel
  have one : w.step (.come last) =
      { w with office := w.office.step (.come pastBars 1), slips := [last] } := by
    rw [Desk.step, newcomer]
    exact if_pos ⟨List.not_mem_nil, framed⟩
  let registered : Desk :=
    { w with office := (w.office.step (.come pastBars 1)).step (.turn 0), slips := [last] }
  have two : (w.step (.come last)).step (.act (.turn 0)) = registered := by
    rw [one]
    rfl
  have three : registered.step (.come 0) =
      { registered with
        office := registered.office.step (.come pastBars 1), slips := [last, 0] } := by
    rw [Desk.step, own]
    exact if_pos ⟨fun member => apart (List.mem_singleton.mp member).symm, framed⟩
  have result : after = ((w.step (.come last)).step (.act (.turn 0))).step (.come 0) := rfl
  rw [result, two, three]
  exact ⟨⟨_, rfl, rfl⟩, rfl, rfl, rfl⟩

/-- Somebody draws and is held up while all other ids are drawn; the draw that comes behind them is
registered, and then the one that was held up comes. -/
def heldUp (last : Nat) : List Move :=
  List.replicate (last + 1) (.draw pastBars) ++ [.come last, .act (.turn 0), .come 0]

theorem refused_heldUp (s : Session) {last : Nat} (apart : last ≠ 0) (round : idAt 1 last = 1) :
    let w := (opened s 1).run (heldUp last)
    w.grants (.act (.turn 1)) = .error (.internal "id 1 is already pending") ∧
      w.session.table.pendingId? 1 = some 0 := by
  have entry : ∀ k ≤ last, ((List.range (last + 1)).map fun k => (pastBars, idAt 1 k))[k]? =
      some (pastBars, idAt 1 k) := by
    intro k within
    rw [List.getElem?_map, List.getElem?_range (Nat.lt_succ_of_le within)]
    rfl
  have newcomer := entry last (Nat.le_refl _)
  rw [round] at newcomer
  obtain ⟨⟨c, there, fresh⟩, refused, pending, _⟩ :=
    refused_behind_newcomer s (idAt 1 (last + 1)) apart (entry 0 (Nat.zero_le _)) newcomer
  intro w
  have parts : w = _ :=
    (run_append _ _ _).trans (congrArg (Desk.run · _) (run_draws s (by decide) (last + 1)))
  rw [parts]
  refine ⟨?_, pending⟩
  simp only [grants, there, fresh]
  exact refused

/-- While there are only draws nobody is pending, and behind them nothing is drawn. -/
theorem drawn_of_pending_heldUp (s : Session) {last : Nat} {earlier later : List Move}
    (whole : heldUp last = earlier ++ later)
    (pending : 0 ∈ ((opened s 1).run earlier).session.table.pending) :
    ((opened s 1).run earlier).drawn = ((opened s 1).run (heldUp last)).drawn := by
  rcases List.append_eq_append_iff.mp whole with ⟨others, front, behind⟩ | ⟨others, draws, -⟩
  · have only : ∀ move ∈ others ++ later, ∀ errand, move ≠ .draw errand := by
      rw [← behind]
      simp
    rw [whole, run_append, drawn_run fun move member => only move (List.mem_append_right _ member)]
  · obtain ⟨count, -, same⟩ : ∃ count, count ≤ last + 1 ∧
        earlier = List.replicate count (.draw pastBars) := by
      refine ⟨earlier.length, ?_, List.eq_replicate_of_mem fun move member => ?_⟩
      · rw [← List.length_replicate (n := last + 1) (a := Move.draw pastBars), draws,
          List.length_append]
        exact Nat.le_add_right _ _
      · exact List.eq_of_mem_replicate (draws ▸ List.mem_append_left others member)
    rw [same, run_draws s (by decide)] at pending
    cases pending

/-- Whoever is held up for a whole round fails by a request that was drawn just now. -/
theorem newcomer_fails_whoever_was_held_up :
    let s := ofReady {} 7 0 {} 176 "" 1
    let w := (opened s 1).run (heldUp (2 ^ 31 - 1))
    w.grants (.act (.turn 1)) = .error (.internal "id 1 is already pending") ∧
      w.session.table.pendingId? 1 = some 0 ∧
      ¬ ∃ earlier later, heldUp (2 ^ 31 - 1) = earlier ++ later ∧
        let past := (opened s 1).run earlier
        0 ∈ past.session.table.pending ∧
          (idsBefore past.drawn past.drawn.length : Int) + greatestId ≤
            idsBefore w.drawn w.drawn.length := by
  intro s
  obtain ⟨refused, pending⟩ := refused_heldUp s (show 2 ^ 31 - 1 ≠ 0 by decide) (by decide)
  refine ⟨refused, pending, ?_⟩
  rintro ⟨earlier, later, whole, was, round⟩
  rw [drawn_of_pending_heldUp s whole was] at round
  have positive : 0 < greatestId := by decide
  omega

end HeldUp

end Desk

end MarketLink.Session
