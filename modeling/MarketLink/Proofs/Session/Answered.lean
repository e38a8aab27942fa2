import MarketLink.Proofs.Session.Agreed

set_option autoImplicit false

namespace MarketLink.Session

open Correlation Message Wire

namespace Office

def arrival? (w : Office) : Move → Option Arrival
  | .fetch =>
    match w.crowd.race.loop with
    | .serving (.settle []) =>
      match w.session.shutdown, w.session.link.take.2 with
      | false, some (.ok payload) => (Arrival.read w.session.offset payload).toOption
      | _, _ => none
    | _ => none
  | _ => none

/-- What is agreed on about errands when these messages have come. -/
def terms (errands : List (Errand × Int)) (handled : List Arrival) : Terms where
  brief? n := (errands[n]?).map fun come => ⟨come.1.slot.kind, come.1.streaming⟩
  mayFail n failure := failure.isInternal = true →
    ∃ errand number, errands[n]? = some (errand, number) ∧ Foreign handled errand number failure
  deals target handler := ∃ a ∈ handled, ∃ otherwise,
    destination a = .request target handler otherwise

section Terms

variable {errands later : List (Errand × Int)} {handled more : List Arrival} {n : Nat}

theorem spares (n : Nat) (failure : Failure) (calm : failure.isInternal = false) :
    (terms errands handled).mayFail n failure := by
  intro internal
  cases calm.symm.trans internal

theorem brief?_terms {brief : Brief} (there : (terms errands handled).brief? n = some brief) :
    ∃ errand number, errands[n]? = some (errand, number) ∧
      brief = ⟨errand.slot.kind, errand.streaming⟩ := by
  obtain ⟨⟨errand, number⟩, found, same⟩ := Option.map_eq_some_iff.mp there
  exact ⟨errand, number, found, same.symm⟩

theorem extends_terms (kept : errands <+: later) (within : handled ⊆ more) :
    (terms errands handled).Extends (terms later more) := by
  obtain ⟨others, rfl⟩ := kept
  have stays : ∀ {n : Nat} {come : Errand × Int}, errands[n]? = some come →
      (errands ++ others)[n]? = some come := fun found =>
    (List.getElem?_append_left (List.getElem?_eq_some_iff.mp found).1).trans found
  refine ⟨?_, ?_, ?_⟩
  · intro n brief there
    obtain ⟨come, found, same⟩ := Option.map_eq_some_iff.mp there
    exact Option.map_eq_some_iff.mpr ⟨come, stays found, same⟩
  · intro n failure allowed internal
    obtain ⟨errand, number, found, foreign⟩ := allowed internal
    exact ⟨errand, number, stays found, foreign.mono within⟩
  · rintro target handler ⟨a, member, goes⟩
    exact ⟨a, within member, goes⟩

end Terms

/-- What a call is told that comes back: its answer, or a failure that may be. -/
def Told (errands : List (Errand × Int)) (handled : List Arrival) (n : Nat)
    (result : Except Failure Slot) : Prop :=
  ∃ question number, errands[n]? = some (.call question, number) ∧
    match result with
    | .ok slot => ∃ reply, question.replyOf slot = .ok reply
    | .error failure => failure.isInternal = true →
      Foreign handled (.call question) number failure

/-- What holds between moves, when these messages have come. -/
structure Fair (w : Office) (handled : List Arrival) : Prop where
  sound : w.Sound
  race : w.crowd.race.Fair (terms w.errands handled)
  told : ∀ n result, (n, result) ∈ w.crowd.told → Told w.errands handled n result

variable {w : Office} {handled : List Arrival}

theorem Sound.lawful (sound : w.Sound) (handled : List Arrival) :
    (terms w.errands handled).Lawful w.session.table := by
  rintro target handler n r ⟨a, member, otherwise, goes⟩ found finds
  have inside : n < w.crowd.race.callers.length := by
    rw [sound.crowd.race.numbered]
    exact (List.getElem?_eq_some_iff.mp found).1
  obtain ⟨errand, number, comes⟩ := sound.comes n _ (List.getElem?_eq_getElem inside)
  have own : r.key = errand.key number := by
    have there := comes.key
    have found : w.session.table.requests[n]? = some r := found
    rw [Table.keys, List.getElem?_map, found] at there
    exact Option.some.inj there
  refine serves_of_destination goes (own ▸ finds) ?_ ?_
  · show (w.errands[n]?).map _ = _
    rw [comes.there]
    rfl
  · intro failure foreign _
    refine ⟨errand, number, comes.there, foreign.mono ?_⟩
    exact fun other found => (List.mem_singleton.mp found) ▸ member

theorem Fair.told_of_awaited (fair : w.Fair handled) {n : Nat} {r : Request}
    (awaited : w.crowd.race.awaited? n = some r) (single : r.streaming = false)
    {result : Except Failure Slot}
    (heard : w.session.outcome? n = some result ∨
      ∃ failure, result = .error failure ∧ failure.isInternal = false) :
    Told w.errands handled n result := by
  obtain ⟨_, _, _, found⟩ := Race.awaited?_eq_some_iff.mp awaited
  obtain ⟨brief, there, keeps⟩ := fair.race.holds n r found
  obtain ⟨errand, number, come, rfl⟩ := brief?_terms there
  cases errand with
  | stream feed => cases single.symm.trans keeps.streaming
  | call question =>
    refine ⟨question, number, come, ?_⟩
    rcases heard with outcome | ⟨failure, rfl, calm⟩
    · have outcome : r.outcome = some result := by
        rw [Session.outcome?, found] at outcome
        exact outcome
      cases result with
      | ok slot =>
        obtain ⟨kind, filled⟩ := keeps.ended slot outcome
        exact question.replyOf_of_filled kind filled
      | error failure =>
        intro internal
        obtain ⟨errand, other, also, foreign⟩ := keeps.failed failure outcome internal
        cases come.symm.trans also
        exact foreign
    · intro internal
      cases calm.symm.trans internal

/-- What is ready for a call is the outcome of its request, or no internal failure. -/
theorem Fair.of_polled? (fair : w.Fair handled) {n : Nat} {late : Bool} {branch : Branch}
    {result : Except Failure Slot} (ready : w.session.polled? n late branch = some result) :
    w.session.outcome? n = some result ∨
      ∃ failure, result = .error failure ∧ failure.isInternal = false := by
  cases branch with
  | outcome => exact Or.inl ready
  | down =>
    obtain ⟨_, same⟩ := Option.ite_none_right_eq_some.mp ready
    exact Or.inr ⟨_, (Option.some.inj same).symm, fair.race.sober.closedFailure⟩
  | deadline =>
    obtain ⟨_, same⟩ := Option.ite_none_right_eq_some.mp ready
    exact Or.inr ⟨.timeout, (Option.some.inj same).symm, rfl⟩

theorem Fair.told_poll (fair : w.Fair handled) (n : Nat) (late : Bool) :
    ∀ m result, (m, result) ∈ (w.crowd.poll n late).told → Told w.errands handled m result := by
  intro m result member
  rcases w.crowd.poll_cases n late with ⟨_, same⟩ | ⟨r, own, awaited, single, ready, same⟩ <;>
    rw [same] at member
  · exact fair.told m result member
  · rcases List.mem_append.mp member with before | now
    · exact fair.told m result before
    · obtain ⟨rfl, rfl⟩ := Prod.mk.inj (List.mem_singleton.mp now)
      exact fair.told_of_awaited awaited single (fair.of_polled? ready)

theorem Told.extend {errands later : List (Errand × Int)} {handled more : List Arrival} {n : Nat}
    {result : Except Failure Slot} (told : Told errands handled n result) (kept : errands <+: later)
    (within : handled ⊆ more) : Told later more n result := by
  obtain ⟨question, number, found, allowed⟩ := told
  obtain ⟨others, rfl⟩ := kept
  refine ⟨question, number,
    (List.getElem?_append_left (List.getElem?_eq_some_iff.mp found).1).trans found, ?_⟩
  cases result with
  | ok slot => exact allowed
  | error failure => exact fun internal => (allowed internal).mono within

theorem Fair.mono {more : List Arrival} (fair : w.Fair handled) (within : handled ⊆ more) :
    w.Fair more :=
  ⟨fair.sound, fair.race.extend (extends_terms List.prefix_rfl within),
    fun n result member => (fair.told n result member).extend List.prefix_rfl within⟩

theorem arrival?_of_taken (idle : w.crowd.race.loop = .serving .idle)
    (up : w.session.shutdown = false) {link : Link} {payload : Bytes}
    (taken : w.session.link.take = (link, some (.ok payload)))
    {a : Arrival} (read : Arrival.read w.session.offset payload = .ok a) :
    w.arrival? .fetch = some a := by
  unfold arrival?
  simp only [idle, Task.idle, up, taken, read]
  rfl

/-- The loop takes a message or finds the end, as everybody has agreed. -/
theorem Fair.fetch (fair : w.Fair handled)
    (within : ∀ a, w.arrival? .fetch = some a → a ∈ handled) :
    (w.step .fetch).crowd.race.Fair (terms w.errands handled) := by
  have linked : ∀ {link result}, w.session.link.take = (link, result) →
      (w.setLink link).crowd.race.Fair (terms w.errands handled) := by
    intro link result taken
    refine fair.race.link fun failure raised => Or.inl ?_
    obtain ⟨arrived, same⟩ := w.session.link.take_fst
    rw [taken] at same
    rw [show link = { w.session.link with arrived } from same] at raised
    exact raised
  rcases w.fetch_cases with same | ⟨idle, ⟨_, same⟩ | ⟨_, link, failure, taken, same⟩ |
    ⟨up, link, payload, taken, ⟨e, _, same⟩ | ⟨a, read, same⟩⟩⟩ <;> rw [step, same]
  · exact fair.race
  · exact fair.race.lose rfl
  · refine (linked taken).lose ?_
    obtain ⟨rfl, rfl | raised⟩ := Link.take_error taken
    · rfl
    · exact fair.race.sober.fault failure raised
  · exact (linked taken).lose rfl
  · refine (linked taken).receive spares fun target handler otherwise goes => ?_
    exact ⟨a, within a (arrival?_of_taken idle up taken read), otherwise, goes⟩

theorem fetch_keeps (w : Office) :
    w.fetch.errands = w.errands ∧ w.fetch.crowd.told = w.crowd.told := by
  rcases w.fetch_cases with same | ⟨_, ⟨_, same⟩ | ⟨_, _, _, _, same⟩ |
    ⟨_, _, _, _, ⟨_, _, same⟩ | ⟨_, _, same⟩⟩⟩ <;> rw [same] <;> exact ⟨rfl, rfl⟩

/-- Somebody comes, with nothing gathered yet. -/
theorem Fair.come (fair : w.Fair handled) (errand : Errand) (number : Int) :
    (w.step (.come errand number)).crowd.race.Fair
        (terms (w.step (.come errand number)).errands handled) ∧
      (w.step (.come errand number)).crowd.told = w.crowd.told := by
  simp only [step]
  split
  · split
    · refine ⟨(fair.race.extend (extends_terms (List.prefix_append _ _) (List.Subset.refl _))).ask
        ?_, rfl⟩
      have last : w.session.table.requests.length = w.errands.length :=
        fair.sound.crowd.race.numbered.symm.trans fair.sound.numbered.symm
      show ((w.errands ++ [(errand, number)])[w.session.table.requests.length]?).map _ = _
      rw [last, List.getElem?_concat_length]
      rfl
    · exact ⟨fair.race, rfl⟩
  · exact ⟨fair.race, rfl⟩

theorem Fair.post (fair : w.Fair handled) (letter : Letter) :
    (w.post letter).crowd.race.Fair (terms (w.post letter).errands handled) ∧
      (w.post letter).crowd.told = w.crowd.told := by
  rcases w.post_cases letter with same | ⟨_, same⟩ <;> rw [same]
  · exact ⟨fair.race, rfl⟩
  · exact ⟨fair.race.link fun failure raised => Or.inl (fault_send w.session _ ▸ raised), rfl⟩

theorem Fair.step_of_kept (fair : w.Fair handled) (move : Move)
    (within : ∀ a, w.arrival? move = some a → a ∈ handled) :
    (w.step move).crowd.race.Fair (terms (w.step move).errands handled) ∧
      ∀ n result, (n, result) ∈ (w.step move).crowd.told → Told w.errands handled n result := by
  have silent : ∀ {after : Office}, after.crowd.race.Fair (terms after.errands handled) →
      after.crowd.told = w.crowd.told → after.crowd.race.Fair (terms after.errands handled) ∧
        ∀ n result, (n, result) ∈ after.crowd.told → Told w.errands handled n result :=
    fun race same => ⟨race, fun n result member => fair.told n result (same ▸ member)⟩
  have lawful := fair.sound.lawful handled
  have sound := fair.sound.crowd.race
  have polls : ∀ n late, (w.crowd.poll n late).race.Fair (terms w.errands handled) ∧
      ∀ m result, (m, result) ∈ (w.crowd.poll n late).told → Told w.errands handled m result := by
    intro n late
    refine ⟨?_, fair.told_poll n late⟩
    rcases w.crowd.race_poll n late with same | same <;> rw [same]
    · exact fair.race
    · exact fair.race.giveUp n
  cases move with
  | come errand number => exact silent (fair.come errand number).1 (fair.come errand number).2
  | turn n => exact silent (fair.race.turn sound spares n) rfl
  | giveUp n => exact silent (fair.race.giveUp n) rfl
  | look n => exact polls n false
  | expire n => exact polls n true
  | draw question => exact silent (fair.race.aside (Crowd.aside_keyFor _ question)) rfl
  | enter => exact silent (fair.race.aside (Crowd.aside_enter _)) rfl
  | leave => exact silent (fair.race.aside (Crowd.aside_leave _)) rfl
  | letGo => exact silent (fair.race.aside (Crowd.aside_letGo _)) rfl
  | switch kind =>
    simp only [step]
    split
    · exact silent (fair.post _).1 (fair.post _).2
    · exact silent fair.race rfl
  | fetch =>
    obtain ⟨still, told⟩ := w.fetch_keeps
    exact silent (still.symm ▸ fair.fetch within) told
  | proceed => exact silent (fair.race.proceed sound lawful spares) rfl
  | read reading => exact silent (fair.race.link fun _ => Link.fault_read) rfl
  | write stroke => exact silent (fair.race.link fun _ => Link.fault_write) rfl
  | close => exact silent (fair.race.rest rfl fair.race.fits
    (fair.race.sober.congr rfl rfl) fair.race.loop) rfl

/-- Whatever is done next, everybody keeps to what was agreed on. -/
theorem Fair.step (fair : w.Fair handled) (move : Move) :
    (w.step move).Fair (handled ++ (w.arrival? move).toList) := by
  have grown : w.Fair (handled ++ (w.arrival? move).toList) :=
    fair.mono (List.subset_append_left _ _)
  obtain ⟨race, told⟩ := grown.step_of_kept move fun a taken =>
    List.mem_append_right _ (Option.mem_toList.mpr taken)
  exact ⟨fair.sound.step move, race, fun n result member =>
    (told n result member).extend (w.errands_step move) (List.Subset.refl _)⟩

end Office

end MarketLink.Session
