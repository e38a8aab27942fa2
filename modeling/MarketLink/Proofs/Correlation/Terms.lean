import MarketLink.Proofs.Correlation.Filing
import MarketLink.Proofs.Correlation.Reply

set_option autoImplicit false

namespace MarketLink.Correlation

/-- Whatever is to be answered has been: a list may be empty, and streams hold no answer. -/
def Slot.isFilled : Slot → Bool
  | .currentTime time => time.isSome
  | .managedAccounts accounts => accounts.isSome
  | .nextValidId id => id.isSome
  | .historicalBars bars => bars.isSome
  | .contractDetails _ | .marketData _ | .marketDepth _ => true

/-- The keys whose requests a reply may find. -/
def Target.Finds : Target → Key → Prop
  | .id wanted, key => key.id? = some wanted
  | .code wanted, key => key.code? = some wanted

/-- What a request is made for. -/
structure Brief where
  kind : String
  streaming : Bool

/-- What is agreed on about the requests of a table. -/
structure Terms where
  brief? : Nat → Option Brief
  mayFail : Nat → Failure → Prop
  deals : Target → Handler → Prop

namespace Terms

variable {p q : Terms} {t after : Table} {n : Nat} {r : Request} {brief : Brief}

/-- What a handler makes of the slot of a request suits the request. Behind a reply that finds its
request by the code comes no other one. -/
structure Suits (p : Terms) (target : Target) (n : Nat) (slot : Slot) (handled : Handled) :
    Prop where
  kind : handled.slot.kind = slot.kind
  filled : handled.verdict = .ok true → handled.slot.isFilled = true
  failed : ∀ failure, handled.verdict = .error failure → p.mayFail n failure
  last : ∀ code, target = .code code → handled.verdict = .ok true

/-- A handler suits a request, whatever the request has gathered. -/
def Serves (p : Terms) (target : Target) (n : Nat) (handler : Handler) : Prop :=
  ∃ brief, p.brief? n = some brief ∧
    ∀ slot, slot.kind = brief.kind → p.Suits target n slot (handler slot)

/-- The replies that may come suit the requests that they may find. -/
def Lawful (p : Terms) (t : Table) : Prop :=
  ∀ target handler n r, p.deals target handler → t.request? n = some r → target.Finds r.key →
    p.Serves target n handler

/-- A request that keeps to what it was made for. -/
structure Keeps (p : Terms) (n : Nat) (r : Request) (brief : Brief) : Prop where
  streaming : r.streaming = brief.streaming
  running : r.outcome = none → ∃ slot, r.slot = some slot ∧ slot.kind = brief.kind
  ended : ∀ slot, r.outcome = some (.ok slot) → slot.kind = brief.kind ∧ slot.isFilled = true
  failed : ∀ failure, r.outcome = some (.error failure) → p.mayFail n failure

/-- All requests of a table keep to what they were made for. -/
def Holds (p : Terms) (t : Table) : Prop :=
  ∀ n r, t.request? n = some r → ∃ brief, p.brief? n = some brief ∧ p.Keeps n r brief

/-- A completion that may be carried out: without a failure it comes behind the last reply. -/
def Backs (p : Terms) (t : Table) (ending : Ending) : Prop :=
  ending.1 < t.requests.length ∧
    match ending.2 with
    | some failure => p.mayFail ending.1 failure
    | none => ∀ r slot, t.request? ending.1 = some r → r.Holds slot → slot.isFilled = true

def Fits (p : Terms) (t : Table) : Task → Prop
  | .seek target handler => p.deals target handler
  | .serve target n handler => n < t.requests.length ∧ p.Serves target n handler
  | .withdraw _ endings | .settle endings => ∀ ending ∈ endings, p.Backs t ending
  | .evict _ failure | .clear failure => ∀ n, p.mayFail n failure

/-- Requests may be added, and more may fail or come. -/
structure Extends (p q : Terms) : Prop where
  brief : ∀ n brief, p.brief? n = some brief → q.brief? n = some brief
  mayFail : ∀ n failure, p.mayFail n failure → q.mayFail n failure
  deals : ∀ target handler, p.deals target handler → q.deals target handler

theorem Serves.extend {target : Target} {handler : Handler} (serves : p.Serves target n handler)
    (grows : p.Extends q) : q.Serves target n handler := by
  obtain ⟨brief, there, suits⟩ := serves
  refine ⟨brief, grows.brief n brief there, fun slot same => ?_⟩
  have suits := suits slot same
  exact ⟨suits.kind, suits.filled,
    fun failure fails => grows.mayFail n failure (suits.failed failure fails), suits.last⟩

theorem Keeps.extend (keeps : p.Keeps n r brief) (grows : p.Extends q) : q.Keeps n r brief :=
  ⟨keeps.streaming, keeps.running, keeps.ended,
    fun failure fails => grows.mayFail n failure (keeps.failed failure fails)⟩

theorem Holds.extend (holds : p.Holds t) (grows : p.Extends q) : q.Holds t := by
  intro n r found
  obtain ⟨brief, there, keeps⟩ := holds n r found
  exact ⟨brief, grows.brief n brief there, keeps.extend grows⟩

theorem Backs.extend {ending : Ending} (backs : p.Backs t ending) (grows : p.Extends q) :
    q.Backs t ending := by
  obtain ⟨n, _ | failure⟩ := ending
  · exact backs
  · exact ⟨backs.1, grows.mayFail n failure backs.2⟩

theorem Fits.extend {task : Task} (fits : p.Fits t task) (grows : p.Extends q) : q.Fits t task := by
  cases task with
  | seek target handler => exact grows.deals target handler fits
  | serve target n handler => exact ⟨fits.1, fits.2.extend grows⟩
  | withdraw n endings | settle endings =>
    exact fun ending member => (fits ending member).extend grows
  | evict _ failure | clear failure => exact fun n => grows.mayFail n failure (fits n)

/-- Requests that are open were open before, with the same slot; others may have been added. -/
structure Ebbs (t after : Table) : Prop where
  length : t.requests.length ≤ after.requests.length
  running : ∀ n r slot, n < t.requests.length → after.request? n = some r → r.Holds slot →
    ∃ old, t.request? n = some old ∧ old.Holds slot

theorem ebbs_of_requests (same : after.requests = t.requests) : Ebbs t after := by
  refine ⟨Nat.le_of_eq (by rw [same]), ?_⟩
  intro n r slot _ found held
  refine ⟨r, ?_, held⟩
  rw [Table.request?, ← same]
  exact found

theorem ebbs_create (t : Table) (r : Request) : Ebbs t (t.create r).1 := by
  refine ⟨?_, ?_⟩
  · show _ ≤ (t.requests ++ [r]).length
    simp
  · intro n later slot inside found held
    refine ⟨later, ?_, held⟩
    rw [← found]
    exact (List.getElem?_append_left inside).symm

theorem ebbs_complete (t : Table) (n : Nat) (failure : Option Failure) :
    Ebbs t (t.complete n failure).1 := by
  refine ⟨Nat.le_of_eq (t.length_complete n failure).symm, ?_⟩
  intro m r slot inside found held
  by_cases own : m = n
  · subst own
    have ended := Table.ended_complete inside failure
    rw [Table.outcome?, found, Option.bind_some, held.2] at ended
    cases ended
  · rw [Table.request?_complete_of_ne t own failure] at found
    exact ⟨r, found, held⟩

theorem Backs.ebb {ending : Ending} (backs : p.Backs t ending) (ebbs : Ebbs t after) :
    p.Backs after ending := by
  obtain ⟨inside, allowed⟩ := backs
  refine ⟨Nat.lt_of_lt_of_le inside ebbs.length, ?_⟩
  obtain ⟨n, _ | failure⟩ := ending
  · intro r slot found held
    obtain ⟨old, before, also⟩ := ebbs.running n r slot inside found held
    exact allowed old slot before also
  · exact allowed

theorem Fits.ebb {task : Task} (fits : p.Fits t task) (ebbs : Ebbs t after) :
    p.Fits after task := by
  cases task with
  | seek _ _ | evict _ _ | clear _ => exact fits
  | serve _ _ _ => exact ⟨Nat.lt_of_lt_of_le fits.1 ebbs.length, fits.2⟩
  | withdraw n endings | settle endings => exact fun ending member => (fits ending member).ebb ebbs

theorem Holds.of_requests (holds : p.Holds t) (same : after.requests = t.requests) :
    p.Holds after := by
  intro n r found
  rw [Table.request?, same] at found
  exact holds n r found

/-- A request that keeps to its brief has its slot until it ends. -/
theorem Keeps.holds (keeps : p.Keeps n r brief) (running : r.outcome = none) :
    ∃ slot, r.Holds slot ∧ slot.kind = brief.kind := by
  obtain ⟨slot, held, kind⟩ := keeps.running running
  exact ⟨slot, ⟨held, running⟩, kind⟩

theorem Keeps.complete (keeps : p.Keeps n r brief) {failure : Option Failure}
    (failed : ∀ own, failure = some own → p.mayFail n own)
    (filled : failure = none → ∀ slot, r.Holds slot → slot.isFilled = true) :
    p.Keeps n (r.complete failure).1 brief := by
  cases outcome : r.outcome with
  | some _ => rwa [r.complete_of_isDone failure (by rw [Request.isDone, outcome]; rfl)]
  | none =>
    obtain ⟨slot, held, kind⟩ := keeps.holds outcome
    have completed : (r.complete failure).1 =
        { r with slot := none, outcome := some (Request.outcomeOf failure (some slot)) } := by
      simp [Request.complete, Request.isDone, outcome, held.1]
    rw [completed]
    refine ⟨keeps.streaming, ?_, ?_, ?_⟩
    · intro pending
      cases pending
    · intro result ended
      cases failure with
      | some _ => cases ended
      | none =>
        cases ended
        exact ⟨kind, filled rfl slot held⟩
    · intro own ended
      cases failure with
      | some _ =>
        cases ended
        exact failed own rfl
      | none => cases ended

theorem Keeps.handle (keeps : p.Keeps n r brief) {target : Target} {handler : Handler}
    (suits : ∀ slot, slot.kind = brief.kind → p.Suits target n slot (handler slot)) :
    p.Keeps n (r.handle handler).1 brief := by
  cases outcome : r.outcome with
  | some _ => rwa [r.handle_of_isDone handler (by rw [Request.isDone, outcome]; rfl)]
  | none =>
    obtain ⟨slot, held, kind⟩ := keeps.holds outcome
    rw [Request.handle_of_holds held]
    refine ⟨keeps.streaming, fun _ => ⟨_, rfl, (suits slot kind).kind.trans kind⟩, ?_, ?_⟩
    · intro result ended
      cases outcome.symm.trans ended
    · intro failure ended
      cases outcome.symm.trans ended

theorem Holds.complete (holds : p.Holds t) {failure : Option Failure}
    (backs : p.Backs t (n, failure)) :
    p.Holds (t.complete n failure).1 := by
  intro m later found
  rw [Table.complete_fst, Table.request?_update] at found
  split at found
  · rename_i own
    subst own
    obtain ⟨r, before, rfl⟩ := Option.map_eq_some_iff.mp found
    obtain ⟨brief, there, keeps⟩ := holds n r before
    refine ⟨brief, there, keeps.complete ?_ ?_⟩
    · rintro own rfl
      exact backs.2
    · rintro rfl slot held
      exact backs.2 r slot before held
  · exact holds m later found

theorem Holds.handle (holds : p.Holds t) {target : Target} {handler : Handler}
    (serves : p.Serves target n handler) : p.Holds (t.handle n handler).1 := by
  intro m later found
  rw [Table.handle_fst, Table.request?_update] at found
  split at found
  · rename_i own
    subst own
    obtain ⟨r, before, rfl⟩ := Option.map_eq_some_iff.mp found
    obtain ⟨brief, there, keeps⟩ := holds n r before
    obtain ⟨also, same, suits⟩ := serves
    cases there.symm.trans same
    exact ⟨brief, there, keeps.handle suits⟩
  · exact holds m later found

/-- What comes of showing its slot to a handler that suits a request: it was done, or the verdict is
that of the handler, and what was made of the slot is there. -/
theorem Holds.handle_cases (holds : p.Holds t) (inside : n < t.requests.length) {target : Target}
    {handler : Handler} (serves : p.Serves target n handler) :
    ((t.handle n handler).2 = none ∧
        ∀ r slot, (t.handle n handler).1.request? n = some r → ¬ r.Holds slot) ∨
      ∃ slot, p.Suits target n slot (handler slot) ∧
        (t.handle n handler).2 = some (handler slot).verdict ∧
        ∀ r held, (t.handle n handler).1.request? n = some r → r.Holds held →
          held = (handler slot).slot := by
  have found : t.request? n = some t.requests[n] := List.getElem?_eq_getElem inside
  generalize t.requests[n] = r at found
  obtain ⟨brief, there, keeps⟩ := holds n r found
  obtain ⟨also, same, suits⟩ := serves
  cases there.symm.trans same
  have after : (t.handle n handler).1.request? n = some (r.handle handler).1 := by
    rw [Table.handle_fst, Table.request?_update, if_pos rfl, found, Option.map_some]
  rw [Table.handle_snd, found, Option.bind_some, after]
  cases outcome : r.outcome with
  | some result =>
    rw [r.handle_of_isDone handler (by rw [Request.isDone, outcome]; rfl)]
    refine Or.inl ⟨rfl, ?_⟩
    intro later slot same held
    cases same
    cases outcome.symm.trans held.2
  | none =>
    obtain ⟨slot, held, kind⟩ := keeps.holds outcome
    rw [Request.handle_of_holds held]
    refine Or.inr ⟨slot, suits slot kind, rfl, ?_⟩
    intro later held same now
    cases same
    exact (Option.some.inj now.1).symm

theorem fits_lastEnding {target : Target} (inside : n < t.requests.length)
    (filled : ∀ code, target = .code code → ∀ r slot, t.request? n = some r → r.Holds slot →
      slot.isFilled = true) : ∀ ending ∈ target.lastEnding n, p.Backs t ending := by
  intro ending member
  cases target with
  | id _ => cases member
  | code code =>
    cases List.mem_singleton.mp member
    exact ⟨inside, filled code rfl⟩

theorem Holds.serve (holds : p.Holds t) (inside : n < t.requests.length) {target : Target}
    {handler : Handler} (serves : p.Serves target n handler) :
    p.Fits (t.handle n handler).1 (Task.ofVerdict target n (t.handle n handler).2) := by
  have still : n < (t.handle n handler).1.requests.length := by
    rw [Table.length_handle]
    exact inside
  rcases holds.handle_cases inside serves with ⟨none, done⟩ | ⟨slot, suits, verdict, made⟩
  · rw [none]
    exact fits_lastEnding still fun _ _ r slot found held => absurd held (done r slot found)
  · rw [verdict]
    have filled : (handler slot).verdict = .ok true → ∀ r held,
        (t.handle n handler).1.request? n = some r → r.Holds held → held.isFilled = true := by
      intro last r held found holds
      rw [made r held found holds]
      exact suits.filled last
    have behind : ∀ ending ∈ target.lastEnding n, p.Backs (t.handle n handler).1 ending :=
      fits_lastEnding still fun code found => filled (suits.last code found)
    cases result : (handler slot).verdict with
    | error failure =>
      intro ending member
      rcases List.mem_cons.mp member with rfl | later
      · exact ⟨still, suits.failed failure result⟩
      · exact behind ending later
    | ok last =>
      cases last with
      | false => exact behind
      | true =>
        intro ending member
        rcases List.mem_cons.mp member with rfl | later
        · exact ⟨still, filled result⟩
        · exact behind ending later

/-- Whatever is left to do and may be done, its next step leaves all requests to what they were made
for, and what is left then may be done. -/
theorem Holds.advance (holds : p.Holds t) (lawful : p.Lawful t) (filed : t.Filed)
    (created : ∀ n ∈ t.pending, n < t.requests.length) {task : Task} (fits : p.Fits t task) :
    p.Holds (task.advance t).1 ∧ p.Fits (task.advance t).1 (task.advance t).2.1 := by
  have idle : ∀ t, p.Fits t .idle := fun t ending member => absurd member List.not_mem_nil
  cases task with
  | seek target handler =>
    have serves : ∀ n, (∃ r, t.request? n = some r ∧ target.Finds r.key) →
        n < t.requests.length ∧ p.Serves target n handler := by
      rintro n ⟨r, found, finds⟩
      exact ⟨(List.getElem?_eq_some_iff.mp found).1, lawful target handler n r fits found finds⟩
    rcases t.find_cases target with found | ⟨id, n, rfl, pending, found⟩ |
      ⟨code, n, rest, rfl, queue, found⟩ <;> simp only [Task.advance, found]
    · exact ⟨holds, idle t⟩
    · exact ⟨holds, serves n (Option.bind_eq_some_iff.mp (filed.ofId id n pending))⟩
    · have queued : n ∈ t.queue code := by
        rw [queue]
        exact List.mem_cons_self
      exact ⟨holds.of_requests rfl,
        serves n (Option.bind_eq_some_iff.mp (filed.ofCode code n queued))⟩
  | serve target n handler => exact ⟨holds.handle fits.2, holds.serve fits.1 fits.2⟩
  | evict id failure =>
    simp only [Task.advance, Table.takeId]
    cases pending : t.pendingId? id with
    | none => exact ⟨holds.of_requests rfl, idle _⟩
    | some n =>
      refine ⟨holds.of_requests rfl, ?_⟩
      intro ending member
      cases List.mem_singleton.mp member
      obtain ⟨r, found, _⟩ := Option.bind_eq_some_iff.mp (filed.ofId id n pending)
      exact ⟨(List.getElem?_eq_some_iff.mp found).1, fits n⟩
  | withdraw n endings =>
    have same := t.requests_unregister n
    exact ⟨holds.of_requests same, fun ending member =>
      (fits ending member).ebb (ebbs_of_requests same)⟩
  | clear failure =>
    refine ⟨holds.of_requests rfl, ?_⟩
    intro ending member
    obtain ⟨n, taken, rfl⟩ := List.mem_map.mp member
    exact ⟨created n taken, fits n⟩
  | settle endings =>
    cases endings with
    | nil => exact ⟨holds, idle t⟩
    | cons ending rest =>
      refine ⟨holds.complete (fits ending List.mem_cons_self), fun later member => ?_⟩
      exact (fits later (List.mem_cons_of_mem _ member)).ebb (ebbs_complete t _ _)

/-- A request that is added keeps to its brief while nothing has been done to it. -/
theorem Holds.create (holds : p.Holds t) {key : Key} {slot : Slot} {streaming : Bool}
    (there : p.brief? t.requests.length = some ⟨slot.kind, streaming⟩) :
    p.Holds (t.create (Request.new key slot streaming)).1 := by
  intro n r found
  rcases getElem?_append_singleton_cases found with before | ⟨rfl, rfl⟩
  · exact holds n r before
  · exact ⟨_, there, rfl, fun _ => ⟨slot, rfl, rfl⟩, nofun, nofun⟩

end Terms

end MarketLink.Correlation
