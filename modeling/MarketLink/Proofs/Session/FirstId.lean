import Mathlib
import MarketLink.Session.Opening

set_option autoImplicit false

namespace MarketLink.Message

open Wire

def rawCode? (offset : Int) (payload : Bytes) : Option Int :=
  (readCode (Cursor.start payload offset)).1.toOption

def idBehindCode (payload : Bytes) : Except WireError Int :=
  (Message.nextValidId (readCode (Cursor.start payload 0)).2).1.map usableId

def isPlainId (payload : Bytes) : Bool := rawCode? 0 payload == some Incoming.nextValidId.code

def isBiasedId (payload : Bytes) : Bool :=
  rawCode? 0 payload == some (Incoming.nextValidId.code + alternateBias)

/-- The first plain announcement among payloads, with the payloads behind it. -/
def firstPlainId? : List Bytes → Option (Bytes × List Bytes)
  | [] => none
  | payload :: rest => if isPlainId payload then some (payload, rest) else firstPlainId? rest

/-- No announcement in the alternate encoding stands in front of the first plain one. -/
def NoBiasedIdFirst (payloads : List Bytes) : Prop :=
  ∀ payload ∈ payloads.takeWhile fun payload => !isPlainId payload, isBiasedId payload = false

/-- With the bias taken off, the code of an announcement stands for the two codes of announcements
and no others. -/
theorem splitCode_eq_nextValidId_iff (raw : Int) :
    (splitCode raw).1 = Incoming.nextValidId.code ↔
      raw = Incoming.nextValidId.code ∨ raw = Incoming.nextValidId.code + alternateBias := by
  unfold splitCode alternateBias
  dsimp only [Incoming.code]
  split <;> dsimp only <;> omega

section Payloads

variable {payload : Bytes} {rest : List Bytes}

theorem firstPlainId?_cons_of_plain (plain : isPlainId payload = true) :
    firstPlainId? (payload :: rest) = some (payload, rest) := if_pos plain

theorem firstPlainId?_cons_of_other (other : isPlainId payload = false) :
    firstPlainId? (payload :: rest) = firstPlainId? rest :=
  if_neg (ne_true_of_eq_false other)

theorem length_lt_of_firstPlainId? {payloads : List Bytes}
    (found : firstPlainId? payloads = some (payload, rest)) : rest.length < payloads.length := by
  induction payloads with
  | nil => cases found
  | cons first more ih =>
    rw [List.length_cons]
    cases plain : isPlainId first with
    | true =>
      rw [firstPlainId?_cons_of_plain plain] at found
      cases found
      omega
    | false =>
      rw [firstPlainId?_cons_of_other plain] at found
      have less := ih found
      omega

theorem noBiasedIdFirst_cons_of_plain (plain : isPlainId payload = true) :
    NoBiasedIdFirst (payload :: rest) := by
  unfold NoBiasedIdFirst
  rw [List.takeWhile_cons_of_neg (by simp [plain])]
  exact fun _ member => absurd member List.not_mem_nil

theorem noBiasedIdFirst_cons_iff (other : isPlainId payload = false) :
    NoBiasedIdFirst (payload :: rest) ↔ isBiasedId payload = false ∧ NoBiasedIdFirst rest := by
  unfold NoBiasedIdFirst
  rw [List.takeWhile_cons_of_pos (by simp [other])]
  exact List.forall_mem_cons

end Payloads

end MarketLink.Message

namespace MarketLink.Session

open Correlation Message Wire

namespace Attempt

section Hear

variable {a : Attempt} {settings : Settings} {clientId version : Int} {timeText : String}
  {payload : Bytes}

/-- An id is read: it makes the session ready, and a fault in it ends the attempt. -/
def announce (a : Attempt) (version : Int) (timeText : String) (payload : Bytes) : Attempt :=
  match idBehindCode payload with
  | .ok id => a.decide (.ready version timeText id)
  | .error e => a.fail (.protocol e)

theorem hearStart_of_announcement (announced : isPlainId payload = true ∨
    isBiasedId payload = true) :
    a.hearStart version timeText payload = a.announce version timeText payload := by
  have code : ∃ raw, rawCode? 0 payload = some raw ∧
      (splitCode raw).1 = Incoming.nextValidId.code := by
    rcases announced with plain | biased
    · exact ⟨_, beq_iff_eq.mp plain, (splitCode_eq_nextValidId_iff _).mpr (Or.inl rfl)⟩
    · exact ⟨_, beq_iff_eq.mp biased, (splitCode_eq_nextValidId_iff _).mpr (Or.inr rfl)⟩
  obtain ⟨raw, found, bare⟩ := code
  unfold hearStart announce idBehindCode
  unfold rawCode? at found
  rcases read : readCode (Cursor.start payload 0) with ⟨e | sent, cursor⟩ <;> rw [read] at found
  · cases found
  · cases found
    dsimp only
    rw [if_pos bare]
    cases (Message.nextValidId cursor).1 <;> rfl

theorem hearStart_of_other (readable : (rawCode? 0 payload).isSome = true)
    (plain : isPlainId payload = false) (biased : isBiasedId payload = false) :
    a.hearStart version timeText payload = a := by
  unfold isPlainId at plain
  unfold isBiasedId at biased
  unfold rawCode? at readable plain biased
  unfold hearStart
  rcases read : readCode (Cursor.start payload 0) with ⟨e | sent, cursor⟩ <;>
    rw [read] at readable plain biased
  · cases readable
  · have apart : ¬ (splitCode sent).1 = Incoming.nextValidId.code := by
      rw [splitCode_eq_nextValidId_iff, not_or]
      exact ⟨fun same => beq_eq_false_iff_ne.mp plain (congrArg some same),
        fun same => beq_eq_false_iff_ne.mp biased (congrArg some same)⟩
    dsimp only
    rw [if_neg apart]

end Hear

def behind (a : Attempt) (left : List Bytes) : Attempt :=
  { a with link := { a.link with arrived := left } }

section HearAll

variable {a : Attempt} {settings : Settings} {clientId version : Int} {timeText : String}
  {payload : Bytes} {rest : List Bytes}

theorem hearAll_of_decided (decided : a.verdict.isSome = true) :
    a.hearAll settings clientId = a := by
  obtain ⟨verdict, same⟩ := Option.isSome_iff_exists.mp decided
  unfold hearAll
  rw [same]

theorem hearAll_of_arrived (undecided : a.verdict = none) (hears : a.phase.isDue = false)
    (taking : a.link.gate.closing = false) (arrived : a.link.arrived = payload :: rest) :
    a.hearAll settings clientId = ((a.behind rest).hear payload).hearAll settings clientId := by
  have taken : a.link.take = ({ a.link with arrived := rest }, some (.ok payload)) := by
    unfold Link.take
    rw [taking, arrived]
    rfl
  conv_lhs => unfold hearAll
  rw [undecided]
  dsimp only
  rw [dif_neg (ne_true_of_eq_false hears)]
  split
  · rename_i none
    rw [taken] at none
    cases none
  · rename_i fault
    rw [taken] at fault
    cases fault
  · rename_i link found same
    rw [taken] at same
    cases same
    rw [behind, undecided]

theorem verdict_announce :
    (a.announce version timeText payload).verdict =
      some (match idBehindCode payload with
        | .ok id => .ready version timeText id
        | .error e => .failed (.protocol e)) := by
  unfold announce
  cases idBehindCode payload <;> rfl

theorem arrived_announce :
    (a.announce version timeText payload).link.arrived = a.link.arrived := by
  unfold announce
  split <;> rfl

theorem hearAll_of_announcement (waiting : a.phase = .starting version timeText)
    (undecided : a.verdict = none) (taking : a.link.gate.closing = false)
    (arrived : a.link.arrived = payload :: rest)
    (announced : isPlainId payload = true ∨ isBiasedId payload = true) :
    a.hearAll settings clientId = (a.behind rest).announce version timeText payload := by
  have heard : (a.behind rest).hear payload =
      (a.behind rest).announce version timeText payload := by
    have phase : (a.behind rest).phase = .starting version timeText := waiting
    rw [hear, phase]
    exact hearStart_of_announcement announced
  rw [hearAll_of_arrived undecided (by rw [waiting]; rfl) taking arrived, heard]
  exact hearAll_of_decided (by rw [verdict_announce, Option.isSome_some])

theorem hearAll_of_other (waiting : a.phase = .starting version timeText)
    (undecided : a.verdict = none) (taking : a.link.gate.closing = false)
    (arrived : a.link.arrived = payload :: rest) (readable : (rawCode? 0 payload).isSome = true)
    (plain : isPlainId payload = false) (biased : isBiasedId payload = false) :
    a.hearAll settings clientId = (a.behind rest).hearAll settings clientId := by
  have phase : (a.behind rest).phase = .starting version timeText := waiting
  rw [hearAll_of_arrived undecided (by rw [waiting]; rfl) taking arrived, hear, phase]
  exact congrArg _ (hearStart_of_other readable plain biased)

/-- Where nothing has come and nothing has failed, an attempt goes on waiting or finds the end. -/
theorem verdict_hearAll_of_nothing (undecided : a.verdict = none) (hears : a.phase.isDue = false)
    (taking : a.link.gate.closing = false) (nothing : a.link.arrived = [])
    (whole : a.link.fault = none) :
    (a.hearAll settings clientId).verdict = none ∨
      (a.hearAll settings clientId).verdict = some (.failed .closed) := by
  have taken : a.link.take =
      (a.link, if a.link.reading && !a.link.shutdown then none else some (.error .closed)) := by
    unfold Link.take
    rw [taking, nothing, whole]
    rfl
  unfold hearAll
  rw [undecided]
  dsimp only
  rw [dif_neg (ne_true_of_eq_false hears)]
  split
  · exact Or.inl undecided
  · rename_i link failure ended
    rw [taken] at ended
    have closed : failure = .closed := by
      split at ended <;> cases ended
      rfl
    exact Or.inr (by rw [closed]; rfl)
  · rename_i link payload found
    rw [taken] at found
    split at found <;> cases found

/-- What an attempt comes to if none but a plain announcement counts: whatever comes before the
first one is passed over unread. -/
def heardPlainly (settings : Settings) (clientId version : Int) (timeText : String) (a : Attempt) :
    Attempt :=
  match firstPlainId? a.link.arrived with
  | some (payload, rest) => (a.behind rest).announce version timeText payload
  | none => (a.behind []).hearAll settings clientId

/-- A message that is passed over makes no difference to what counts. -/
theorem heardPlainly_of_other (arrived : a.link.arrived = payload :: rest)
    (other : isPlainId payload = false) :
    a.heardPlainly settings clientId version timeText =
      (a.behind rest).heardPlainly settings clientId version timeText := by
  have same : firstPlainId? a.link.arrived = firstPlainId? (a.behind rest).link.arrived := by
    rw [arrived, firstPlainId?_cons_of_other other]
    rfl
  unfold heardPlainly
  rw [same]
  rfl

theorem heardPlainly_of_plain (arrived : a.link.arrived = payload :: rest)
    (plain : isPlainId payload = true) :
    a.heardPlainly settings clientId version timeText =
      (a.behind rest).announce version timeText payload := by
  unfold heardPlainly
  rw [arrived, firstPlainId?_cons_of_plain plain]

theorem hearAll_eq_heardPlainly (waiting : a.phase = .starting version timeText)
    (undecided : a.verdict = none) (taking : a.link.gate.closing = false)
    (readable : ∀ payload ∈ a.link.arrived, (rawCode? 0 payload).isSome = true)
    (none : NoBiasedIdFirst a.link.arrived) :
    a.hearAll settings clientId = a.heardPlainly settings clientId version timeText := by
  generalize arrived : a.link.arrived = payloads at readable none
  induction payloads generalizing a with
  | nil =>
    unfold heardPlainly
    rw [arrived]
    exact congrArg (hearAll settings clientId) (by rw [behind, ← arrived])
  | cons payload rest ih =>
    cases plain : isPlainId payload with
    | true =>
      rw [hearAll_of_announcement waiting undecided taking arrived (Or.inl plain),
        heardPlainly_of_plain arrived plain]
    | false =>
      obtain ⟨biased, later⟩ := (noBiasedIdFirst_cons_iff plain).mp none
      obtain ⟨here, there⟩ := List.forall_mem_cons.mp readable
      rw [hearAll_of_other waiting undecided taking arrived here plain biased,
        heardPlainly_of_other arrived plain]
      exact ih (a := a.behind rest) waiting undecided taking rfl there later

/-- An announcement in the alternate encoding that stands in front is read in place of the plain
one. -/
theorem hearAll_ne_heardPlainly_of_biased (waiting : a.phase = .starting version timeText)
    (undecided : a.verdict = none) (taking : a.link.gate.closing = false)
    (whole : a.link.fault = none) (arrived : a.link.arrived = payload :: rest)
    (plain : isPlainId payload = false) (biased : isBiasedId payload = true) :
    a.hearAll settings clientId ≠ a.heardPlainly settings clientId version timeText := by
  rw [hearAll_of_announcement waiting undecided taking arrived (Or.inr biased),
    heardPlainly_of_other arrived plain]
  intro same
  unfold heardPlainly at same
  cases found : firstPlainId? (a.behind rest).link.arrived with
  | some first =>
    obtain ⟨later, left⟩ := first
    rw [found] at same
    have left := congrArg (fun a => a.link.arrived.length) same
    dsimp only at left
    rw [arrived_announce, arrived_announce] at left
    have less : _ < rest.length := length_lt_of_firstPlainId? found
    exact absurd left (Nat.ne_of_gt less)
  | none =>
    rw [found] at same
    have verdicts := congrArg Attempt.verdict same
    dsimp only at verdicts
    have silent : (((a.behind rest).behind []).hearAll settings clientId).verdict = none ∨
        (((a.behind rest).behind []).hearAll settings clientId).verdict = some (.failed .closed) :=
      verdict_hearAll_of_nothing undecided (by rw [behind, behind, waiting]; rfl) taking rfl whole
    rw [← verdicts, verdict_announce] at silent
    split at silent <;> rcases silent with silent | silent <;> cases silent

/-- Only without an announcement in the alternate encoding in front is the first plain one heard. -/
theorem noBiasedIdFirst_of_hearAll_eq (waiting : a.phase = .starting version timeText)
    (undecided : a.verdict = none) (taking : a.link.gate.closing = false)
    (readable : ∀ payload ∈ a.link.arrived, (rawCode? 0 payload).isSome = true)
    (whole : a.link.fault = none)
    (same : a.hearAll settings clientId = a.heardPlainly settings clientId version timeText) :
    NoBiasedIdFirst a.link.arrived := by
  generalize arrived : a.link.arrived = payloads at readable
  induction payloads generalizing a with
  | nil => exact fun _ member => absurd member List.not_mem_nil
  | cons payload rest ih =>
    cases plain : isPlainId payload with
    | true => exact noBiasedIdFirst_cons_of_plain plain
    | false =>
      cases biased : isBiasedId payload with
      | true =>
        exact absurd same
          (hearAll_ne_heardPlainly_of_biased waiting undecided taking whole arrived plain biased)
      | false =>
        obtain ⟨here, there⟩ := List.forall_mem_cons.mp readable
        rw [hearAll_of_other waiting undecided taking arrived here plain biased,
          heardPlainly_of_other arrived plain] at same
        exact (noBiasedIdFirst_cons_iff plain).mpr
          ⟨biased, ih (a := a.behind rest) waiting undecided taking whole same rfl there⟩

end HearAll

end Attempt

section Open

variable {s : Session} {payload : Bytes} {raw : Int}

/-- Of a message in the alternate encoding no more than the code is read. -/
theorem read_of_biased {offset : Int} (code : rawCode? offset payload = some raw)
    (biased : alternateBias < raw) : Arrival.read offset payload = .ok (.unknown raw) := by
  have strange : known? raw = none := by
    unfold known? splitCode
    rw [if_pos biased]
    rfl
  unfold rawCode? at code
  unfold Arrival.read
  rcases read : readCode (Cursor.start payload offset) with ⟨e | sent, cursor⟩ <;> rw [read] at code
  · cases code
  · cases code
    dsimp only
    rw [strange]

/-- The loop takes the message off and reports its code. -/
theorem next?_of_biased (up : s.down = false) (goes : s.shutdown = false)
    (taken : s.link.take.2 = some (.ok payload)) (code : rawCode? s.offset payload = some raw)
    (biased : alternateBias < raw) :
    s.next? =
      some { s with link := s.link.take.1, events := s.events ++ [.unknownMessage raw] } := by
  have read := read_of_biased code biased
  unfold next?
  rcases link : s.link.take with ⟨rest, found⟩
  rw [link] at taken
  cases taken
  simp only [up, goes, route, read, Except.map, destination, Destination.deliver,
    Option.toList_some, Bool.false_eq_true, ↓reduceIte]

end Open

/-- An attempt that waits for the first id hears the first plain announcement, and nothing that
comes before it, if and only if no announcement in the alternate encoding stands in front of it. An
open session answers a message in the alternate encoding with its code as it was sent, and with
nothing else. -/
theorem plain_first_id_is_heard_iff (settings : Settings) (clientId version : Int)
    (timeText : String) (a : Attempt) (waiting : a.phase = .starting version timeText)
    (undecided : a.verdict = none) (taking : a.link.gate.closing = false)
    (readable : ∀ payload ∈ a.link.arrived, (rawCode? 0 payload).isSome = true) :
    (NoBiasedIdFirst a.link.arrived →
      a.hearAll settings clientId = a.heardPlainly settings clientId version timeText) ∧
    (a.link.fault = none →
      a.hearAll settings clientId = a.heardPlainly settings clientId version timeText →
        NoBiasedIdFirst a.link.arrived) ∧
    ∀ (s : Session) (payload : Bytes) (raw : Int), s.down = false → s.shutdown = false →
      s.link.take.2 = some (.ok payload) → rawCode? s.offset payload = some raw →
      alternateBias < raw →
      s.next? =
        some { s with link := s.link.take.1, events := s.events ++ [.unknownMessage raw] } :=
  ⟨Attempt.hearAll_eq_heardPlainly waiting undecided taking readable,
    Attempt.noBiasedIdFirst_of_hearAll_eq waiting undecided taking readable,
    fun _ _ _ => next?_of_biased⟩

/-- The accounts, the time in the alternate encoding, and two plain announcements: the first of
these is heard, and the other one is left. -/
theorem first_plain_id_is_heard :
    let accounts : Bytes := [49, 53, 0, 49, 0, 68, 85, 49, 0]
    let time : Bytes := [50, 52, 57, 0, 49, 0, 57, 0]
    let plain : Bytes := [57, 0, 49, 0, 55, 0]
    let more : Bytes := [57, 0, 49, 0, 56, 0]
    let a : Attempt :=
      { link := { arrived := [accounts, time, plain, more] }, phase := .starting 176 "" }
    NoBiasedIdFirst a.link.arrived ∧ (a.hearAll {} 7).verdict = some (.ready 176 "" 7) ∧
      (a.hearAll {} 7).link.arrived = [more] := by
  intro accounts time plain more a
  have none : NoBiasedIdFirst a.link.arrived := by
    have front : (a.link.arrived.takeWhile fun payload => !isPlainId payload) =
        [accounts, time] := by
      cbv
    intro payload member
    rw [front] at member
    rcases List.mem_pair.mp member with rfl | rfl <;> cbv
  have readable : ∀ payload ∈ a.link.arrived, (rawCode? 0 payload).isSome = true := by
    simp only [a, List.forall_mem_cons]
    refine ⟨?_, ?_, ?_, ?_, fun _ member => absurd member List.not_mem_nil⟩ <;> cbv
  have heard := (plain_first_id_is_heard_iff {} 7 176 "" a rfl rfl rfl readable).1 none
  refine ⟨none, ?_, ?_⟩ <;> rw [heard] <;> cbv

/-- An announcement of 42 in the alternate encoding comes before a plain one of 7, which is the one
that counts; the session begins with 42. -/
theorem biased_announcement_is_taken_for_the_first_id :
    let biased : Bytes := [50, 48, 57, 0, 49, 0, 52, 50, 0]
    let plain : Bytes := [57, 0, 49, 0, 55, 0]
    let a : Attempt := { link := { arrived := [biased, plain] }, phase := .starting 176 "" }
    rawCode? 0 biased = some 209 ∧ rawCode? 0 plain = some 9 ∧
      (a.heardPlainly {} 7 176 "").verdict = some (.ready 176 "" 7) ∧
      (a.hearAll {} 7).verdict = some (.ready 176 "" 42) := by
  intro biased plain a
  refine ⟨?_, ?_, ?_, ?_⟩ <;> cbv

end MarketLink.Session
