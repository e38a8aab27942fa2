import MarketLink.Proofs.Session.Crowd
import MarketLink.Proofs.Session.Handling
import MarketLink.Proofs.Session.Streams

set_option autoImplicit false

namespace MarketLink.Message

open Wire

/-- What a message that carries the id of its request is called where it does not belong. -/
def Arrival.reply? : Arrival → Option String
  | .tick _ _ | .marketDataType _ _ => some "tick"
  | .snapshotEnd _ => some "snapshot end"
  | .depth _ _ => some "market depth"
  | .contractDetails _ _ => some "contract data"
  | .contractDetailsEnd _ => some "contract data end"
  | .historicalBars _ _ => some "historical data"
  | .currentTime _ | .managedAccounts _ | .nextValidId _ | .notice _ | .unknown _ => none

end MarketLink.Message

namespace MarketLink.Session

open Correlation Market Message Time Wire

namespace Course

def Concern.details? : Concern → Option ContractDetails
  | .arrived (.contractDetails _ details) => some details
  | _ => none

/-- The answer that a concern gives to a question whose request is the one with number `n` among
those of its id, when these details have been gathered before; `none` if the request waits on. -/
def Concern.answer? (n : Nat) (question : Question) (gathered : List ContractDetails) :
    Concern → Option (Except Failure Reply)
  | .enrolled _ => none
  | .cancelled m failure => if m = n then some (.error failure) else none
  | .abandoned m => if m = n then some (.error .cancelled) else none
  | .lost failure => some (.error failure)
  | .arrived (.notice told) => some (.error (.api told.code told.message))
  | .arrived arrival =>
    match question, arrival with
    | .contractDetails _, .contractDetails _ _ => none
    | .contractDetails _, .contractDetailsEnd _ => some (.ok (.details gathered))
    | .historicalBars _ _, .historicalBars _ bars => some (.ok (.bars bars))
    | _, _ => arrival.reply?.map fun reply => .error (question.slot.mismatch reply)

/-- The answer that a story gives: its first ending decides. -/
def answerOf (n : Nat) (question : Question) :
    List ContractDetails → List Concern → Option (Except Failure Reply)
  | _, [] => none
  | gathered, c :: rest =>
    (c.answer? n question gathered).or (answerOf n question (gathered ++ c.details?.toList) rest)

section Story

variable {n : Nat} {question : Question} {gathered : List ContractDetails} {told : List Concern}
  {result : Except Failure Reply}

/-- What comes behind the ending is not heard any more. -/
theorem answerOf_append (gathered : List ContractDetails) (told more : List Concern) :
    answerOf n question gathered (told ++ more) =
      (answerOf n question gathered told).or
        (answerOf n question (gathered ++ told.filterMap Concern.details?) more) := by
  induction told generalizing gathered with
  | nil => simp [answerOf]
  | cons c rest ih =>
    have onward : gathered ++ c.details?.toList ++ rest.filterMap Concern.details? =
        gathered ++ (c :: rest).filterMap Concern.details? := by
      rw [List.filterMap_cons]
      cases c.details? <;> simp
    rw [List.cons_append, answerOf, ih, onward, answerOf, Option.or_assoc]

/-- A story gives an answer if there is a first concern that does, with the details in front of
it. -/
theorem answerOf_eq_some_iff :
    answerOf n question gathered told = some result ↔
      ∃ front c back, told = front ++ c :: back ∧ answerOf n question gathered front = none ∧
        c.answer? n question (gathered ++ front.filterMap Concern.details?) = some result := by
  constructor
  · intro answered
    induction told generalizing gathered with
    | nil => cases answered
    | cons c rest ih =>
      rw [answerOf] at answered
      cases now : c.answer? n question gathered with
      | some own =>
        rw [now] at answered
        exact ⟨[], c, rest, rfl, rfl, by simpa [now] using answered⟩
      | none =>
        rw [now, Option.none_or] at answered
        obtain ⟨front, d, back, parts, unanswered, gives⟩ := ih answered
        refine ⟨c :: front, d, back, by rw [parts]; rfl, ?_, ?_⟩
        · rw [answerOf, now, unanswered]
          rfl
        · rw [← gives, List.filterMap_cons]
          cases c.details? <;> simp
  · rintro ⟨front, c, back, rfl, unanswered, gives⟩
    rw [answerOf_append, unanswered, Option.none_or, answerOf, gives]
    rfl

end Story

def gatheredSlot (gathered : List ContractDetails) : Question → Slot
  | .contractDetails _ => .contractDetails gathered
  | question => question.slot

section Act

variable {t : Table} {id : Int} {n : Nat} {question : Question} {gathered : List ContractDetails}

/-- A table remains in order whatever concerns an id. -/
theorem Concern.filed_act (filed : t.Filed) (c : Concern) : (c.act t).Filed := by
  cases c with
  | enrolled request => exact filed.enroll request
  | arrived arrival => exact filed_deliver filed _
  | cancelled m failure => exact filed.evict m _
  | abandoned m =>
    unfold Concern.act
    dsimp only
    split
    · exact filed
    · exact filed.abandon m
  | lost failure => exact Table.Filed.teardown t failure

/-- What does not answer a question leaves its request waiting, with what it brings gathered. -/
theorem act_of_unanswered (byId : question.code? = none)
    (waits : t.Waits id n (gatheredSlot gathered question)) {c : Concern} (own : c.IsOf id)
    (goes : c.answer? n question gathered = none) :
    (c.act t).Waits id n (gatheredSlot (gathered ++ c.details?.toList) question) := by
  have same : gathered ++ [] = gathered := List.append_nil _
  cases c with
  | enrolled request =>
    show (t.enroll request).1.Waits id n (gatheredSlot (gathered ++ []) question)
    rw [same]
    exact waits.enroll own
  | cancelled m failure =>
    have other : m ≠ n := fun same => by simp [Concern.answer?, same] at goes
    show (t.cancel m failure).1.Waits id n (gatheredSlot (gathered ++ []) question)
    rw [same]
    exact waits.cancel_of_ne other failure
  | abandoned m =>
    have other : m ≠ n := fun same => by simp [Concern.answer?, same] at goes
    show (Concern.act t (.abandoned m)).Waits id n (gatheredSlot (gathered ++ []) question)
    rw [same]
    unfold Concern.act
    dsimp only
    split
    · exact waits
    · exact waits.abandon_of_ne other
  | lost failure => cases goes
  | arrived arrival =>
    cases question with
    | currentTime | managedAccounts | nextValidId => cases byId
    | contractDetails contract =>
      cases arrival with
      | contractDetails found details =>
        cases own
        exact waits.dispatch_of_more rfl
      | currentTime _ | managedAccounts _ | nextValidId _ | unknown _ => cases own
      | _ => cases goes
    | historicalBars contract query =>
      cases arrival with
      | currentTime _ | managedAccounts _ | nextValidId _ | unknown _ => cases own
      | _ => cases goes

theorem act_of_answer (filed : t.Filed) (byId : question.code? = none)
    (waits : t.Waits id n (gatheredSlot gathered question)) {c : Concern} (own : c.IsOf id)
    {result : Except Failure Reply} (ends : c.answer? n question gathered = some result) :
    (∃ outcome, (c.act t).outcome? n = some outcome ∧ outcome.bind question.replyOf = result) ∧
      (c.act t).pendingId? id = none := by
  cases c with
  | enrolled request => cases ends
  | cancelled m failure =>
    obtain ⟨rfl, rfl⟩ : m = n ∧ .error failure = result := by simpa [Concern.answer?] using ends
    refine ⟨⟨_, waits.outcome?_cancel failure, rfl⟩, ?_⟩
    exact (Table.pendingId?_complete _ _ _ _).trans
      (filed.pendingId?_unregister (Or.inl waits.pending))
  | abandoned m =>
    obtain ⟨rfl, rfl⟩ : m = n ∧ .error .cancelled = result := by simpa [Concern.answer?] using ends
    unfold Concern.act
    dsimp only
    rw [waits.outcome?]
    exact ⟨⟨_, waits.outcome?_abandon, rfl⟩,
      filed.pendingId?_abandon (Or.inl ⟨filed.ofId _ _ waits.pending, waits.pending⟩)⟩
  | lost failure =>
    cases ends
    exact ⟨⟨_, waits.outcome?_teardown failure, rfl⟩, t.pendingId?_teardown failure id⟩
  | arrived arrival =>
    cases arrival with
    | notice told =>
      cases ends
      obtain ⟨otherwise, refused⟩ := destination_of_notice own
      unfold Concern.act
      dsimp only
      rw [refused]
      exact ⟨⟨_, waits.outcome?_fail _, rfl⟩, t.pendingId?_fail id _⟩
    | currentTime _ | managedAccounts _ | nextValidId _ | unknown _ => cases own
    | contractDetails found details =>
      cases own
      cases question with
      | currentTime | managedAccounts | nextValidId => cases byId
      | contractDetails contract => cases ends
      | historicalBars contract query =>
        cases ends
        exact ⟨⟨_, waits.outcome?_of_refused rfl, rfl⟩, waits.pendingId?_of_ended filed nofun⟩
    | contractDetailsEnd found =>
      cases own
      cases question with
      | currentTime | managedAccounts | nextValidId => cases byId
      | contractDetails contract =>
        cases ends
        exact ⟨⟨_, waits.outcome?_of_last rfl, rfl⟩, waits.pendingId?_of_ended filed nofun⟩
      | historicalBars contract query =>
        cases ends
        exact ⟨⟨_, waits.outcome?_of_refused rfl, rfl⟩, waits.pendingId?_of_ended filed nofun⟩
    | historicalBars found bars =>
      cases own
      cases question with
      | currentTime | managedAccounts | nextValidId => cases byId
      | contractDetails contract =>
        cases ends
        exact ⟨⟨_, waits.outcome?_of_refused rfl, rfl⟩, waits.pendingId?_of_ended filed nofun⟩
      | historicalBars contract query =>
        cases ends
        exact ⟨⟨_, waits.outcome?_of_last rfl, rfl⟩, waits.pendingId?_of_ended filed nofun⟩
    | _ =>
      cases own
      cases question with
      | currentTime | managedAccounts | nextValidId => cases byId
      | contractDetails _ | historicalBars _ _ =>
        cases ends
        exact ⟨⟨_, waits.outcome?_of_refused rfl, rfl⟩, waits.pendingId?_of_ended filed nofun⟩

/-- A message for an id under which nobody is pending changes nothing. -/
theorem deliver_of_free (free : t.pendingId? id = none) {arrival : Arrival}
    (own : arrival.id? = some id) : ((destination arrival).deliver t).1 = t := by
  refine deliver_of_nobody ?_
  have target := (id?_destination arrival).trans own
  unfold Destination.taker?
  revert target
  cases destination arrival with
  | request target handler otherwise =>
    cases target with
    | id found =>
      intro target
      cases target
      exact free
    | code _ => exact nofun
  | refusal found failure otherwise =>
    intro target
    cases target
    exact free
  | event _ | nobody => exact nofun

theorem act_of_free (filed : t.Filed) (free : t.pendingId? id = none) {c : Concern}
    (own : c.IsOf id) (nobody : ∀ request, c ≠ .enrolled request) :
    (c.act t).pendingId? id = none := by
  cases c with
  | enrolled request => exact absurd rfl (nobody request)
  | arrived arrival =>
    show (((destination arrival).deliver t).1).pendingId? id = none
    rw [deliver_of_free free own]
    exact free
  | cancelled m failure =>
    exact (Table.pendingId?_complete _ _ _ _).trans (filed.pendingId?_unregister (Or.inr free))
  | abandoned m =>
    unfold Concern.act
    dsimp only
    split
    · exact free
    · exact filed.pendingId?_abandon (Or.inr free)
  | lost failure => exact t.pendingId?_teardown failure id

theorem outcome?_of_story (filed : t.Filed) (byId : question.code? = none)
    (waits : t.Waits id n (gatheredSlot gathered question)) {told : List Concern}
    (own : ∀ c ∈ told, c.IsOf id) :
    ((told.foldl Concern.act t).outcome? n).map (fun outcome => outcome.bind question.replyOf) =
      answerOf n question gathered told := by
  induction told generalizing t gathered with
  | nil =>
    show (t.outcome? n).map _ = none
    rw [waits.outcome?]
    rfl
  | cons c rest ih =>
    obtain ⟨ownHead, ownRest⟩ := List.forall_mem_cons.mp own
    rw [List.foldl_cons, answerOf]
    cases ends : c.answer? n question gathered with
    | none => exact ih (c.filed_act filed) (act_of_unanswered byId waits ownHead ends) ownRest
    | some result =>
      obtain ⟨⟨outcome, ended, answers⟩, _⟩ := act_of_answer filed byId waits ownHead ends
      rw [outcome?_foldl_act_of_some ended, Option.map_some, answers]
      rfl

/-- While a story gives no answer the request waits, and the details that came are gathered. -/
theorem waits_of_story (byId : question.code? = none)
    (waits : t.Waits id n (gatheredSlot gathered question)) {told : List Concern}
    (own : ∀ c ∈ told, c.IsOf id) (unanswered : answerOf n question gathered told = none) :
    (told.foldl Concern.act t).Waits id n
      (gatheredSlot (gathered ++ told.filterMap Concern.details?) question) := by
  induction told generalizing t gathered with
  | nil => simpa using waits
  | cons c rest ih =>
    obtain ⟨ownHead, ownRest⟩ := List.forall_mem_cons.mp own
    rw [answerOf, Option.or_eq_none_iff] at unanswered
    have onward : gathered ++ c.details?.toList ++ rest.filterMap Concern.details? =
        gathered ++ (c :: rest).filterMap Concern.details? := by
      rw [List.filterMap_cons]
      cases c.details? <;> simp
    rw [List.foldl_cons, ← onward]
    exact ih (act_of_unanswered byId waits ownHead unanswered.1) ownRest unanswered.2

theorem filed_foldl_act (filed : t.Filed) (told : List Concern) :
    (told.foldl Concern.act t).Filed := by
  induction told generalizing t with
  | nil => exact filed
  | cons c rest ih => exact ih (c.filed_act filed)

/-- Nobody comes to be pending under an id unless a request is registered under it. -/
theorem foldl_act_of_free (filed : t.Filed) (free : t.pendingId? id = none) {told : List Concern}
    (own : ∀ c ∈ told, c.IsOf id) (nobody : ∀ request, .enrolled request ∉ told) :
    (told.foldl Concern.act t).pendingId? id = none := by
  induction told generalizing t with
  | nil => exact free
  | cons c rest ih =>
    obtain ⟨ownHead, ownRest⟩ := List.forall_mem_cons.mp own
    refine ih (c.filed_act filed) (act_of_free filed free ownHead ?_) ownRest ?_
    · exact fun request same => nobody request (same ▸ List.mem_cons_self)
    · exact fun request member => nobody request (List.mem_cons_of_mem _ member)

/-- Behind the answer nobody is pending under the id until a request is registered under it. -/
theorem free_of_story (filed : t.Filed) (byId : question.code? = none)
    (waits : t.Waits id n (gatheredSlot gathered question)) {front back : List Concern}
    {c : Concern} (own : ∀ d ∈ front ++ c :: back, d.IsOf id)
    (unanswered : answerOf n question gathered front = none)
    (answers : (c.answer? n question (gathered ++ front.filterMap Concern.details?)).isSome = true)
    (nobody : ∀ request, .enrolled request ∉ back) :
    ((front ++ c :: back).foldl Concern.act t).pendingId? id = none := by
  rw [List.forall_mem_append, List.forall_mem_cons] at own
  obtain ⟨ownFront, ownHead, ownBack⟩ := own
  obtain ⟨result, ends⟩ := Option.isSome_iff_exists.mp answers
  have filedFront := filed_foldl_act filed front
  have waitsFront := waits_of_story byId waits ownFront unanswered
  obtain ⟨_, out⟩ := act_of_answer filedFront byId waitsFront ownHead ends
  rw [List.foldl_append, List.foldl_cons]
  exact foldl_act_of_free (c.filed_act filedFront) out ownBack nobody

end Act

end Course

end MarketLink.Session
