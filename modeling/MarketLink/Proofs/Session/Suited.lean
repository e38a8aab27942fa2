import MarketLink.Proofs.Correlation.Terms
import MarketLink.Proofs.Session.Accounts
import MarketLink.Proofs.Session.Gathering
import MarketLink.Proofs.Session.Refusal

set_option autoImplicit false

namespace MarketLink

def Failure.isInternal : Failure → Bool
  | .internal _ => true
  | .io _ | .protocol _ | .closed | .timeout | .cancelled | .tooManyRedirects _
  | .unsupportedServerVersion _ | .api _ _ | .config _ | .document _ => false

theorem Failure.not_isInternal_of_ofConnection {failure : Failure}
    (own : failure.ofConnection = true) : failure.isInternal = false := by
  cases failure <;> first | rfl | cases own

theorem Failure.isInternal_classify {failure : Failure} (calm : failure.isInternal = false) :
    failure.classify.isInternal = false := by
  unfold classify
  split
  · rfl
  · exact calm

namespace Message

def Arrival.kind? : Arrival → Option String
  | .tick _ _ | .marketDataType _ _ | .snapshotEnd _ => some "market data"
  | .depth _ _ => some "market depth"
  | .contractDetails _ _ | .contractDetailsEnd _ => some "contract details"
  | .historicalBars _ _ => some "historical bars"
  | .currentTime _ => some "current time"
  | .managedAccounts _ => some "managed accounts"
  | .nextValidId _ => some "next valid id"
  | .notice _ | .unknown _ => none

end Message

namespace Session

open Correlation Message Wire

section Destination

variable {a : Arrival} {target : Target} {handler : Handler} {otherwise : Option Event}
  {slot : Slot}

theorem noticeDestination_ne_request (notice : ErrorNotice) :
    noticeDestination notice ≠ .request target handler otherwise := by
  unfold noticeDestination
  split
  · nofun
  · split <;> nofun

/-- A slot that a message is for stays of its kind, and the last message fills it. A reply that
finds its request by the code is the last one. -/
theorem destination_takes (goes : destination a = .request target handler otherwise)
    (own : a.kind? = some slot.kind) :
    (handler slot).slot.kind = slot.kind ∧ ∃ last, (handler slot).verdict = .ok last ∧
      (last = true → (handler slot).slot.isFilled = true) ∧
      ∀ code, target = .code code → last = true := by
  cases a with
  | notice notice => exact absurd goes (noticeDestination_ne_request notice)
  | unknown _ => cases goes
  | depth id update =>
    cases goes
    cases slot with
    | marketDepth book =>
      simp only [Handler.applyDepth]
      cases book.apply update <;> exact ⟨rfl, false, rfl, nofun, nofun⟩
    | _ => simp [Arrival.kind?, Slot.kind] at own
  | _ =>
    cases goes
    cases slot <;> first
      | (simp [Arrival.kind?, Slot.kind] at own; done)
      | exact ⟨rfl, true, rfl, fun _ => rfl, fun _ _ => rfl⟩
      | exact ⟨rfl, false, rfl, nofun, nofun⟩

theorem destination_refuses (goes : destination a = .request target handler otherwise)
    (other : a.kind? ≠ some slot.kind) :
    ∃ reply, handler slot = { slot, verdict := .error (slot.mismatch reply) } ∧
      ∀ id, target = .id id → a.id? = some id ∧ a.reply? = some reply := by
  cases a with
  | notice notice => exact absurd goes (noticeDestination_ne_request notice)
  | unknown _ => cases goes
  | _ =>
    cases goes
    cases slot <;> first
      | exact absurd rfl other
      | exact ⟨_, rfl, fun id same => ⟨congrArg some (Target.id.inj same), rfl⟩⟩
      | exact ⟨_, rfl, nofun⟩

end Destination

theorem Question.replyOf_of_filled (question : Question) {slot : Slot}
    (kind : slot.kind = question.slot.kind) (filled : slot.isFilled = true) :
    ∃ reply, question.replyOf slot = .ok reply := by
  cases question <;> cases slot with
  | currentTime answer | managedAccounts answer | nextValidId answer | historicalBars answer =>
    first
      | (simp [Question.slot, Slot.kind] at kind; done)
      | (cases answer with
          | none => cases filled
          | some answer => exact ⟨_, rfl⟩)
  | contractDetails _ | marketData _ | marketDepth _ =>
    first
      | (simp [Question.slot, Slot.kind] at kind; done)
      | exact ⟨_, rfl⟩

theorem kind?_of_code {a : Arrival} {errand : Errand} {number code : Int}
    (target : a.target? = some (.code code)) (waits : (errand.key number).code? = some code) :
    a.kind? = some errand.slot.kind := by
  cases errand with
  | stream feed => cases waits
  | call question =>
    cases a with
    | currentTime _ | managedAccounts _ | nextValidId _ =>
      cases target
      cases question <;> first | rfl | cases waits
    | _ => simp [Arrival.target?] at target

/-- The failure of an errand under whose id the gateway has sent a message of another kind. -/
def Foreign (handled : List Arrival) (errand : Errand) (number : Int) (failure : Failure) : Prop :=
  ∃ a ∈ handled, ∃ reply, a.reply? = some reply ∧ a.id? = (errand.key number).id? ∧
    a.kind? ≠ some errand.slot.kind ∧ failure = errand.slot.mismatch reply

theorem Foreign.mono {handled more : List Arrival} {errand : Errand} {number : Int}
    {failure : Failure} (foreign : Foreign handled errand number failure)
    (within : handled ⊆ more) :
    Foreign more errand number failure := by
  obtain ⟨a, member, rest⟩ := foreign
  exact ⟨a, within member, rest⟩

/-- What finds a request by its key suits the request, unless it is of another kind under the id. -/
theorem serves_of_destination {p : Terms} {a : Arrival} {target : Target} {handler : Handler}
    {otherwise : Option Event} (goes : destination a = .request target handler otherwise) {n : Nat}
    {errand : Errand} {number : Int} (finds : target.Finds (errand.key number))
    (brief : p.brief? n = some ⟨errand.slot.kind, errand.streaming⟩)
    (foreign : ∀ failure, Foreign [a] errand number failure → p.mayFail n failure) :
    p.Serves target n handler := by
  refine ⟨_, brief, fun slot kind => ?_⟩
  have kind : slot.kind = errand.slot.kind := kind
  by_cases own : a.kind? = some slot.kind
  · obtain ⟨kept, last, verdict, filled, whole⟩ := destination_takes goes own
    refine ⟨kept, ?_, ?_, ?_⟩
    · intro same
      exact filled (Except.ok.inj (verdict.symm.trans same))
    · intro failure same
      cases verdict.symm.trans same
    · intro code found
      rw [verdict, whole code found]
  · obtain ⟨reply, refused, carries⟩ := destination_refuses goes own
    rw [refused]
    cases target with
    | id id =>
      obtain ⟨carried, called⟩ := carries id rfl
      refine ⟨rfl, nofun, ?_, nofun⟩
      rintro failure ⟨⟩
      refine foreign _ ⟨a, List.mem_singleton_self a, reply, called, ?_, kind ▸ own, ?_⟩
      · exact carried.trans (show (errand.key number).id? = some id from finds).symm
      · rw [Slot.mismatch, Slot.mismatch, kind]
    | code code =>
      have aims : a.target? = some (.code code) := by
        rw [← target?_destination, goes]
        rfl
      exact absurd (kind ▸ kind?_of_code aims finds) own

end Session

end MarketLink
