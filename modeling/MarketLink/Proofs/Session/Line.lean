import MarketLink.Proofs.Correlation.Reply
import MarketLink.Session.Call

set_option autoImplicit false

namespace MarketLink.Session

open Correlation Message

/-- A request of the line, as it is known outside of the table. -/
structure Ticket where
  number : Nat
  slot : Slot
  gaveUp : Bool := false
  served : Bool := false
  /-- It was taken out because its frame could not be sent. -/
  removed : Bool := false
  answered : Bool := false

namespace Ticket

def isWaiting (k : Ticket) : Bool := !k.served && !k.removed

def mark (n : Nat) (change : Ticket → Ticket) (tickets : List Ticket) : List Ticket :=
  tickets.map fun k => if k.number = n then change k else k

def giveUp (k : Ticket) : Ticket := { k with gaveUp := true }

def serve (k : Ticket) : Ticket := { k with served := true }

def remove (k : Ticket) : Ticket := { k with removed := true }

def answer (k : Ticket) : Ticket := { k with answered := true }

theorem mem_mark {n : Nat} {change : Ticket → Ticket} {tickets : List Ticket} {k : Ticket} :
    k ∈ mark n change tickets ↔
      ∃ old ∈ tickets, k = if old.number = n then change old else old := by
  unfold mark
  rw [List.mem_map]
  constructor
  · rintro ⟨old, member, rfl⟩
    exact ⟨old, member, rfl⟩
  · rintro ⟨old, member, rfl⟩
    exact ⟨old, member, rfl⟩

theorem numbers_mark (n : Nat) (change : Ticket → Ticket)
    (kept : ∀ k, (change k).number = k.number) (tickets : List Ticket) :
    (mark n change tickets).map number = tickets.map number := by
  unfold mark
  rw [List.map_map]
  refine List.map_congr_left fun k _ => ?_
  by_cases own : k.number = n <;> simp [own, kept]

theorem waiting_mark (n : Nat) {change : Ticket → Ticket}
    (kept : ∀ k, (change k).isWaiting = k.isWaiting) (tickets : List Ticket) :
    (mark n change tickets).filter isWaiting = mark n change (tickets.filter isWaiting) := by
  unfold mark
  rw [List.filter_map]
  congr 1
  refine List.filter_congr fun k _ => ?_
  rw [Function.comp_apply]
  split
  · exact kept k
  · rfl

theorem waiting_mark_of_end (n : Nat) {change : Ticket → Ticket}
    (ends : ∀ k, (change k).isWaiting = false) (tickets : List Ticket) :
    (mark n change tickets).filter isWaiting =
      (tickets.filter isWaiting).filter fun k => k.number != n := by
  induction tickets with
  | nil => rfl
  | cons k rest ih =>
    rw [mark, List.map_cons, ← mark]
    by_cases own : k.number = n
    · rw [if_pos own, List.filter_cons_of_neg (by rw [ends]; exact Bool.false_ne_true), ih]
      by_cases waits : k.isWaiting = true
      · rw [List.filter_cons_of_pos waits, List.filter_cons_of_neg (by simp [own])]
      · rw [List.filter_cons_of_neg waits]
    · rw [if_neg own]
      by_cases waits : k.isWaiting = true
      · rw [List.filter_cons_of_pos waits, List.filter_cons_of_pos waits,
          List.filter_cons_of_pos (by simp [own]), ih]
      · rw [List.filter_cons_of_neg waits, List.filter_cons_of_neg waits, ih]

theorem isWaiting_giveUp (k : Ticket) : k.giveUp.isWaiting = k.isWaiting := rfl

theorem isWaiting_answer (k : Ticket) : k.answer.isWaiting = k.isWaiting := rfl

theorem isWaiting_serve (k : Ticket) : k.serve.isWaiting = false := rfl

theorem isWaiting_remove (k : Ticket) : k.remove.isWaiting = false := by
  simp [isWaiting, remove]

end Ticket

/-- A table with all requests for one reply code that were registered in it, in order. -/
structure Line where
  table : Table
  tickets : List Ticket := []

namespace Line

/-- Something that can happen next. -/
inductive Move where
  | join (slot : Slot) (streaming : Bool)
  | giveUp (n : Nat)
  | remove (n : Nat) (failure : Failure)
  /-- A reply comes. It is the gateway's answer to request `n`, which it does not say. -/
  | reply (n : Nat) (handler : Handler) (otherwise : Option Event)

def waiting (w : Line) : List Ticket := w.tickets.filter Ticket.isWaiting

/-- The request that is to take the next reply. -/
def oldest? (w : Line) : Option Ticket := w.waiting.head?

def deliver (code : Int) (w : Line) (handler : Handler) (otherwise : Option Event) :
    Table × Option Event :=
  (Destination.request (.code code) handler otherwise).deliver w.table

/-- What a move leads to. Who is to take a reply is decided by the tickets alone. -/
def step (code : Int) (w : Line) : Move → Line
  | .join slot streaming =>
    let (table, number) := w.table.join code slot streaming
    { table, tickets := w.tickets ++ [{ number, slot }] }
  | .giveUp n =>
    if n ∈ w.tickets.map Ticket.number then
      { table := (w.table.abandon n).1, tickets := Ticket.mark n Ticket.giveUp w.tickets }
    else w
  | .remove n failure =>
    if n ∈ w.tickets.map Ticket.number then
      { table := (w.table.cancel n failure).1, tickets := Ticket.mark n Ticket.remove w.tickets }
    else w
  | .reply n handler otherwise =>
    let served :=
      match w.oldest? with
      | some k => Ticket.mark k.number Ticket.serve w.tickets
      | none => w.tickets
    { table := (w.deliver code handler otherwise).1, tickets := Ticket.mark n Ticket.answer served }

def run (code : Int) (w : Line) (moves : List Move) : Line := moves.foldl (step code) w

/-- The table and the tickets agree. A request that waits is as it was registered, or its caller has
given up and it has ended with that. -/
structure Sound (code : Int) (w : Line) : Prop where
  queue : w.table.queue code = w.waiting.map Ticket.number
  distinct : (w.tickets.map Ticket.number).Nodup
  coded : ∀ k ∈ w.tickets, w.table.codeOf? k.number = some code
  untouched : ∀ k ∈ w.waiting, k.gaveUp = false →
    ∃ r, w.table.request? k.number = some r ∧ r.Holds k.slot
  abandoned : ∀ k ∈ w.waiting, k.gaveUp = true →
    w.table.outcome? k.number = some (.error .cancelled)

theorem sound_start {code : Int} {t : Table} (idle : t.queue code = []) :
    Sound code { table := t } := by
  refine ⟨idle, List.nodup_nil, ?_, ?_, ?_⟩
  · intro k member
    cases member
  · intro k member
    cases member
  · intro k member
    cases member

variable {code : Int} {w : Line}

theorem Sound.join (sound : w.Sound code) (slot : Slot) (streaming : Bool) :
    (w.step code (.join slot streaming)).Sound code := by
  let ticket : Ticket := { number := w.table.requests.length, slot }
  let joined : Line :=
    { table := (w.table.join code slot streaming).1, tickets := w.tickets ++ [ticket] }
  have waiting : joined.waiting = w.waiting ++ [ticket] := List.filter_append _ _
  show Sound code joined
  refine ⟨?_, ?_, ?_, ?_, ?_⟩
  · rw [Table.queue_join, sound.queue, waiting, List.map_append]
    rfl
  · rw [List.map_append]
    refine nodup_append_singleton sound.distinct fun member => ?_
    obtain ⟨k, known, same⟩ := List.mem_map.mp member
    exact Nat.ne_of_lt (Table.inside_of_codeOf? (sound.coded k known)) same
  · intro k member
    rcases List.mem_append.mp member with known | last
    · exact Table.codeOf?_join_of_some code slot streaming (sound.coded k known)
    · rw [List.mem_singleton.mp last]
      exact w.table.codeOf?_join_self code slot streaming
  · intro k member fresh
    rw [waiting] at member
    rcases List.mem_append.mp member with known | last
    · obtain ⟨r, found, holds⟩ := sound.untouched k known fresh
      exact ⟨r, Table.request?_join_of_some code slot streaming found, holds⟩
    · obtain ⟨r, found, holds, _⟩ := w.table.request?_join_self code slot streaming
      rw [List.mem_singleton.mp last]
      exact ⟨r, found, holds⟩
  · intro k member gone
    rw [waiting] at member
    rcases List.mem_append.mp member with known | last
    · exact Table.outcome?_join_of_some code slot streaming (sound.abandoned k known gone)
    · rw [List.mem_singleton.mp last] at gone
      cases gone

theorem Sound.giveUp (sound : w.Sound code) (n : Nat) : (w.step code (.giveUp n)).Sound code := by
  unfold step
  dsimp only
  split
  · rename_i member
    obtain ⟨own, known, rfl⟩ := List.mem_map.mp member
    have abandoned := Table.abandon_of_code (sound.coded own known)
    rw [abandoned]
    have waiting : (Ticket.mark own.number Ticket.giveUp w.tickets).filter Ticket.isWaiting =
        Ticket.mark own.number Ticket.giveUp w.waiting :=
      Ticket.waiting_mark own.number Ticket.isWaiting_giveUp w.tickets
    have numbers := Ticket.numbers_mark own.number Ticket.giveUp fun _ => rfl
    refine ⟨?_, ?_, ?_, ?_, ?_⟩
    · rw [Line.waiting, waiting, numbers, Table.queue_complete, sound.queue]
    · rw [numbers]
      exact sound.distinct
    · intro k marked
      obtain ⟨old, before, rfl⟩ := Ticket.mem_mark.mp marked
      rw [Table.codeOf?_complete]
      split
      · exact sound.coded old before
      · exact sound.coded old before
    · intro k marked fresh
      rw [Line.waiting, waiting] at marked
      obtain ⟨old, before, rfl⟩ := Ticket.mem_mark.mp marked
      split at fresh
      · cases fresh
      · rename_i other
        rw [if_neg other, Table.request?_complete_of_ne _ other]
        exact sound.untouched old before fresh
    · intro k marked gone
      rw [Line.waiting, waiting] at marked
      obtain ⟨old, before, rfl⟩ := Ticket.mem_mark.mp marked
      cases already : old.gaveUp with
      | true =>
        have ended := sound.abandoned old before already
        have still := Table.outcome?_complete_of_some ended own.number (some .cancelled)
        split <;> exact still
      | false =>
        by_cases same : old.number = own.number
        · obtain ⟨r, found, _, running⟩ := sound.untouched old before already
          rw [if_pos same, ← same]
          exact (Table.complete_of_open found running (some .cancelled)).2
        · rw [if_neg same, already] at gone
          cases gone
  · exact sound

theorem Sound.of_end (sound : w.Sound code) {n : Nat} {change : Ticket → Ticket} {table : Table}
    (ends : ∀ k, (change k).isWaiting = false) (kept : ∀ k, (change k).number = k.number)
    (queue : table.queue code = (w.table.queue code).filter fun m => m != n)
    (coded : ∀ m, table.codeOf? m = w.table.codeOf? m)
    (others : ∀ m, m ≠ n → table.request? m = w.table.request? m) :
    Sound code { table, tickets := Ticket.mark n change w.tickets } := by
  have waiting : (Ticket.mark n change w.tickets).filter Ticket.isWaiting =
      w.waiting.filter fun k => k.number != n := Ticket.waiting_mark_of_end n ends w.tickets
  refine ⟨?_, ?_, ?_, ?_, ?_⟩
  · rw [Line.waiting, waiting, queue, sound.queue, List.filter_map]
    rfl
  · rw [Ticket.numbers_mark n change kept]
    exact sound.distinct
  · intro k marked
    obtain ⟨old, before, rfl⟩ := Ticket.mem_mark.mp marked
    rw [coded]
    split
    · rw [kept]
      exact sound.coded old before
    · exact sound.coded old before
  · intro k marked fresh
    rw [Line.waiting, waiting, List.mem_filter, bne_iff_ne] at marked
    rw [others _ marked.2]
    exact sound.untouched k marked.1 fresh
  · intro k marked gone
    rw [Line.waiting, waiting, List.mem_filter, bne_iff_ne] at marked
    rw [Table.outcome?, others _ marked.2]
    exact sound.abandoned k marked.1 gone

theorem Sound.remove (sound : w.Sound code) (n : Nat) (failure : Failure) :
    (w.step code (.remove n failure)).Sound code := by
  unfold step
  dsimp only
  split
  · rename_i member
    obtain ⟨own, known, rfl⟩ := List.mem_map.mp member
    refine sound.of_end Ticket.isWaiting_remove (fun _ => rfl)
      (Table.queue_cancel (sound.coded own known) failure) ?_ ?_
    · intro m
      rw [Table.cancel, Table.codeOf?_complete, Table.codeOf?_unregister]
    · intro m other
      exact w.table.request?_cancel_of_ne other failure
  · exact sound

/-- The gateway's own mark means nothing to the table. -/
theorem Sound.answer (sound : w.Sound code) (n : Nat) :
    Sound code { w with tickets := Ticket.mark n Ticket.answer w.tickets } := by
  have waiting : (Ticket.mark n Ticket.answer w.tickets).filter Ticket.isWaiting =
      Ticket.mark n Ticket.answer w.waiting :=
    Ticket.waiting_mark n Ticket.isWaiting_answer w.tickets
  have numbers := Ticket.numbers_mark n Ticket.answer fun _ => rfl
  refine ⟨?_, ?_, ?_, ?_, ?_⟩
  · rw [Line.waiting, waiting, numbers, sound.queue]
  · rw [numbers]
    exact sound.distinct
  · intro k marked
    obtain ⟨old, before, rfl⟩ := Ticket.mem_mark.mp marked
    split <;> exact sound.coded old before
  · intro k marked fresh
    rw [Line.waiting, waiting] at marked
    obtain ⟨old, before, rfl⟩ := Ticket.mem_mark.mp marked
    split at fresh <;> split <;> exact sound.untouched old before fresh
  · intro k marked gone
    rw [Line.waiting, waiting] at marked
    obtain ⟨old, before, rfl⟩ := Ticket.mem_mark.mp marked
    split at gone <;> split <;> exact sound.abandoned old before gone

theorem deliver_fst (handler : Handler) (otherwise : Option Event) :
    (w.deliver code handler otherwise).1 = (w.table.dispatch (.code code) handler).1 := rfl

theorem deliver_snd (handler : Handler) (otherwise : Option Event) :
    (w.deliver code handler otherwise).2 =
      if (w.table.dispatch (.code code) handler).2.isSome then none else otherwise := rfl

/-- Whoever is to take the next reply is first in the queue, and stands there once. -/
theorem Sound.queue_of_oldest (sound : w.Sound code) {k : Ticket} (oldest : w.oldest? = some k) :
    k ∈ w.waiting ∧ ∃ rest, w.table.queue code = k.number :: rest ∧ (k.number :: rest).Nodup := by
  obtain ⟨others, waiting⟩ := List.head?_eq_some_iff.mp oldest
  have queue : w.table.queue code = k.number :: others.map Ticket.number := by
    rw [sound.queue, waiting, List.map_cons]
  refine ⟨by rw [waiting]; exact List.mem_cons_self, _, queue, ?_⟩
  rw [← queue, sound.queue]
  exact sound.distinct.sublist (List.filter_sublist.map _)

theorem Sound.queue_of_nobody (sound : w.Sound code) (nobody : w.oldest? = none) :
    w.table.queue code = [] := by
  rw [sound.queue, List.head?_eq_none_iff.mp nobody, List.map_nil]

theorem Sound.dispatch_snd (sound : w.Sound code) (handler : Handler) :
    (w.table.dispatch (.code code) handler).2 = w.oldest?.map Ticket.number := by
  cases oldest : w.oldest? with
  | none => rw [Table.dispatch_of_empty (sound.queue_of_nobody oldest), Option.map_none]
  | some k =>
    obtain ⟨_, rest, queue, _⟩ := sound.queue_of_oldest oldest
    rw [Table.dispatch_of_queue queue, Option.map_some]

theorem Sound.outcome?_deliver (sound : w.Sound code) {k : Ticket} (oldest : w.oldest? = some k)
    (fresh : k.gaveUp = false) (handler : Handler) (otherwise : Option Event) :
    (w.deliver code handler otherwise).1.outcome? k.number = some (handler.result k.slot) := by
  obtain ⟨member, rest, queue, _⟩ := sound.queue_of_oldest oldest
  obtain ⟨r, found, holds⟩ := sound.untouched k member fresh
  rw [deliver_fst, Table.outcome?_dispatch_of_open queue found holds]

theorem Sound.request?_deliver (sound : w.Sound code) {k : Ticket} (oldest : w.oldest? = some k)
    (gone : k.gaveUp = true) (handler : Handler) (otherwise : Option Event) :
    (w.deliver code handler otherwise).1.request? k.number = w.table.request? k.number := by
  obtain ⟨member, rest, queue, _⟩ := sound.queue_of_oldest oldest
  have ended := sound.abandoned k member gone
  rw [deliver_fst, Table.dispatch_of_ended queue (by rw [ended]; rfl), Table.request?_setQueue]

theorem Sound.reply (sound : w.Sound code) (n : Nat) (handler : Handler)
    (otherwise : Option Event) : (w.step code (.reply n handler otherwise)).Sound code := by
  have coded := fun m => w.table.codeOf?_dispatch code handler m
  unfold step
  dsimp only
  split
  · rename_i k oldest
    obtain ⟨member, rest, queue, once⟩ := sound.queue_of_oldest oldest
    have known : k ∈ w.tickets := List.mem_of_mem_filter member
    refine Sound.answer (sound.of_end Ticket.isWaiting_serve (fun _ => rfl) ?_ coded ?_) n
    · rw [Table.queue_dispatch queue once (sound.coded k known), queue]
      exact (List.erase_cons_head k.number rest).symm.trans (once.erase_eq_filter k.number)
    · intro m other
      exact Table.request?_dispatch_of_ne queue handler other
  · rename_i nobody
    have same : (w.deliver code handler otherwise).1 = w.table := by
      rw [deliver_fst, Table.dispatch_of_empty (sound.queue_of_nobody nobody)]
    rw [same]
    exact sound.answer n

theorem Sound.step (sound : w.Sound code) (move : Move) : (w.step code move).Sound code := by
  cases move with
  | join slot streaming => exact sound.join slot streaming
  | giveUp n => exact sound.giveUp n
  | remove n failure => exact sound.remove n failure
  | reply n handler otherwise => exact sound.reply n handler otherwise

theorem Sound.run (sound : w.Sound code) (moves : List Move) : (w.run code moves).Sound code := by
  induction moves generalizing w with
  | nil => exact sound
  | cons move rest ih => exact ih (sound.step move)

end Line

end MarketLink.Session
