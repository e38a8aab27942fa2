import MarketLink.Proofs.Session.Line

set_option autoImplicit false

namespace MarketLink.Session

open Correlation Message

/-- What a message says to a question that is answered without an id. -/
def Question.answer? : Question → Arrival → Option Reply
  | .currentTime, .currentTime time => some (.time time)
  | .managedAccounts, .managedAccounts accounts => some (.accounts accounts)
  | .nextValidId, .nextValidId id => some (.id id)
  | _, _ => none

theorem result_of_answer {question : Question} {arrival : Arrival} {reply : Reply}
    (answers : question.answer? arrival = some reply) :
    ∃ code handler otherwise, question.code? = some code ∧
      destination arrival = .request (.code code) handler (some otherwise) ∧
      (handler.result question.slot).bind question.replyOf = .ok reply := by
  unfold Question.answer? at answers
  split at answers
  · cases answers
    exact ⟨_, _, _, rfl, rfl, rfl⟩
  · cases answers
    exact ⟨_, _, _, rfl, rfl, rfl⟩
  · cases answers
    exact ⟨_, _, _, rfl, rfl, rfl⟩
  · cases answers

namespace Line

variable {code : Int} {w : Line}

theorem outcome?_step {m : Nat} {result : Except Failure Slot} (move : Move)
    (ended : w.table.outcome? m = some result) :
    (w.step code move).table.outcome? m = some result := by
  cases move with
  | join slot streaming => exact Table.outcome?_join_of_some code slot streaming ended
  | giveUp n =>
    unfold Line.step
    dsimp only
    split
    · exact Table.outcome?_abandon_of_some ended n
    · exact ended
  | remove n failure =>
    unfold Line.step
    dsimp only
    split
    · exact Table.outcome?_cancel_of_some ended n failure
    · exact ended
  | reply n handler otherwise => exact Table.outcome?_dispatch_of_some ended code handler

theorem outcome?_run {m : Nat} {result : Except Failure Slot} (moves : List Move)
    (ended : w.table.outcome? m = some result) :
    (w.run code moves).table.outcome? m = some result := by
  induction moves generalizing w with
  | nil => exact ended
  | cons move rest ih => exact ih (outcome?_step move ended)

/-- The gateway answers the requests in the order of their registration: at each answer, every
request that was registered before has been answered, or was taken out without having been sent. -/
def InOrder (code : Int) : Line → List Move → Prop
  | _, [] => True
  | w, move :: rest =>
    (∀ n handler otherwise, move = .reply n handler otherwise →
      (w.tickets.filter fun k => !k.answered && !k.removed).head?.map Ticket.number = some n) ∧
    InOrder code (w.step code move) rest

/-- The gateway has answered just those requests that have taken a reply. -/
def Matched (w : Line) : Prop := ∀ k ∈ w.tickets, k.answered = k.served

theorem waiting_of_matched (matched : w.Matched) :
    (w.tickets.filter fun k => !k.answered && !k.removed) = w.waiting := by
  refine List.filter_congr fun k member => ?_
  rw [matched k member]
  rfl

theorem oldest_of_due (matched : w.Matched) {n : Nat}
    (due : (w.tickets.filter fun k => !k.answered && !k.removed).head?.map Ticket.number = some n) :
    ∃ k, w.oldest? = some k ∧ k.number = n := by
  rw [waiting_of_matched matched] at due
  exact Option.map_eq_some_iff.mp due

theorem matched_step (matched : w.Matched) {move : Move}
    (due : ∀ n handler otherwise, move = .reply n handler otherwise →
      (w.tickets.filter fun k => !k.answered && !k.removed).head?.map Ticket.number = some n) :
    (w.step code move).Matched := by
  cases move with
  | join slot streaming =>
    intro k member
    rcases List.mem_append.mp member with known | last
    · exact matched k known
    · rw [List.mem_singleton.mp last]
  | giveUp n =>
    unfold Line.step
    dsimp only
    split
    · intro k member
      obtain ⟨old, before, rfl⟩ := Ticket.mem_mark.mp member
      split <;> exact matched old before
    · exact matched
  | remove n failure =>
    unfold Line.step
    dsimp only
    split
    · intro k member
      obtain ⟨old, before, rfl⟩ := Ticket.mem_mark.mp member
      split <;> exact matched old before
    · exact matched
  | reply n handler otherwise =>
    obtain ⟨k, oldest, own⟩ := oldest_of_due matched (due n handler otherwise rfl)
    intro marked member
    simp only [Line.step, oldest, own] at member
    obtain ⟨served, inside, rfl⟩ := Ticket.mem_mark.mp member
    obtain ⟨old, before, rfl⟩ := Ticket.mem_mark.mp inside
    by_cases same : old.number = n
    · simp [same, Ticket.serve, Ticket.answer]
    · simp [same, matched old before]

theorem matched_run {moves : List Move} (matched : w.Matched) (inOrder : InOrder code w moves) :
    (w.run code moves).Matched := by
  induction moves generalizing w with
  | nil => exact matched
  | cons move rest ih => exact ih (matched_step matched inOrder.1) inOrder.2

theorem inOrder_append {first second : List Move} (inOrder : InOrder code w (first ++ second)) :
    InOrder code w first ∧ InOrder code (w.run code first) second := by
  induction first generalizing w with
  | nil => exact ⟨trivial, inOrder⟩
  | cons move rest ih =>
    obtain ⟨before, after⟩ := ih inOrder.2
    exact ⟨⟨inOrder.1, before⟩, after⟩

/-- An answer in order completes the request that it is for, unless its caller has given up. -/
theorem Sound.outcome?_of_inOrder (sound : w.Sound code) (matched : w.Matched) {n : Nat}
    {handler : Handler} {otherwise : Option Event} {later : List Move}
    (inOrder : InOrder code w (.reply n handler otherwise :: later)) {k : Ticket}
    (member : k ∈ w.tickets) (own : k.number = n) (fresh : k.gaveUp = false) :
    (w.run code (.reply n handler otherwise :: later)).table.outcome? n =
      some (handler.result k.slot) := by
  obtain ⟨first, oldest, same⟩ := oldest_of_due matched (inOrder.1 n handler otherwise rfl)
  have known : first ∈ w.tickets := List.mem_of_mem_filter (sound.queue_of_oldest oldest).1
  have one : k = first := List.inj_on_of_nodup_map sound.distinct member known (own.trans same.symm)
  subst one
  have ended := sound.outcome?_deliver oldest fresh handler otherwise
  rw [own] at ended
  exact outcome?_run later ended

/-- Whatever has happened before, a reply is taken by the oldest registered request that has taken
none and was not taken out: an open one is completed with what the reply says, one whose caller has
given up swallows it, and nothing else changes and no event comes of it. Only when there is no such
request the reply becomes its event. What an answer says is what its question comes to. So answers
that come in the order of registration reach their own requests. -/
theorem reply_is_taken_by_oldest_waiting (code : Int) (t : Table) (idle : t.queue code = [])
    (moves : List Move) :
    let w := run code { table := t } moves
    (∀ handler otherwise,
      (w.table.dispatch (.code code) handler).2 = w.oldest?.map Ticket.number ∧
      (w.oldest? = none → w.deliver code handler otherwise = (w.table, otherwise)) ∧
      ∀ k, w.oldest? = some k →
        (w.deliver code handler otherwise).2 = none ∧
        (∀ m, m ≠ k.number →
          (w.deliver code handler otherwise).1.request? m = w.table.request? m) ∧
        (k.gaveUp = false → w.table.outcome? k.number = none ∧
          (w.deliver code handler otherwise).1.outcome? k.number =
            some (handler.result k.slot)) ∧
        (k.gaveUp = true → w.table.outcome? k.number = some (.error .cancelled) ∧
          (w.deliver code handler otherwise).1.request? k.number =
            w.table.request? k.number)) ∧
    (∀ question arrival reply, Question.answer? question arrival = some reply →
      ∃ code handler otherwise, question.code? = some code ∧
        destination arrival = .request (.code code) handler (some otherwise) ∧
        (handler.result question.slot).bind question.replyOf = .ok reply) ∧
    (InOrder code { table := t } moves → ∀ before n handler otherwise later,
      moves = before ++ .reply n handler otherwise :: later →
      ∀ k ∈ (run code { table := t } before).tickets, k.number = n → k.gaveUp = false →
        w.table.outcome? n = some (handler.result k.slot)) := by
  intro w
  have sound : w.Sound code := (sound_start idle).run moves
  refine ⟨fun handler otherwise => ⟨sound.dispatch_snd handler, ?_, ?_⟩,
    fun _ _ _ answers => result_of_answer answers, ?_⟩
  · intro nobody
    have empty := Table.dispatch_of_empty (sound.queue_of_nobody nobody) handler
    unfold Line.deliver Destination.deliver
    simp only [empty, Option.isSome_none, Bool.false_eq_true, ↓reduceIte]
  · intro k oldest
    obtain ⟨member, rest, queue, _⟩ := sound.queue_of_oldest oldest
    refine ⟨?_, ?_, ?_, ?_⟩
    · rw [deliver_snd, sound.dispatch_snd, oldest]
      rfl
    · intro m other
      exact Table.request?_dispatch_of_ne queue handler other
    · intro fresh
      obtain ⟨r, found, _, running⟩ := sound.untouched k member fresh
      refine ⟨?_, sound.outcome?_deliver oldest fresh handler otherwise⟩
      rw [Table.outcome?, found]
      exact running
    · intro gone
      exact ⟨sound.abandoned k member gone, sound.request?_deliver oldest gone handler otherwise⟩
  · intro inOrder before n handler otherwise later split k member own fresh
    rw [split] at inOrder
    obtain ⟨earlier, due⟩ := inOrder_append inOrder
    have soundBefore := (sound_start idle).run before
    have matched : (run code { table := t } before).Matched := by
      refine matched_run ?_ earlier
      intro k member
      cases member
    have ended := soundBefore.outcome?_of_inOrder matched due member own fresh
    have whole : w = (run code { table := t } before).run code
        (.reply n handler otherwise :: later) := by
      show run code _ moves = _
      rw [split, run, List.foldl_append]
      rfl
    rw [whole]
    exact ended

theorem second_caller_gets_its_own_answer :
    let moves := [.join (.currentTime none) false, .join (.currentTime none) false, .giveUp 0,
      .reply 0 (Handler.storeTime "current time" ⟨100, 0⟩) none,
      .reply 1 (Handler.storeTime "current time" ⟨200, 0⟩) none]
    InOrder 49 { table := {} } moves ∧
      (run 49 { table := {} } moves).table.outcome? 1 =
        some (.ok (.currentTime (some ⟨200, 0⟩))) := by
  intro moves
  have inOrder : InOrder 49 { table := {} } moves := by
    refine ⟨nofun, nofun, nofun, ?_, ?_, trivial⟩
    · rintro n handler otherwise ⟨⟩
      rfl
    · rintro n handler otherwise ⟨⟩
      rfl
  exact ⟨inOrder, (reply_is_taken_by_oldest_waiting 49 {} rfl moves).2.2 inOrder (moves.take 4) 1
    (Handler.storeTime "current time" ⟨200, 0⟩) none [] rfl
    { number := 1, slot := .currentTime none } (List.mem_cons_of_mem _ List.mem_cons_self) rfl rfl⟩

end Line

end MarketLink.Session
