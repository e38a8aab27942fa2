import MarketLink.Proofs.Session.Answered

set_option autoImplicit false

namespace MarketLink.Session

open Correlation Message Wire

namespace Errand

def takesId : Errand → Bool
  | .call question => question.code?.isNone
  | .stream _ => true

def question : Errand → Question
  | .call question => question
  | .stream (.ticks contract _ _) | .stream (.depth contract _ _) => .contractDetails contract

def draw (t : Table) (errand : Errand) : Except Failure Int :=
    errand.check.bind fun _ => errand.number t

theorem id?_key (errand : Errand) (number : Int) :
    (errand.key number).id? = if errand.takesId then some number else none := by
  rcases errand with (_ | _ | _ | _ | _) | _ <;> rfl

theorem number_eq (errand : Errand) (t : Table) :
    errand.number t = if errand.takesId then t.allocate.2 else .ok (bump t.nextSeq).1 := by
  rcases errand with (_ | _ | _ | _ | _) | _ <;> rfl

theorem number_of_draw {t : Table} {errand : Errand} {number : Int}
    (given : errand.draw t = .ok number) :
    errand.number t = .ok number := by
  unfold draw at given
  cases checked : errand.check with
  | error _ =>
    rw [checked] at given
    cases given
  | ok _ =>
    rw [checked] at given
    exact given

theorem counters_keyFor (errand : Errand) (s : Session) :
    (s.keyFor errand.question).1.table.counters =
      if errand.takesId then ((bump s.table.nextId).2, s.table.nextSeq)
      else (s.table.nextId, (bump s.table.nextSeq).2) := by
  rcases errand with (_ | _ | _ | _ | _) | (_ | _) <;> rfl

end Errand

namespace Office

def Move.isNumbered : Move → Bool
  | .come _ _ | .draw _ => true
  | .turn _ | .giveUp _ | .look _ | .expire _ | .enter | .leave | .switch _ | .fetch | .proceed
    | .read _
  | .write _ | .close | .letGo => false

theorem counters_step (w : Office) {move : Move} (other : move.isNumbered = false) :
    (w.step move).session.table.counters = w.session.table.counters := by
  have polls : ∀ n late, (w.crowd.poll n late).race.session.table.counters =
      w.session.table.counters := by
    intro n late
    rcases w.crowd.race_poll n late with same | same <;> rw [same]
    exact Crowd.counters_step w.crowd.race (.giveUp n)
  cases move with
  | come _ _ | draw _ => cases other
  | turn n => exact Crowd.counters_step w.crowd.race (.turn n)
  | giveUp n => exact Crowd.counters_step w.crowd.race (.giveUp n)
  | proceed => exact Crowd.counters_step w.crowd.race .proceed
  | look n | expire n => exact polls n _
  | enter =>
    show (w.session.enter.getD w.session).table.counters = _
    unfold Session.enter
    split <;> rfl
  | switch kind =>
    simp only [step]
    split
    · rename_i frame _
      rcases w.post_cases (.other frame) with same | ⟨_, same⟩ <;> rw [same]
      rfl
    · rfl
  | fetch =>
    rcases w.fetch_cases with same | ⟨_, ⟨_, same⟩ | ⟨_, link, failure, _, same⟩ |
      ⟨_, link, payload, _, ⟨e, _, same⟩ | ⟨a, _, same⟩⟩⟩ <;> rw [step, same]
    · exact Crowd.counters_step w.crowd.race (.lose .closed)
    · exact Crowd.counters_step (w.setLink link).crowd.race (.lose failure)
    · exact Crowd.counters_step (w.setLink link).crowd.race (.lose (.protocol e))
    · exact Crowd.counters_step (w.setLink link).crowd.race (.receive (destination a))
  | leave | read _ | write _ | close | letGo => rfl

theorem errands_step_of_other (w : Office) {move : Move} (other : move.isNumbered = false) :
    (w.step move).errands = w.errands := by
  rcases w.callers_step move with
    (⟨_, _, _, rfl, _⟩ | ⟨n, rfl⟩ | ⟨_, _, _, same, _⟩) | ⟨_, same, _, _⟩
  · cases other
  · rfl
  · exact same
  · exact same

/-- Whoever comes with a number that counters hand out, and an errand that fits a frame, is
there. -/
theorem errands_come (w : Office) {errand : Errand} {number : Int} (isNumber : IsNumber number)
    (framed : (errand.frame number).isOk = true) :
    (w.step (.come errand number)).errands = w.errands ++ [(errand, number)] := by
  simp only [step]
  split
  · rw [if_pos isNumber]
  · rename_i refused
    rw [refused] at framed
    cases framed

theorem counters_come (w : Office) (errand : Errand) (number : Int) :
    (w.step (.come errand number)).session.table.counters = w.session.table.counters := by
  simp only [step]
  split
  · split <;> rfl
  · rfl

end Office

/-- A session with its callers, the numbers that they have drawn and the messages that have come. -/
structure Desk where
  office : Office
  drawn : List (Errand × Int) := []
  slips : List Nat := []
  handled : List Arrival := []

namespace Desk

abbrev session (w : Desk) : Session := w.office.session

/-- Something that can happen next. -/
inductive Move where
  | draw (errand : Errand)
  | come (draw : Nat)
  | act (move : Office.Move)

/-- What a move leads to; one that is not possible now does not happen. -/
def step (w : Desk) : Move → Desk
  | .draw errand =>
    match errand.draw w.session.table with
    | .ok number =>
      { w with
        office := w.office.step (.draw errand.question)
        drawn := w.drawn ++ [(errand, number)] }
    | .error _ => w
  | .come draw =>
    match w.drawn[draw]? with
    | some (errand, number) =>
      if draw ∉ w.slips ∧ (errand.frame number).isOk = true then
        { w with office := w.office.step (.come errand number), slips := w.slips ++ [draw] }
      else w
    | none => w
  | .act move =>
    if move.isNumbered then w
    else
      { w with
        office := w.office.step move
        handled := w.handled ++ (w.office.arrival? move).toList }

def run (w : Desk) (moves : List Move) : Desk := moves.foldl step w

theorem run_append (w : Desk) (first second : List Move) :
    w.run (first ++ second) = (w.run first).run second := List.foldl_append

/-- A session in which nothing has been drawn yet; for the rest it may be in any state. -/
def opened (s : Session) (firstId : Int) : Desk := { office := Office.opened s firstId }

theorem drawn_step (w : Desk) {move : Move} (other : ∀ errand, move ≠ .draw errand) :
    (w.step move).drawn = w.drawn := by
  cases move with
  | draw errand => exact absurd rfl (other errand)
  | come draw =>
    unfold step
    dsimp only
    split
    · split <;> rfl
    · rfl
  | act move =>
    unfold step
    dsimp only
    split <;> rfl

theorem drawn_run {w : Desk} {moves : List Move}
    (others : ∀ move ∈ moves, ∀ errand, move ≠ .draw errand) :
    (w.run moves).drawn = w.drawn := by
  induction moves generalizing w with
  | nil => rfl
  | cons move rest ih =>
    obtain ⟨first, later⟩ := List.forall_mem_cons.mp others
    exact (ih later).trans (w.drawn_step first)

/-- Whether a move is granted to whoever wants to make it, and with which failure it is not. -/
def grants (w : Desk) : Move → Except Failure Unit
  | .draw errand => (errand.draw w.session.table).map fun _ => ()
  | .come draw =>
    match w.drawn[draw]? with
    | some (errand, number) => (errand.frame number).map fun _ => ()
    | none => .ok ()
  | .act (.turn n) =>
    match w.office.caller? n with
    | some c =>
      match c.stance with
      | .fresh => (w.session.table.register n).2
      | .registered => (w.session.send c.frame).2
      | _ => .ok ()
    | none => .ok ()
  | .act .enter => w.session.passes
  | .act (.switch kind) =>
    ((reqMarketDataType kind).mapError .protocol).bind fun frame => (w.session.send frame).2
  | .act _ => .ok ()

/-- How many ids were drawn before a draw. -/
def idsBefore (drawn : List (Errand × Int)) (draw : Nat) : Nat :=
  (drawn.take draw).countP fun come => come.1.takesId

/-- Between two draws the counter of ids has gone all the way round. -/
def Round (drawn : List (Errand × Int)) (first second : Nat) : Prop :=
  (idsBefore drawn first : Int) + greatestId ≤ idsBefore drawn second

/-- The id of a request is pending for another one, and the counter has gone round between the
draws. -/
def Wrapped (w : Desk) (n : Nat) : Prop :=
  ∃ id m own other, w.session.table.idOf? n = some id ∧ w.session.table.pendingId? id = some m ∧
    m ≠ n ∧ w.slips[n]? = some own ∧ w.slips[m]? = some other ∧
    (Round w.drawn own other ∨ Round w.drawn other own)

/-- The id that is drawn behind so many others. -/
def idAt (first : Int) (count : Nat) : Int := (first - 1 + count) % greatestId + 1

section Id

variable {first : Int} {count other : Nat}

theorem isNumber_idAt (first : Int) (count : Nat) : IsNumber (idAt first count) := by
  unfold IsNumber idAt greatestId
  omega

theorem idAt_zero (isNumber : IsNumber first) : idAt first 0 = first := by
  unfold IsNumber greatestId at isNumber
  unfold idAt greatestId
  omega

theorem bump_idAt (first : Int) (count : Nat) :
    bump (idAt first count) = (idAt first count, idAt first (count + 1)) := by
  have isNumber := isNumber_idAt first count
  unfold IsNumber at isNumber
  unfold bump
  rw [if_neg (by omega)]
  unfold idAt greatestId at *
  split
  · congr 1
    omega
  · congr 1
    omega

/-- Two ids that were drawn one behind the other are the same only after a full round. -/
theorem round_of_idAt (same : idAt first count = idAt first other) (later : count < other) :
    (count : Int) + greatestId ≤ other := by
  unfold idAt greatestId at same
  unfold greatestId
  omega

end Id

section Drawn

variable {drawn : List (Errand × Int)} {errand : Errand} {number : Int} {draw later : Nat}

theorem idsBefore_concat (inside : draw ≤ drawn.length) (last : Errand × Int) :
    idsBefore (drawn ++ [last]) draw = idsBefore drawn draw := by
  unfold idsBefore
  rw [List.take_append_of_le_length inside]

theorem idsBefore_all (errand : Errand) (number : Int) :
    idsBefore (drawn ++ [(errand, number)]) (drawn ++ [(errand, number)]).length =
      idsBefore drawn drawn.length + if errand.takesId then 1 else 0 := by
  unfold idsBefore
  rw [List.take_length, List.take_length, List.countP_append, List.countP_singleton]

/-- An id that was drawn counts for all draws behind it. -/
theorem idsBefore_lt (there : drawn[draw]? = some (errand, number)) (takes : errand.takesId = true)
    (behind : draw < later) : idsBefore drawn draw < idsBefore drawn later := by
  obtain ⟨inside, same⟩ := List.getElem?_eq_some_iff.mp there
  have upTo : idsBefore drawn (draw + 1) = idsBefore drawn draw + 1 := by
    unfold idsBefore
    rw [List.take_succ_eq_append_getElem inside, List.countP_append, List.countP_singleton, same,
      if_pos takes]
  have further : idsBefore drawn (draw + 1) ≤ idsBefore drawn later :=
    (List.take_sublist_take_left behind).countP_le
  omega

end Drawn

/-- What holds of the numbers between moves. -/
structure Numbered (w : Desk) (first : Int) : Prop where
  counter : w.session.table.nextId = idAt first (idsBefore w.drawn w.drawn.length)
  sequence : IsNumber w.session.table.nextSeq
  ids : ∀ draw errand number, w.drawn[draw]? = some (errand, number) → errand.takesId = true →
    number = idAt first (idsBefore w.drawn draw)
  numbers : ∀ come ∈ w.drawn, IsNumber come.2
  /-- Everybody has come with a draw, and gone to the session with what was drawn. -/
  slips : w.slips.map (fun draw => w.drawn[draw]?) = w.office.errands.map some
  once : w.slips.Nodup

section Numbered

variable {w : Desk} {first : Int}

theorem Numbered.of_counters {after : Desk} (numbered : w.Numbered first)
    (counters : after.session.table.counters = w.session.table.counters)
    (drawn : after.drawn = w.drawn)
    (slips : after.slips.map (fun draw => w.drawn[draw]?) = after.office.errands.map some)
    (once : after.slips.Nodup) : after.Numbered first := by
  obtain ⟨nextId, nextSeq⟩ := Prod.mk.inj counters
  refine ⟨?_, ?_, ?_, ?_, ?_, once⟩
  · rw [nextId, drawn]
    exact numbered.counter
  · rw [nextSeq]
    exact numbered.sequence
  · rw [drawn]
    exact numbered.ids
  · rw [drawn]
    exact numbered.numbers
  · rw [drawn]
    exact slips

theorem Numbered.inside (numbered : w.Numbered first) {draw : Nat} (member : draw ∈ w.slips) :
    draw < w.drawn.length := by
  have mapped := List.mem_map_of_mem (f := fun draw => w.drawn[draw]?) member
  rw [numbered.slips] at mapped
  obtain ⟨come, _, same⟩ := List.mem_map.mp mapped
  exact (List.getElem?_eq_some_iff.mp same.symm).1

theorem Numbered.drawn (numbered : w.Numbered first) {errand : Errand} {number : Int}
    (given : errand.draw w.session.table = .ok number) :
    let count := idsBefore w.drawn w.drawn.length
    let after := (w.office.step (.draw errand.question)).session.table
    IsNumber number ∧ (errand.takesId = true → number = idAt first count) ∧
      after.nextId = idAt first (count + if errand.takesId then 1 else 0) ∧
      IsNumber after.nextSeq := by
  intro count after
  have given := Errand.number_of_draw given
  have counters : after.counters = _ := errand.counters_keyFor w.session
  have counter : w.session.table.nextId = idAt first count := numbered.counter
  have isNumber := isNumber_idAt first count
  rw [Errand.number_eq] at given
  cases takes : errand.takesId with
  | true =>
    rw [takes, if_pos rfl] at given counters
    obtain ⟨nextId, nextSeq⟩ := Prod.mk.inj counters
    rw [allocate_of_counting (counter ▸ isNumber.1)] at given
    have own : number = idAt first count := (Except.ok.inj given).symm.trans counter
    refine ⟨own ▸ isNumber, fun _ => own, ?_, ?_⟩
    · rw [nextId, counter, bump_idAt]
      rfl
    · rw [nextSeq]
      exact numbered.sequence
  | false =>
    rw [takes, if_neg Bool.false_ne_true] at given counters
    obtain ⟨nextId, nextSeq⟩ := Prod.mk.inj counters
    obtain ⟨same, next⟩ := isNumber_bump numbered.sequence
    refine ⟨?_, fun taken => absurd taken Bool.false_ne_true, ?_, ?_⟩
    · rw [← Except.ok.inj given, same]
      exact numbered.sequence
    · rw [nextId, counter]
      rfl
    · rw [nextSeq]
      exact next

theorem Numbered.draw (numbered : w.Numbered first) {errand : Errand} {number : Int}
    (given : errand.draw w.session.table = .ok number) :
    Numbered
      { w with
        office := w.office.step (.draw errand.question)
        drawn := w.drawn ++ [(errand, number)] } first := by
  obtain ⟨own, id, counter, sequence⟩ := numbered.drawn given
  refine ⟨?_, sequence, ?_, ?_, ?_, numbered.once⟩
  · rw [idsBefore_all]
    exact counter
  · intro draw other also there takes
    have inside := (List.getElem?_eq_some_iff.mp there).1
    rw [List.length_append, List.length_singleton] at inside
    rw [idsBefore_concat (by omega)]
    rcases getElem?_append_singleton_cases there with before | ⟨rfl, same⟩
    · exact numbered.ids draw other also before takes
    · cases same
      exact id takes
  · intro come member
    rcases List.mem_append.mp member with before | now
    · exact numbered.numbers come before
    · rw [List.mem_singleton.mp now]
      exact own
  · show _ = w.office.errands.map some
    rw [← numbered.slips]
    -- the draws that were come with are still where they were
    refine List.map_congr_left fun draw member => ?_
    exact List.getElem?_append_left (numbered.inside member)

theorem Numbered.step (numbered : w.Numbered first) (move : Move) :
    (w.step move).Numbered first := by
  cases move with
  | draw errand =>
    unfold Desk.step
    dsimp only
    split
    · rename_i number given
      exact numbered.draw given
    · exact numbered
  | come draw =>
    unfold Desk.step
    dsimp only
    split
    · rename_i errand number there
      split
      · rename_i possible
        obtain ⟨unused, framed⟩ := possible
        have isNumber := numbered.numbers _ (List.mem_of_getElem? there)
        refine numbered.of_counters (w.office.counters_come errand number) rfl ?_
          (nodup_append_singleton numbered.once unused)
        show (w.slips ++ [draw]).map _ = List.map some (w.office.step (.come errand number)).errands
        rw [w.office.errands_come isNumber framed, List.map_append, List.map_append, numbered.slips,
          List.map_singleton, List.map_singleton, there]
      · exact numbered
    · exact numbered
  | act move =>
    unfold Desk.step
    dsimp only
    split
    · exact numbered
    · rename_i other
      have other : move.isNumbered = false := Bool.eq_false_iff.mpr other
      refine numbered.of_counters (w.office.counters_step other) rfl ?_ numbered.once
      show _ = (w.office.step move).errands.map some
      rw [w.office.errands_step_of_other other]
      exact numbered.slips

theorem Numbered.opened (s : Session) {firstId : Int} (inRange : firstId ≤ greatestId) :
    (opened s firstId).Numbered (max firstId 1) := by
  refine ⟨?_, ⟨Int.le_refl 1, show (1 : Int) ≤ greatestId by decide⟩, nofun, nofun, rfl,
    List.nodup_nil⟩
  have isNumber : IsNumber (max firstId 1) := by
    unfold IsNumber greatestId at *
    omega
  exact (idAt_zero isNumber).symm

end Numbered

end Desk

end MarketLink.Session
