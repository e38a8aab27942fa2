import MarketLink.Proofs.Session.Beginning
import MarketLink.Proofs.Session.Drawing

set_option autoImplicit false

namespace MarketLink.Session

open Correlation Message Wire

def Race.Out (w : Race) (n : Nat) : Prop :=
  ∃ c, w.callers[n]? = some c ∧ c.stance ≠ .fresh ∧ n ∉ w.session.table.pending

theorem Caller.entered_turn {s : Session} {n : Nat} {c : Caller} (entered : c.stance ≠ .fresh) :
    (c.turn s n).2 ≠ .fresh := by
  unfold Caller.turn
  cases stance : c.stance with
  | fresh => exact absurd stance entered
  | registered =>
    dsimp only
    rcases s.send c.frame with ⟨_, _ | _⟩ <;> exact nofun
  | leaving _ _ | ending _ _ | telling _ => exact nofun
  | refused | waiting | gone =>
    dsimp only
    exact nofun

theorem Caller.entered_giveUp {t : Table} {n : Nat} {c : Caller} (entered : c.stance ≠ .fresh) :
    c.giveUp t n ≠ .fresh := by
  unfold Caller.giveUp
  split
  · split
    · exact nofun
    · split <;> exact nofun
  · exact entered

theorem Race.Out.step {w : Race} {n : Nat} (out : w.Out n) (sound : w.Sound) (move : Move) :
    (w.step move).Out n := by
  obtain ⟨c, there, entered, absent⟩ := out
  have stays := mt (mem_pending_step sound there entered move) absent
  rcases callers_step_cases there move with same | ⟨-, same⟩ | ⟨-, same⟩
  · exact ⟨c, same, entered, stays⟩
  · exact ⟨_, same, Caller.entered_turn entered, stays⟩
  · exact ⟨_, same, Caller.entered_giveUp entered, stays⟩

theorem Office.out_run {w : Office} {n : Nat} (sound : w.crowd.Sound) (out : w.crowd.race.Out n)
    (moves : List Move) : (w.run moves).crowd.race.Out n := by
  refine race_run (fun race => race.Out n) (fun _ sound out => out.step sound) ?_ sound out moves
  rintro race session aside ⟨c, there, entered, absent⟩
  exact ⟨c, there, entered, aside.pending.symm ▸ absent⟩

namespace Desk

theorem office_run (w : Desk) (moves : List Move) :
    ∃ acts : List Office.Move, (w.run moves).office = w.office.run acts := by
  induction moves generalizing w with
  | nil => exact ⟨[], rfl⟩
  | cons move rest ih =>
    have one : ∃ acts : List Office.Move, (w.step move).office = w.office.run acts := by
      cases move with
      | draw errand =>
        unfold step
        dsimp only
        split
        · exact ⟨[.draw errand.question], rfl⟩
        · exact ⟨[], rfl⟩
      | come draw =>
        unfold step
        dsimp only
        split
        · split
          · exact ⟨[.come _ _], rfl⟩
          · exact ⟨[], rfl⟩
        · exact ⟨[], rfl⟩
      | act move =>
        unfold step
        dsimp only
        split
        · exact ⟨[], rfl⟩
        · exact ⟨[move], rfl⟩
    obtain ⟨now, same⟩ := one
    obtain ⟨later, all⟩ := ih (w.step move)
    refine ⟨now ++ later, ?_⟩
    rw [run, List.foldl_cons, ← run, all, same, Office.run_append]

variable {w : Desk} {first : Int} {n : Nat}

theorem Numbered.refused (numbered : w.Numbered first) (sound : w.office.Sound) {c : Caller}
    {failure : Failure} (there : w.office.caller? n = some c) (fresh : c.stance = .fresh)
    (refused : (w.session.table.register n).2 = .error failure) :
    ∃ id m own other, w.session.table.idOf? n = some id ∧ w.session.table.pendingId? id = some m ∧
      w.slips[n]? = some own ∧ w.slips[m]? = some other ∧
      ((idsBefore w.drawn other : Int) + greatestId ≤ idsBefore w.drawn own ∨
        (idsBefore w.drawn own : Int) + greatestId ≤ idsBefore w.drawn other ∧
          (idsBefore w.drawn own : Int) + greatestId < (idsOf w.drawn).length) := by
  obtain ⟨id, m, own, other, carried, pending, -, slip, slipped, round⟩ :=
    numbered.wrapped sound there fresh refused
  refine ⟨id, m, own, other, carried, pending, slip, slipped, ?_⟩
  obtain ⟨errand, number, came, carries⟩ :=
    sound.comes_of_idOf? (sound.crowd.race.filed.ofId id m pending)
  obtain ⟨draw, also, drawn⟩ := numbered.slip came
  cases slipped.symm.trans also
  have takes : errand.takesId = true := by
    rw [Errand.id?_key] at carries
    split at carries
    · assumption
    · cases carries
  have counted := idsBefore_lt drawn takes (List.getElem?_eq_some_iff.mp drawn).1
  rw [length_idsOf]
  rcases round with before | behind
  · exact Or.inr ⟨before, by unfold Round at before; omega⟩
  · exact Or.inl behind

end Desk

namespace Drawing

variable {first : Int}

theorem nodup_of_round {ids : List Int} (own : ∀ k < ids.length, ids[k]? = some (Desk.idAt first k))
    (start : Nat) : ((ids.drop start).take (2 ^ 31 - 1)).Nodup := by
  refine List.nodup_iff_getElem?_ne_getElem?.mpr fun i j before inside same => ?_
  rw [List.length_take, List.length_drop] at inside
  have within : j < 2 ^ 31 - 1 := by omega
  rw [List.getElem?_take_of_lt (before.trans within), List.getElem?_take_of_lt within,
    List.getElem?_drop, List.getElem?_drop, own _ (by omega), own _ (by omega)] at same
  have round := Desk.round_of_idAt (Option.some.inj same) (Nat.add_lt_add_left before start)
  unfold greatestId at round
  omega

theorem office_sound_run (s : Session) (isNumber : IsNumber first) (moves : List Move) :
    ((opened s first).run moves).desk.office.Sound := by
  obtain ⟨-, acts, desk⟩ := (Sound.opened s isNumber).run moves
  obtain ⟨moves', office⟩ := (Desk.opened s first).office_run acts
  have same : ((opened s first).run moves).desk.office = (Office.opened s first).run moves' := by
    rw [desk]
    exact office
  rw [same]
  exact (Office.Sound.opened s first).run moves'

theorem pending_of_pending_run (s : Session) (isNumber : IsNumber first) {earlier later : List Move}
    {m : Nat} {c : Caller} (came : ((opened s first).run earlier).desk.office.caller? m = some c)
    (entered : c.stance ≠ .fresh)
    (pending : m ∈ ((opened s first).run (earlier ++ later)).desk.session.table.pending) :
    m ∈ ((opened s first).run earlier).desk.session.table.pending := by
  by_contra absent
  obtain ⟨sound, -⟩ := (Sound.opened s isNumber).run earlier
  obtain ⟨-, acts, desk⟩ := sound.run later
  obtain ⟨moves, office⟩ := ((opened s first).run earlier).desk.office_run acts
  have crowd := (office_sound_run s isNumber earlier).crowd
  have out := Office.out_run crowd ⟨c, came, entered, absent⟩ moves
  rw [← office, ← desk, ← run_append] at out
  obtain ⟨_, _, _, gone⟩ := out
  exact gone pending

/-- The ids of a session. Whatever is done in it, the `k`-th id that is drawn is the `k`-th behind
the first one, where `1` comes behind `2 ^ 31 - 1`; so as many as that, one behind the other, are
all different. Everything drawn has one owner, nobody finds the counter at zero, whoever is not
disturbed draws by a look and two exchanges, and the session is what it is when every draw is one
step. A caller finds its id pending only for a request that was drawn a whole round before its own
draw, or, when the counter has gone round since its own draw, a whole round behind it. Whichever it
is, that request has been pending since it was registered. -/
theorem ids_go_round_whoever_draws (s : Session) (raw : Int) (moves : List Move) :
    let first := usableId raw
    let w := (opened s first).run moves
    let before := Desk.idsBefore w.desk.drawn
    (∀ k < w.ids.length, w.ids[k]? = some ((first - 1 + k) % (2 ^ 31 - 1) + 1)) ∧
    (∀ id ∈ w.ids, 1 ≤ id ∧ id ≤ 2 ^ 31 - 1) ∧
    (∀ start, ((w.ids.drop start).take (2 ^ 31 - 1)).Nodup) ∧
    (∀ draw errand number, w.desk.drawn[draw]? = some (errand, number) → ∃ n,
      w.drawers[n]? = some ⟨errand, .drew draw⟩ ∧ ∀ m, w.stage? m = some (.drew draw) → m = n) ∧
    (∀ d ∈ w.drawers, d.stage ≠ .unseeded) ∧
    (∀ n d, w.drawers[n]? = some d → (∀ draw, d.stage ≠ .drew draw) →
      let after := w.run [.look n, .exchange n false, .exchange n false]
      after.desk = w.desk.step (.draw d.errand) ∧
        after.stage? n = some (.drew w.desk.drawn.length)) ∧
    (∃ acts, w.desk = (Desk.opened s first).run acts) ∧
    ∀ n c failure, w.desk.office.caller? n = some c → c.stance = .fresh →
      (w.desk.session.table.register n).2 = .error failure →
      ∃ id m own other, w.desk.session.table.idOf? n = some id ∧
        w.desk.session.table.pendingId? id = some m ∧
        w.desk.slips[n]? = some own ∧ w.desk.slips[m]? = some other ∧
        (before other + (2 ^ 31 - 1) ≤ before own ∨
          before own + (2 ^ 31 - 1) ≤ before other ∧ before own + (2 ^ 31 - 1) < w.ids.length) ∧
        ∀ earlier later, moves = earlier ++ later →
          let past := ((opened s first).run earlier).desk
          ∀ c, past.office.caller? m = some c → c.stance ≠ .fresh →
            m ∈ past.session.table.pending := by
  intro first w before
  have isNumber : IsNumber first := Attempt.isNumber_usableId raw
  have start := Sound.opened s isNumber
  obtain ⟨sound, acts, all⟩ := start.run moves
  have ids : w.ids = (List.range w.ids.length).map (Desk.idAt first) :=
    Desk.idsOf_eq sound.numbered.ids
  have own : ∀ k < w.ids.length, w.ids[k]? = some (Desk.idAt first k) := by
    intro k inside
    rw [ids, List.getElem?_map, List.getElem?_range inside]
    rfl
  refine ⟨fun k inside => ?_, fun id member => ?_, fun start => ?_,
    fun draw errand number drawn => ?_, fun d member unseeded => ?_, fun n d there undrawn =>
    sound.drew there undrawn, ⟨acts, all⟩, ?_⟩
  · exact own k inside
  · rw [ids] at member
    obtain ⟨k, _, same⟩ := List.mem_map.mp member
    exact same ▸ Desk.isNumber_idAt first k
  · exact nodup_of_round own start
  · have inside := (List.getElem?_eq_some_iff.mp drawn).1
    obtain ⟨n, drew⟩ := sound.owned draw inside
    obtain ⟨⟨errand', stage⟩, there, same⟩ := Option.map_eq_some_iff.mp drew
    cases same
    obtain ⟨-, own⟩ := sound.fits _ (List.mem_of_getElem? there)
    have own : (w.desk.drawn[draw]?).map Prod.fst = some errand' := own
    rw [drawn] at own
    cases own
    exact ⟨n, there, fun m also => sound.apart m n draw also drew⟩
  · obtain ⟨-, fits⟩ := sound.fits d member
    rw [unseeded] at fits
    exact fits
  · intro n c failure there fresh refused
    have office : w.desk.office.Sound := office_sound_run s isNumber moves
    obtain ⟨id, m, own, other, carried, pending, slip, slipped, round⟩ :=
      sound.numbered.refused office there fresh refused
    refine ⟨id, m, own, other, carried, pending, slip, slipped, ?_, ?_⟩
    · have round : (before other : Int) + 2147483647 ≤ before own ∨
        (before own : Int) + 2147483647 ≤ before other ∧
        (before own : Int) + 2147483647 < w.ids.length := round
      omega
    · intro earlier later whole past c came entered
      have registered : m ∈ w.desk.session.table.pending :=
        (office.crowd.race.filed.mem_pending m).mpr (Or.inl ⟨id, pending⟩)
      subst whole
      exact pending_of_pending_run s isNumber came entered registered

def bars : Errand := .call (.historicalBars {} {})

def drawing (n : Nat) : List Move := [.approach bars, .look n, .exchange n false]

/-- The request that was drawn first is held up until the one that was drawn last is registered. -/
def heldUp (last : Nat) : List Move :=
  (List.range (last + 1)).flatMap drawing ++
    [.other (.come last), .other (.act (.turn 0)), .other (.come 0)]

section HeldUp

variable {w : Drawing} {s : Session} {moves : List Move}

theorem pending_run_of_drawing (only : ∀ move ∈ moves, ∀ act, move ≠ .other act) :
    (w.run moves).desk.session.table.pending = w.desk.session.table.pending := by
  induction moves generalizing w with
  | nil => rfl
  | cons move rest ih =>
    have one : (w.step move).desk.session.table.pending = w.desk.session.table.pending := by
      cases move with
      | approach errand =>
        unfold Drawing.step
        dsimp only
        split <;> rfl
      | look n =>
        unfold Drawing.step
        dsimp only
        split <;> rfl
      | exchange n fails =>
        unfold Drawing.step
        dsimp only
        split
        · split
          · rename_i errand _ _ _
            show (errand.setCounter w.desk.session.table _).pending = _
            unfold Errand.setCounter
            split <;> rfl
          · rfl
        · rfl
      | other act => exact absurd rfl (only _ List.mem_cons_self act)
    rw [run, List.foldl_cons, ← run,
      ih fun move member => only move (List.mem_cons_of_mem _ member), one]

theorem drawn_run_of_others (acts : List Desk.Move) :
    (w.run (acts.map .other)).desk.drawn = w.desk.drawn := by
  induction acts generalizing w with
  | nil => rfl
  | cons act rest ih =>
    have one : (w.step (.other act)).desk.drawn = w.desk.drawn := by
      cases act with
      | draw _ => rfl
      | come draw => exact w.desk.drawn_step nofun
      | act move => exact w.desk.drawn_step nofun
    rw [List.map_cons, run, List.foldl_cons, ← run, ih, one]

/-- Whoever comes undisturbed is handed out the id that the counter is at. -/
theorem Sound.drawing {first : Int} (sound : w.Sound first) :
    w.run (drawing w.drawers.length) =
      { desk := w.desk.take bars w.desk.session.table.nextId
        drawers := w.drawers ++ [⟨bars, .drew w.desk.drawn.length⟩] } := by
  let n := w.drawers.length
  let number := bars.counter w.desk.session.table
  let begun : Drawing := { w with drawers := w.drawers ++ [⟨bars, .fresh⟩] }
  have there : begun.drawers[n]? = some ⟨bars, .fresh⟩ := List.getElem?_concat_length
  let seen := begun.place n bars (.saw number)
  have sees : begun.step (.look n) = seen := by
    have approached : begun.Sound first := sound.approach rfl
    have looked := (approached.look there nofun).1
    rw [Drawing.step, there]
    exact congrArg (begun.place n bars) looked
  have drew : seen.step (.exchange n false) =
      { seen.place n bars (.drew w.desk.drawn.length) with desk := w.desk.take bars number } := by
    rw [Drawing.step, drawers_place there]
    exact if_pos ⟨rfl, rfl⟩
  have places : (begun.drawers.set n ⟨bars, .saw number⟩).set n ⟨bars, .drew w.desk.drawn.length⟩ =
      w.drawers ++ [⟨bars, .drew w.desk.drawn.length⟩] := by
    rw [List.set_set, List.set_append_right _ _ (Nat.le_refl _), Nat.sub_self]
    rfl
  show (begun.step (.look n)).step (.exchange n false) = _
  rw [sees, drew, ← places]
  rfl

theorem run_drawings (s : Session) {first : Int} (isNumber : IsNumber first) (count : Nat) :
    let w := (opened s first).run ((List.range count).flatMap drawing)
    w.drawers.length = count ∧
      ∃ value, w.desk =
        { office := { Office.opened s first with crowd.race.session.table.nextId := value }
          drawn := (List.range count).map fun k => (bars, Desk.idAt first k) } := by
  induction count with
  | zero => exact ⟨rfl, _, rfl⟩
  | succ count ih =>
    obtain ⟨length, value, same⟩ := ih
    obtain ⟨sound, -⟩ := (Sound.opened s isNumber).run ((List.range count).flatMap drawing)
    intro w'
    have whole : w' = ((opened s first).run ((List.range count).flatMap drawing)).run
        (drawing count) := by
      rw [← run_append]
      show (opened s first).run ((List.range (count + 1)).flatMap drawing) = _
      rw [List.range_succ, List.flatMap_append]
      rfl
    generalize (opened s first).run ((List.range count).flatMap drawing) = w at *
    have ids : Desk.idsBefore w.desk.drawn w.desk.drawn.length = count := by
      have all : (fun come : Errand × Int => come.1.takesId) ∘
        (fun k : Nat => (bars, Desk.idAt first k)) =
          fun _ => true := rfl
      rw [same]
      unfold Desk.idsBefore
      rw [List.take_length, List.countP_map, all, List.countP_true, List.length_range]
    have current : w.desk.session.table.nextId = Desk.idAt first count :=
      ids ▸ sound.numbered.counter
    have drawn := sound.drawing
    rw [length, current] at drawn
    rw [whole, drawn]
    refine ⟨?_, Session.following (Desk.idAt first count), ?_⟩
    · rw [List.length_append, length, List.length_singleton]
    · show w.desk.take bars (Desk.idAt first count) = _
      rw [same, List.range_succ, List.map_append]
      rfl

/-- Whoever is held up for a whole round finds a request pending that was drawn just now. -/
theorem refused_heldUp (s : Session) {last : Nat} (apart : last ≠ 0)
    (round : Desk.idAt 1 last = 1) :
    let w := (opened s 1).run (heldUp last)
    (∃ c, w.desk.office.caller? 1 = some c ∧ c.stance = .fresh) ∧
      (w.desk.session.table.register 1).2 = .error (.internal "id 1 is already pending") ∧
      w.desk.session.table.pendingId? 1 = some 0 ∧ w.desk.slips = [last, 0] := by
  obtain ⟨-, value, same⟩ := run_drawings s (show IsNumber 1 by decide) (last + 1)
  have entry : ∀ k ≤ last, ((List.range (last + 1)).map fun k => (bars, Desk.idAt 1 k))[k]? =
      some (bars, Desk.idAt 1 k) := by
    intro k within
    rw [List.getElem?_map, List.getElem?_range (Nat.lt_succ_of_le within)]
    rfl
  have newcomer := entry last (Nat.le_refl _)
  rw [round] at newcomer
  have refused := Desk.refused_behind_newcomer s value apart (entry 0 (Nat.zero_le _)) newcomer
  intro w
  have desk : w.desk = ((opened s 1).run ((List.range (last + 1)).flatMap drawing)).desk.run
      [.come last, .act (.turn 0), .come 0] := by
    show ((opened s 1).run (_ ++ _)).desk = _
    rw [run_append]
    rfl
  rw [desk, same]
  exact refused

/-- Until everything was drawn that is drawn in all, nothing is pending. -/
theorem ids_of_pending_heldUp (s : Session) {last : Nat} {earlier later : List Move}
    (whole : heldUp last = earlier ++ later)
    (pending : 0 ∈ ((opened s 1).run earlier).desk.session.table.pending) :
    ((opened s 1).run (heldUp last)).ids = ((opened s 1).run earlier).ids := by
  have draws : ∀ move ∈ (List.range (last + 1)).flatMap drawing, ∀ act, move ≠ .other act := by
    intro move member act same
    obtain ⟨n, -, member⟩ := List.mem_flatMap.mp member
    subst same
    simp [drawing] at member
  rcases List.append_eq_append_iff.mp whole with ⟨others, -, behind⟩ | ⟨others, drawn, -⟩
  · have acts : [.come last, .act (.turn 0), .come 0].map Move.other = others ++ later := behind
    obtain ⟨-, rest, -, -, rfl⟩ := List.map_eq_append_iff.mp acts
    rw [whole, run_append]
    exact congrArg Desk.idsOf (drawn_run_of_others rest)
  · have only : ∀ move ∈ earlier, ∀ act, move ≠ .other act := fun move member =>
      draws move (drawn ▸ List.mem_append_left others member)
    rw [pending_run_of_drawing only] at pending
    cases pending

end HeldUp

/-- A request may be pending for one that was held up, although it has not been pending for a
round. -/
theorem pending_request_may_be_new :
    let s := ofReady {} 7 0 {} 176 "" 1
    let w := (opened s (usableId 0)).run (heldUp (2 ^ 31 - 1))
    (∃ c, w.desk.office.caller? 1 = some c ∧ c.stance = .fresh) ∧
      (w.desk.session.table.register 1).2 = .error (.internal "id 1 is already pending") ∧
      w.desk.session.table.pendingId? 1 = some 0 ∧
      ¬ ∃ earlier later, heldUp (2 ^ 31 - 1) = earlier ++ later ∧
        let past := (opened s (usableId 0)).run earlier
        0 ∈ past.desk.session.table.pending ∧ past.ids.length + (2 ^ 31 - 1) ≤ w.ids.length := by
  have clamped : usableId 0 = 1 := by decide
  rw [clamped]
  intro s
  have held := refused_heldUp s (show 2 ^ 31 - 1 ≠ 0 by decide) (by decide)
  refine ⟨held.1, held.2.1, held.2.2.1, ?_⟩
  rintro ⟨earlier, later, whole, was, round⟩
  rw [ids_of_pending_heldUp s whole was] at round
  omega

/-- Two look at the counter at its last value; one of them exchanges, the other one does it behind
the round. -/
def rivals : List Move :=
  [.approach bars, .approach bars, .look 0, .look 1, .exchange 1 true, .exchange 1 false,
    .exchange 0 false]

/-- The least id comes behind the greatest one, and who was held up has drawn a whole round before
the other. -/
theorem rivals_and_heldUp_draw_in_rounds :
    let s := ofReady {} 7 0 {} 176 "" 1
    let w := (opened s (usableId 2147483647)).run rivals
    let after := w.run [.look 0, .exchange 0 false, .exchange 0 false]
    (w.drawers[0]? = some ⟨bars, .saw 1⟩ ∧ w.ids[0]? = some 2147483647 ∧
        after.stage? 0 = some (.drew 1)) ∧
      let held := (opened s (usableId 0)).run (heldUp (2 ^ 31 - 1))
      (held.desk.session.table.register 1).2 = .error (.internal "id 1 is already pending") ∧
        Desk.idsBefore held.desk.drawn 0 + (2 ^ 31 - 1) ≤
        Desk.idsBefore held.desk.drawn (2 ^ 31 - 1) := by
  intro s w after
  have there : w.drawers[0]? = some ⟨bars, .saw 1⟩ := rfl
  obtain ⟨ids, -, -, -, -, draws, -⟩ := ids_go_round_whoever_draws s 2147483647 rivals
  refine ⟨⟨there, ids 0 (by decide), (draws 0 _ there nofun).2⟩, ?_⟩
  have refusals := (ids_go_round_whoever_draws s 0 (heldUp (2 ^ 31 - 1))).2.2.2.2.2.2.2
  have clamped : usableId 0 = 1 := by decide
  rw [clamped] at refusals ⊢
  have held := refused_heldUp s (show 2 ^ 31 - 1 ≠ 0 by decide) (by decide)
  refine ⟨held.2.1, ?_⟩
  obtain ⟨c, caller, fresh⟩ := held.1
  obtain ⟨_, m, own, other, -, -, slip, slipped, round, -⟩ := refusals 1 c _ caller fresh held.2.1
  rw [held.2.2.2] at slip slipped
  cases slip
  generalize ((opened s 1).run (heldUp (2 ^ 31 - 1))).desk.drawn = drawn at round ⊢
  have none_before : Desk.idsBefore drawn 0 = 0 := by
    unfold Desk.idsBefore
    rw [List.take_zero, List.countP_nil]
  match m, slipped with
  | 0, rfl => omega
  | 1, rfl => omega

end Drawing

end MarketLink.Session
