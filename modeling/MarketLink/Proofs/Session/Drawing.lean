import MarketLink.Proofs.Session.Causes

set_option autoImplicit false

namespace MarketLink.Session

open Correlation Message Wire

/-- The number that comes behind another one. -/
def following (number : Int) : Int := if number = greatestId then 1 else number + 1

theorem bump_of_ne_zero {number : Int} (begun : number ≠ 0) :
    bump number = (number, following number) := by
  unfold bump
  rw [if_neg begun]
  rfl

namespace Errand

def counter (errand : Errand) (t : Table) : Int := if errand.takesId then t.nextId else t.nextSeq

def setCounter (errand : Errand) (t : Table) (value : Int) : Table :=
  if errand.takesId then { t with nextId := value } else { t with nextSeq := value }

theorem keyFor_question (errand : Errand) (s : Session) :
    (s.keyFor errand.question).1 =
      { s with table := errand.setCounter s.table (bump (errand.counter s.table)).2 } := by
  rcases errand with (_ | _ | _ | _ | _) | (_ | _) <;> rfl

theorem number_of_counter {errand : Errand} {t : Table} (begun : errand.counter t ≠ 0) :
    errand.number t = .ok (errand.counter t) := by
  rw [number_eq]
  unfold counter at begun ⊢
  split
  · rename_i takes
    rw [if_pos takes] at begun
    unfold Table.allocate
    dsimp only
    rw [bump_of_ne_zero begun, if_neg begun]
  · rename_i other
    rw [if_neg other] at begun
    rw [bump_of_ne_zero begun]

end Errand

namespace Desk

/-- A number is handed out for an errand, and the counter goes to the next one. -/
def take (w : Desk) (errand : Errand) (number : Int) : Desk :=
  { w with
    office.crowd.race.session.table := errand.setCounter w.session.table (following number)
    drawn := w.drawn ++ [(errand, number)] }

theorem take_eq {w : Desk} {errand : Errand} {number : Int} (allowed : errand.check = .ok ())
    (current : errand.counter w.session.table = number) (begun : number ≠ 0) :
    w.take errand number = w.step (.draw errand) := by
  subst current
  have given : errand.draw w.session.table = .ok (errand.counter w.session.table) := by
    rw [← Errand.number_of_counter begun]
    unfold Errand.draw
    rw [allowed]
    rfl
  have left := errand.keyFor_question w.session
  rw [bump_of_ne_zero begun] at left
  have drawn : w.step (.draw errand) =
      { w with
        office.crowd.race.session := (w.session.keyFor errand.question).1
        drawn := w.drawn ++ [(errand, errand.counter w.session.table)] } := by
    rw [step, given]
    rfl
  rw [drawn, left]
  rfl

theorem Numbered.counter_ne_zero {w : Desk} {first : Int} (numbered : w.Numbered first)
    (errand : Errand) :
    errand.counter w.session.table ≠ 0 := by
  unfold Errand.counter
  split
  · have isNumber := numbered.counter ▸ isNumber_idAt first _
    exact fun zero => absurd (zero ▸ isNumber.1) (by decide)
  · exact fun zero => absurd (zero ▸ numbered.sequence.1) (by decide)

def idsOf (drawn : List (Errand × Int)) : List Int :=
    (drawn.filter fun come => come.1.takesId).map Prod.snd

theorem length_idsOf (drawn : List (Errand × Int)) :
    (idsOf drawn).length = idsBefore drawn drawn.length := by
  unfold idsOf idsBefore
  rw [List.length_map, List.take_length, List.countP_eq_length_filter]

/-- When each id is the one behind those that were drawn before, they are in order. -/
theorem idsOf_eq {drawn : List (Errand × Int)} {first : Int}
    (ids : ∀ draw errand number, drawn[draw]? = some (errand, number) → errand.takesId = true →
      number = idAt first (idsBefore drawn draw)) :
    idsOf drawn = (List.range (idsOf drawn).length).map (idAt first) := by
  induction drawn using List.reverseRecOn with
  | nil => rfl
  | append_singleton before last ih =>
    obtain ⟨errand, number⟩ := last
    have earlier : idsOf before = (List.range (idsOf before).length).map (idAt first) := by
      refine ih fun draw other also there takes => ?_
      have inside := (List.getElem?_eq_some_iff.mp there).1
      rw [← idsBefore_concat inside.le (errand, number)]
      exact ids draw other also ((List.getElem?_append_left inside).trans there) takes
    have whole : idsOf (before ++ [(errand, number)]) =
        idsOf before ++ if errand.takesId then [number] else [] := by
      unfold idsOf
      rw [List.filter_append, List.map_append, List.filter_singleton]
      cases errand.takesId <;> rfl
    rw [whole]
    split
    · rename_i takes
      have own : number = idAt first (idsOf before).length := by
        have there := ids before.length errand number List.getElem?_concat_length takes
        rw [idsBefore_concat (Nat.le_refl _), ← length_idsOf] at there
        exact there
      rw [List.length_append, List.length_singleton, List.range_succ, List.map_append,
        ← earlier, own]
      rfl
    · rw [List.append_nil]
      exact earlier

end Desk

/-- How far somebody is who draws a number. -/
inductive Drawer.Stage where
  | fresh
  | saw (value : Int)
  /-- The counter was seen at zero, where nothing is drawn. -/
  | unseeded
  | drew (draw : Nat)
  deriving Repr, DecidableEq

/-- Somebody who draws a number for an errand. -/
structure Drawer where
  errand : Errand
  stage : Drawer.Stage := .fresh

def Drawer.Stage.ofCounter (value : Int) : Drawer.Stage :=
    if value = 0 then .unseeded else .saw value

/-- A desk with everybody who has begun to draw. -/
structure Drawing where
  desk : Desk
  drawers : List Drawer := []

namespace Drawing

/-- Something that can happen next. -/
inductive Move where
  | approach (errand : Errand)
  | look (n : Nat)
  /-- Somebody tries to put the next number there, which may fail for no reason. -/
  | exchange (n : Nat) (fails : Bool)
  | other (move : Desk.Move)

def place (w : Drawing) (n : Nat) (errand : Errand) (stage : Drawer.Stage) : Drawing :=
  { w with drawers := w.drawers.set n ⟨errand, stage⟩ }

/-- What a move leads to; one that is not possible now does not happen. -/
def step (w : Drawing) : Move → Drawing
  | .approach errand =>
    match errand.check with
    | .ok _ => { w with drawers := w.drawers ++ [⟨errand, .fresh⟩] }
    | .error _ => w
  | .look n =>
    match w.drawers[n]? with
    | some ⟨errand, .fresh⟩ => w.place n errand (.ofCounter (errand.counter w.desk.session.table))
    | _ => w
  | .exchange n fails =>
    match w.drawers[n]? with
    | some ⟨errand, .saw value⟩ =>
      if errand.counter w.desk.session.table = value ∧ fails = false then
        { w.place n errand (.drew w.desk.drawn.length) with desk := w.desk.take errand value }
      else w.place n errand (.ofCounter (errand.counter w.desk.session.table))
    | _ => w
  | .other (.draw _) => w
  | .other move => { w with desk := w.desk.step move }

def run (w : Drawing) (moves : List Move) : Drawing := moves.foldl step w

def opened (s : Session) (firstId : Int) : Drawing := { desk := Desk.opened s firstId }

def ids (w : Drawing) : List Int := Desk.idsOf w.desk.drawn

theorem run_append (w : Drawing) (first second : List Move) :
    w.run (first ++ second) = (w.run first).run second := List.foldl_append

def stage? (w : Drawing) (n : Nat) : Option Drawer.Stage := (w.drawers[n]?).map Drawer.stage

/-- What holds of a drawer: its errand is allowed, and what it was handed out is there. -/
def Fits (drawn : List (Errand × Int)) (d : Drawer) : Prop :=
  d.errand.check = .ok () ∧
    match d.stage with
    | .fresh => True
    | .saw value => value ≠ 0
    | .unseeded => False
    | .drew draw => (drawn[draw]?).map Prod.fst = some d.errand

/-- What holds between moves. -/
structure Sound (w : Drawing) (first : Int) : Prop where
  numbered : w.desk.Numbered first
  fits : ∀ d ∈ w.drawers, Fits w.desk.drawn d
  apart : ∀ n m draw, w.stage? n = some (.drew draw) → w.stage? m = some (.drew draw) → n = m
  owned : ∀ draw < w.desk.drawn.length, ∃ n, w.stage? n = some (.drew draw)

variable {w : Drawing} {first : Int} {n : Nat} {errand : Errand} {stage : Drawer.Stage}

theorem Fits.concat {drawn : List (Errand × Int)} {d : Drawer} (fits : Fits drawn d)
    (last : Errand × Int) :
    Fits (drawn ++ [last]) d := by
  obtain ⟨allowed, suits⟩ := fits
  refine ⟨allowed, ?_⟩
  cases stage : d.stage with
  | drew draw =>
    rw [stage] at suits
    obtain ⟨come, there, same⟩ := Option.map_eq_some_iff.mp suits
    have inside := (List.getElem?_eq_some_iff.mp there).1
    show ((drawn ++ [last])[draw]?).map Prod.fst = _
    rw [List.getElem?_append_left inside, there, Option.map_some, same]
  | fresh | saw _ | unseeded =>
    rw [stage] at suits
    exact suits

theorem ofCounter_of_begun {value : Int} (begun : value ≠ 0) :
    Drawer.Stage.ofCounter value = .saw value :=
  if_neg begun

theorem stage?_place {d : Drawer} (there : w.drawers[n]? = some d) (m : Nat) :
    (w.place n errand stage).stage? m = if n = m then some stage else w.stage? m := by
  have inside := (List.getElem?_eq_some_iff.mp there).1
  unfold stage? place
  dsimp only
  rw [List.getElem?_set, if_pos inside]
  split
  · rfl
  · rfl

/-- Whoever has not drawn and goes on without a number takes nothing from the others. -/
theorem Sound.place (sound : w.Sound first) {d : Drawer} (there : w.drawers[n]? = some d)
    (before : ∀ draw, d.stage ≠ .drew draw) (after : ∀ draw, stage ≠ .drew draw)
    (fits : Fits w.desk.drawn ⟨errand, stage⟩) : (w.place n errand stage).Sound first := by
  have others : ∀ {m draw}, (w.place n errand stage).stage? m = some (.drew draw) ↔
      w.stage? m = some (.drew draw) := by
    intro m draw
    rw [stage?_place there]
    split
    · rename_i own
      subst own
      have own : w.stage? n = some d.stage := congrArg (Option.map Drawer.stage) there
      rw [own]
      exact iff_of_false (fun same => after draw (Option.some.inj same))
        fun same => before draw (Option.some.inj same)
    · exact Iff.rfl
  refine ⟨sound.numbered, fun d member => ?_, fun m k draw one two => ?_, fun draw inside => ?_⟩
  · rcases List.mem_or_eq_of_mem_set member with old | rfl
    · exact sound.fits d old
    · exact fits
  · exact sound.apart m k draw (others.mp one) (others.mp two)
  · obtain ⟨m, drew⟩ := sound.owned draw inside
    exact ⟨m, others.mpr drew⟩

/-- Whoever puts the next number there, with the counter at what it saw, has drawn in one step. -/
theorem Sound.take (sound : w.Sound first) {value : Int}
    (there : w.drawers[n]? = some ⟨errand, .saw value⟩)
    (current : errand.counter w.desk.session.table = value) :
    w.desk.take errand value = w.desk.step (.draw errand) ∧
      Sound { w.place n errand (.drew w.desk.drawn.length) with desk := w.desk.take errand value }
        first := by
  obtain ⟨allowed, begun⟩ := sound.fits _ (List.mem_of_getElem? there)
  have draw := Desk.take_eq allowed current begun
  have own : w.stage? n = some (.saw value) := congrArg (Option.map Drawer.stage) there
  have stages : ∀ m, ({ w.place n errand (.drew w.desk.drawn.length) with
      desk := w.desk.take errand value } : Drawing).stage? m =
        if n = m then some (.drew w.desk.drawn.length) else w.stage? m := stage?_place there
  -- what comes now was not handed out before
  have new : ∀ m, w.stage? m ≠ some (.drew w.desk.drawn.length) := by
    intro m drew
    obtain ⟨d, found, stage⟩ := Option.map_eq_some_iff.mp drew
    obtain ⟨-, suits⟩ := sound.fits d (List.mem_of_getElem? found)
    rw [stage] at suits
    have suits : (w.desk.drawn[w.desk.drawn.length]?).map Prod.fst = some d.errand := suits
    rw [List.getElem?_eq_none (Nat.le_refl _)] at suits
    cases suits
  refine ⟨draw, ?_, fun d member => ?_, fun m k which one two => ?_, fun which inside => ?_⟩
  · show (w.desk.take errand value).Numbered first
    rw [draw]
    exact sound.numbered.step (.draw errand)
  · rcases List.mem_or_eq_of_mem_set member with old | rfl
    · exact (sound.fits d old).concat (errand, value)
    · refine ⟨allowed, ?_⟩
      show ((w.desk.drawn ++ [(errand, value)])[w.desk.drawn.length]?).map Prod.fst = _
      rw [List.getElem?_concat_length]
      rfl
  · rw [stages] at one two
    split at one <;> split at two
    · rename_i first second
      exact first.symm.trans second
    · cases one
      exact absurd two (new k)
    · cases two
      exact absurd one (new m)
    · exact sound.apart m k which one two
  · have inside : which < (w.desk.drawn ++ [(errand, value)]).length := inside
    rw [List.length_append, List.length_singleton] at inside
    rcases Nat.lt_succ_iff_lt_or_eq.mp inside with old | rfl
    · obtain ⟨m, drew⟩ := sound.owned which old
      refine ⟨m, ?_⟩
      rw [stages, if_neg ?_]
      · exact drew
      · rintro rfl
        cases own.symm.trans drew
    · refine ⟨n, ?_⟩
      rw [stages, if_pos rfl]

theorem Sound.look (sound : w.Sound first) {d : Drawer} (there : w.drawers[n]? = some d)
    (before : ∀ draw, d.stage ≠ .drew draw) :
    let value := d.errand.counter w.desk.session.table
    Drawer.Stage.ofCounter value = .saw value ∧
      (w.place n d.errand (.ofCounter value)).Sound first := by
  intro value
  have begun : value ≠ 0 := sound.numbered.counter_ne_zero d.errand
  have saw := ofCounter_of_begun begun
  have allowed := (sound.fits d (List.mem_of_getElem? there)).1
  refine ⟨saw, ?_⟩
  rw [saw]
  exact sound.place there before nofun ⟨allowed, begun⟩

theorem Sound.approach (sound : w.Sound first) (allowed : errand.check = .ok ()) :
    Sound { w with drawers := w.drawers ++ [⟨errand, .fresh⟩] } first := by
  have others : ∀ {m draw},
      stage? { w with drawers := w.drawers ++ [⟨errand, .fresh⟩] } m = some (.drew draw) ↔
        w.stage? m = some (.drew draw) := by
    intro m draw
    unfold stage?
    dsimp only
    rw [List.getElem?_append]
    split
    · exact Iff.rfl
    · rename_i beyond
      rw [List.getElem?_eq_none (Nat.not_lt.mp beyond), List.getElem?_singleton]
      split <;> exact iff_of_false nofun nofun
  refine ⟨sound.numbered, fun d member => ?_, fun m k draw one two => ?_, fun draw inside => ?_⟩
  · rcases List.mem_append.mp member with old | now
    · exact sound.fits d old
    · rw [List.mem_singleton.mp now]
      exact ⟨allowed, trivial⟩
  · exact sound.apart m k draw (others.mp one) (others.mp two)
  · obtain ⟨m, drew⟩ := sound.owned draw inside
    exact ⟨m, others.mpr drew⟩

theorem Sound.other (sound : w.Sound first) {move : Desk.Move}
    (other : ∀ errand, move ≠ .draw errand) :
    Sound { w with desk := w.desk.step move } first := by
  have drawn := w.desk.drawn_step other
  refine ⟨sound.numbered.step move, fun d member => ?_, sound.apart, fun draw inside => ?_⟩
  · show Fits (w.desk.step move).drawn d
    rw [drawn]
    exact sound.fits d member
  · have inside : draw < (w.desk.step move).drawn.length := inside
    rw [drawn] at inside
    exact sound.owned draw inside

/-- Whatever is done leaves the desk as it is, or is one of its moves. -/
theorem Sound.step (sound : w.Sound first) (move : Move) :
    (w.step move).Sound first ∧ ∃ moves :
    List Desk.Move, (w.step move).desk = w.desk.run moves := by
  cases move with
  | approach errand =>
    unfold Drawing.step
    dsimp only
    split
    · rename_i allowed
      exact ⟨sound.approach allowed, [], rfl⟩
    · exact ⟨sound, [], rfl⟩
  | look n =>
    unfold Drawing.step
    dsimp only
    split
    · rename_i there
      exact ⟨(sound.look there nofun).2, [], rfl⟩
    · exact ⟨sound, [], rfl⟩
  | exchange n fails =>
    unfold Drawing.step
    dsimp only
    split
    · rename_i errand value there
      split
      · rename_i possible
        obtain ⟨draw, after⟩ := sound.take there possible.1
        exact ⟨after, [.draw errand], draw⟩
      · exact ⟨(sound.look there nofun).2, [], rfl⟩
    · exact ⟨sound, [], rfl⟩
  | other move =>
    cases move with
    | draw _ => exact ⟨sound, [], rfl⟩
    | come draw => exact ⟨sound.other nofun, [.come draw], rfl⟩
    | act act => exact ⟨sound.other nofun, [.act act], rfl⟩

theorem Sound.run (sound : w.Sound first) (moves : List Move) :
    (w.run moves).Sound first ∧ ∃ acts : List Desk.Move, (w.run moves).desk = w.desk.run acts := by
  induction moves generalizing w with
  | nil => exact ⟨sound, [], rfl⟩
  | cons move rest ih =>
    obtain ⟨next, now, one⟩ := sound.step move
    obtain ⟨after, later, all⟩ := ih next
    refine ⟨after, now ++ later, ?_⟩
    rw [run, List.foldl_cons, ← run, all, one]
    exact List.foldl_append.symm

theorem Sound.opened (s : Session) {firstId : Int} (isNumber : IsNumber firstId) :
    (opened s firstId).Sound firstId := by
  refine ⟨?_, nofun, nofun, nofun⟩
  have numbered := Desk.Numbered.opened s isNumber.2
  rw [Int.max_eq_left isNumber.1] at numbered
  exact numbered

theorem drawers_place {d : Drawer} (there : w.drawers[n]? = some d) :
    (w.place n errand stage).drawers[n]? = some ⟨errand, stage⟩ := by
  have inside := (List.getElem?_eq_some_iff.mp there).1
  unfold place
  rw [List.getElem?_set_self inside]

theorem Sound.exchange (sound : w.Sound first)
    (there : w.drawers[n]? = some ⟨errand, .saw (errand.counter w.desk.session.table)⟩) :
    (w.step (.exchange n false)).desk = w.desk.step (.draw errand) ∧
      (w.step (.exchange n false)).drawers[n]? = some ⟨errand, .drew w.desk.drawn.length⟩ := by
  obtain ⟨draw, -⟩ := sound.take there rfl
  have drawn : w.step (.exchange n false) =
      { w.place n errand (.drew w.desk.drawn.length) with desk := w.desk.step (.draw errand) } := by
    simp only [Drawing.step, there, and_self, if_true, draw]
  rw [drawn]
  exact ⟨rfl, drawers_place there⟩

theorem step_exchange_of_drew {draw : Nat} (there : w.drawers[n]? = some ⟨errand, .drew draw⟩) :
    w.step (.exchange n false) = w := by
  rw [Drawing.step, there]

/-- Whoever is not disturbed has a number after a look and two exchanges. -/
theorem Sound.drew (sound : w.Sound first) {d : Drawer} (there : w.drawers[n]? = some d)
    (before : ∀ draw, d.stage ≠ .drew draw) :
    let after := w.run [.look n, .exchange n false, .exchange n false]
    after.desk = w.desk.step (.draw d.errand) ∧
      after.stage? n = some (.drew w.desk.drawn.length) := by
  obtain ⟨errand, stage⟩ := d
  let value := errand.counter w.desk.session.table
  let renewed := w.place n errand (.ofCounter value)
  obtain ⟨sees, still⟩ := sound.look there before
  have sees : Drawer.Stage.ofCounter value = .saw value := sees
  have renewal : renewed.drawers[n]? = some ⟨errand, .saw value⟩ := by
    rw [← sees]
    exact drawers_place there
  obtain ⟨draw, drew⟩ := Sound.exchange (w := renewed) still renewal
  have drew : (renewed.step (.exchange n false)).drawers[n]? =
      some ⟨errand, .drew w.desk.drawn.length⟩ := drew
  show let after := ((w.step (.look n)).step (.exchange n false)).step (.exchange n false)
    after.desk = _ ∧ after.stage? n = _
  cases stage with
  | fresh =>
    have looked : w.step (.look n) = renewed := by rw [Drawing.step, there]
    rw [looked, step_exchange_of_drew drew]
    exact ⟨draw, congrArg (Option.map Drawer.stage) drew⟩
  | saw old =>
    have looked : w.step (.look n) = w := by rw [Drawing.step, there]
    rw [looked]
    by_cases current : value = old
    · obtain ⟨draw, drew⟩ := sound.exchange (current ▸ there)
      rw [step_exchange_of_drew drew]
      exact ⟨draw, congrArg (Option.map Drawer.stage) drew⟩
    · -- what was seen is out of date, so the first exchange is a look
      have again : w.step (.exchange n false) = renewed := by
        rw [Drawing.step, there]
        exact if_neg fun possible => current possible.1
      rw [again]
      exact ⟨draw, congrArg (Option.map Drawer.stage) drew⟩
  | unseeded => exact (sound.fits _ (List.mem_of_getElem? there)).2.elim
  | drew draw => exact absurd rfl (before draw)

end Drawing

end MarketLink.Session
