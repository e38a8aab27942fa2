import Mathlib.Data.List.Basic
import MarketLink.Gate

set_option autoImplicit false

namespace MarketLink

section Set

variable {α : Type} {xs : List α} {i : Nat} {x : α}

theorem countP_set_add (p : α → Bool) (there : xs[i]? = some x) (next : α) :
    (xs.set i next).countP p + (if p x then 1 else 0) = xs.countP p + if p next then 1 else 0 := by
  obtain ⟨inside, rfl⟩ := List.getElem?_eq_some_iff.mp there
  have counted : p xs[i] = true → 0 < xs.countP p := fun holds =>
    List.countP_pos_iff.mpr ⟨_, List.getElem_mem inside, holds⟩
  rw [List.countP_set inside]
  cases holds : p xs[i] with
  | true =>
    have some := counted holds
    simp only [↓reduceIte]
    omega
  | false => simp

theorem exists_mem_set {p : α → Prop} {next : α} (there : xs[i]? = some x)
    (somebody : ∃ y ∈ xs, p y) (on : p x → p next) : ∃ y ∈ xs.set i next, p y := by
  obtain ⟨other, member, holds⟩ := somebody
  obtain ⟨j, found⟩ := List.mem_iff_getElem?.mp member
  by_cases same : i = j
  · subst same
    cases there.symm.trans found
    have inside := (List.getElem?_eq_some_iff.mp there).1
    exact ⟨next, List.mem_set inside next, on holds⟩
  · refine ⟨other, List.mem_iff_getElem?.mpr ⟨j, ?_⟩, holds⟩
    rw [List.getElem?_set_ne same, found]

end Set

/-- Where somebody is who was given a guard. -/
inductive Holder where
  | holding
  /-- It has given the last guard back to a closed gate, and is about to notify. -/
  | notifying
  | gone
  deriving Repr, DecidableEq

/-- Somebody who waits; `late` says that the gate had closed before. -/
structure Watch where
  waiter : Waiter := .starting
  late : Bool
  deriving Repr, DecidableEq

def Watch.go (next : Waiter → Waiter) (x : Watch) : Watch := { x with waiter := next x.waiter }

/-- A gate with everybody who was given a guard and everybody who waits, and what closers were told,
the first one first. -/
structure Lobby where
  gate : Gate := {}
  holders : List Holder := []
  watches : List Watch := []
  closings : List Bool := []
  deriving Repr, DecidableEq

namespace Lobby

/-- Something that somebody can do next. -/
inductive Move where
  | acquire
  | release (n : Nat)
  /-- Whoever gave the last guard back notifies those who have enlisted. -/
  | notify (n : Nat)
  | close
  | wait
  | enlist (n : Nat)
  | look (n : Nat)
  | resume (n : Nat)
  deriving Repr, DecidableEq

def go (w : Lobby) (n : Nat) (next : Waiter → Waiter) : Lobby :=
  { w with watches := w.watches.modify n (Watch.go next) }

/-- What a move leads to; one that is not possible now does not happen. -/
def step (w : Lobby) : Move → Lobby
  | .acquire =>
    match w.gate.acquire with
    | (gate, true) => { w with gate, holders := w.holders ++ [.holding] }
    | (gate, false) => { w with gate }
  | .release n =>
    if w.holders[n]? = some .holding then
      let (gate, drained) := w.gate.release
      { w with gate, holders := w.holders.set n (if drained then .notifying else .gone) }
    else w
  | .notify n =>
    if w.holders[n]? = some .notifying then
      { w with holders := w.holders.set n .gone, watches := w.watches.map (Watch.go Waiter.notice) }
    else w
  | .close =>
    let (gate, first) := w.gate.beginClose
    { w with gate, closings := w.closings ++ [first] }
  | .wait => { w with watches := w.watches ++ [{ late := w.gate.closing }] }
  | .enlist n => w.go n Waiter.enlist
  | .look n => w.go n (Waiter.look w.gate)
  | .resume n => w.go n Waiter.resume

def run (w : Lobby) (moves : List Move) : Lobby := moves.foldl step w

theorem run_append (w : Lobby) (first second : List Move) :
    w.run (first ++ second) = (w.run first).run second := List.foldl_append

/-- Whoever holds a guard. -/
def isHolding (holder : Holder) : Bool := holder == .holding

/-- A late waiter has made sure of what it is past, and if it is parked it will be noticed. -/
structure Assured (w : Lobby) (waiter : Waiter) : Prop where
  closing : w.gate.closing = true
  drained : waiter = .returned → w.gate.active = 0
  heard : waiter = .parked false → 0 < w.gate.active ∨ ∃ holder ∈ w.holders, holder = .notifying

/-- What holds between moves. -/
structure Sound (w : Lobby) : Prop where
  guards : w.gate.active = w.holders.countP isHolding
  closings : w.closings =
    if w.gate.closing then true :: List.replicate (w.closings.length - 1) false else []
  /-- Only behind the closing, and when no guard is left, somebody is about to notify. -/
  notifying : .notifying ∈ w.holders → w.gate.closing = true ∧ w.gate.active = 0
  assured : ∀ x ∈ w.watches, x.late = true → w.Assured x.waiter

variable {w : Lobby} {n : Nat}

theorem Sound.active_pos (sound : w.Sound) (member : .holding ∈ w.holders) : 0 < w.gate.active := by
  rw [sound.guards]
  exact List.countP_pos_iff.mpr ⟨_, member, rfl⟩

theorem step_acquire_of_closing (closing : w.gate.closing = true) : w.step .acquire = w := by
  unfold Lobby.step Gate.acquire
  rw [if_pos closing]

theorem step_acquire_of_open (isOpen : w.gate.closing = false) :
    w.step .acquire =
      { w with
        gate := { w.gate with active := w.gate.active + 1 },
        holders := w.holders ++ [.holding] } := by
  unfold Lobby.step Gate.acquire
  rw [if_neg (Bool.eq_false_iff.mp isOpen)]

theorem Sound.acquire (sound : w.Sound) : (w.step .acquire).Sound := by
  cases closing : w.gate.closing with
  | true =>
    rw [step_acquire_of_closing closing]
    exact sound
  | false =>
    have never : ¬ w.gate.closing = true := Bool.eq_false_iff.mp closing
    rw [step_acquire_of_open closing]
    refine ⟨?_, sound.closings, fun member => ?_, fun x member late => ?_⟩
    · show w.gate.active + 1 = (w.holders ++ [Holder.holding]).countP isHolding
      rw [List.countP_append, ← sound.guards]
      rfl
    · have before : .notifying ∈ w.holders := (List.mem_append.mp member).resolve_right (by decide)
      exact absurd (sound.notifying before).1 never
    · exact absurd (sound.assured x member late).closing never

theorem step_release (there : w.holders[n]? = some .holding) :
    w.step (.release n) =
      { w with
        gate := w.gate.release.1
        holders := w.holders.set n (if w.gate.release.2 then .notifying else .gone) } := by
  unfold Lobby.step
  exact if_pos there

/-- A guard is given back. If it was the last one of a closed gate, those who wait will be
notified. -/
theorem Sound.release (sound : w.Sound) (there : w.holders[n]? = some .holding) :
    (w.step (.release n)).gate.active + 1 = w.gate.active ∧ (w.step (.release n)).Sound := by
  have out := sound.active_pos (List.mem_of_getElem? there)
  let after := if w.gate.release.2 then Holder.notifying else .gone
  have drained : w.gate.release.2 = true ↔ w.gate.closing = true ∧ w.gate.active - 1 = 0 := by
    unfold Gate.release
    rw [Bool.and_eq_true, beq_iff_eq]
  have released :
    w.step (.release n) = { w with gate := w.gate.release.1, holders := w.holders.set n after } :=
    step_release there
  rw [released]
  refine ⟨Nat.sub_add_cancel out, ?_, sound.closings, fun member => ?_, fun x member late => ?_⟩
  · have idle : isHolding after = false := by
      unfold after
      split <;> rfl
    have counted := countP_set_add isHolding there after
    rw [idle] at counted
    have counted : (w.holders.set n after).countP isHolding + 1 = w.holders.countP isHolding :=
      counted
    show w.gate.active - 1 = _
    rw [sound.guards, ← counted]
    rfl
  · rcases List.mem_or_eq_of_mem_set member with before | now
    · have none_out := (sound.notifying before).2
      omega
    · refine drained.mp ?_
      by_contra other
      have gone : after = .gone := if_neg other
      rw [gone] at now
      cases now
  · obtain ⟨closing, returned, -⟩ := sound.assured x member late
    refine ⟨closing, fun is => ?_, fun _ => ?_⟩
    · have none_out := returned is
      omega
    · by_cases last : w.gate.active - 1 = 0
      · have notifying : after = .notifying := if_pos (drained.mpr ⟨closing, last⟩)
        have inside := (List.getElem?_eq_some_iff.mp there).1
        exact Or.inr ⟨.notifying, notifying ▸ List.mem_set inside after, rfl⟩
      · exact Or.inl (Nat.pos_of_ne_zero last)

theorem step_notify (there : w.holders[n]? = some .notifying) :
    w.step (.notify n) =
      { w with
        holders := w.holders.set n .gone,
        watches := w.watches.map (Watch.go Waiter.notice) } := by
  unfold Lobby.step
  exact if_pos there

theorem Sound.notify (sound : w.Sound) (there : w.holders[n]? = some .notifying) :
    (w.step (.notify n)).Sound := by
  rw [step_notify there]
  refine ⟨?_, sound.closings, fun member => ?_, fun x member late => ?_⟩
  · exact sound.guards.trans (countP_set_add isHolding there .gone).symm
  · refine sound.notifying ((List.mem_or_eq_of_mem_set member).resolve_right ?_)
    decide
  · obtain ⟨before, was, rfl⟩ := List.mem_map.mp member
    obtain ⟨closing, returned, -⟩ := sound.assured before was late
    refine ⟨closing, fun is => returned ?_, fun is => ?_⟩
    · cases stands : before.waiter <;> simp only [Watch.go, stands, Waiter.notice] at is
      · cases is
      · cases is
      · cases is
      · rfl
    · cases stands : before.waiter <;> simp only [Watch.go, stands, Waiter.notice] at is <;>
        cases is

theorem Sound.close (sound : w.Sound) : (w.step .close).Sound := by
  refine ⟨sound.guards, ?_, fun member => ⟨rfl, (sound.notifying member).2⟩,
    fun x member late => ?_⟩
  · have told : (w.step .close).closings = w.closings ++ [!w.gate.closing] := rfl
    have closings := sound.closings
    rw [told]
    show _ = true :: List.replicate ((w.closings ++ [!w.gate.closing]).length - 1) false
    rw [List.length_append, List.length_singleton, Nat.add_sub_cancel]
    cases closing : w.gate.closing with
    | true =>
      rw [closing, if_pos rfl] at closings
      have length := congrArg List.length closings
      rw [List.length_cons, List.length_replicate] at length
      rw [length, closings, List.length_cons, List.length_replicate, List.replicate_succ']
      rfl
    | false =>
      rw [closing, if_neg Bool.false_ne_true] at closings
      rw [closings]
      rfl
  · obtain ⟨-, returned, heard⟩ := sound.assured x member late
    exact ⟨rfl, returned, heard⟩

theorem Sound.wait (sound : w.Sound) : (w.step .wait).Sound := by
  refine ⟨sound.guards, sound.closings, sound.notifying, fun x member late => ?_⟩
  rcases List.mem_append.mp member with before | now
  · obtain ⟨closing, returned, heard⟩ := sound.assured x before late
    exact ⟨closing, returned, heard⟩
  · cases List.mem_singleton.mp now
    exact ⟨late, nofun, nofun⟩

theorem Sound.go (sound : w.Sound) {next : Waiter → Waiter}
    (assured : ∀ waiter, w.Assured waiter → w.Assured (next waiter)) : (w.go n next).Sound := by
  refine ⟨sound.guards, sound.closings, sound.notifying, fun x member late => ?_⟩
  have same : ∀ {waiter}, w.Assured waiter → (w.go n next).Assured waiter := by
    rintro waiter ⟨closing, returned, heard⟩
    exact ⟨closing, returned, heard⟩
  obtain ⟨i, there⟩ := List.mem_iff_getElem?.mp member
  have there : (w.watches.modify n (Watch.go next))[i]? = some x := there
  rw [List.getElem?_modify] at there
  obtain ⟨before, was, now⟩ := Option.map_eq_some_iff.mp there
  have was := List.mem_of_getElem? was
  split at now <;> subst now
  · exact same (assured _ (sound.assured before was late))
  · exact same (sound.assured before was late)

theorem Assured.look {waiter : Waiter} (assured : w.Assured waiter) :
    w.Assured (Waiter.look w.gate waiter) := by
  cases waiter with
  | enlisted noticed =>
    unfold Waiter.look
    dsimp only
    split
    · rename_i none_out
      exact ⟨assured.closing, fun _ => none_out, nofun⟩
    · rename_i out
      exact ⟨assured.closing, nofun, fun _ => Or.inl (Nat.pos_of_ne_zero out)⟩
  | starting | parked _ | returned => exact assured

theorem Assured.enlist {waiter : Waiter} (assured : w.Assured waiter) :
    w.Assured waiter.enlist := by
  cases waiter with
  | starting => exact ⟨assured.closing, nofun, nofun⟩
  | enlisted _ | parked _ | returned => exact assured

theorem Assured.resume {waiter : Waiter} (assured : w.Assured waiter) :
    w.Assured waiter.resume := by
  cases waiter with
  | parked noticed =>
    cases noticed with
    | true => exact ⟨assured.closing, nofun, nofun⟩
    | false => exact assured
  | starting | enlisted _ | returned => exact assured

theorem Sound.step (sound : w.Sound) (move : Move) : (w.step move).Sound := by
  cases move with
  | acquire => exact sound.acquire
  | release n =>
    by_cases there : w.holders[n]? = some .holding
    · exact (sound.release there).2
    · have same : w.step (.release n) = w := if_neg there
      rw [same]
      exact sound
  | notify n =>
    by_cases there : w.holders[n]? = some .notifying
    · exact sound.notify there
    · have same : w.step (.notify n) = w := if_neg there
      rw [same]
      exact sound
  | close => exact sound.close
  | wait => exact sound.wait
  | enlist n => exact sound.go fun _ => Assured.enlist
  | look n => exact sound.go fun _ => Assured.look
  | resume n => exact sound.go fun _ => Assured.resume

theorem Sound.run (sound : w.Sound) (moves : List Move) : (w.run moves).Sound := by
  induction moves generalizing w with
  | nil => exact sound
  | cons move rest ih => exact ih (sound.step move)

theorem sound_empty : ({} : Lobby).Sound := ⟨rfl, rfl, nofun, nofun⟩

/-- A gate that has closed stays closed, and its guards become fewer at most. -/
structure Closed (w after : Lobby) : Prop where
  closing : after.gate.closing = true
  active : after.gate.active ≤ w.gate.active
  holders : after.holders.length = w.holders.length

theorem closed_step (closing : w.gate.closing = true) (move : Move) : Closed w (w.step move) := by
  cases move with
  | acquire =>
    rw [step_acquire_of_closing closing]
    exact ⟨closing, Nat.le_refl _, rfl⟩
  | release n =>
    unfold Lobby.step
    dsimp only
    split
    · exact ⟨closing, Nat.sub_le _ _, List.length_set⟩
    · exact ⟨closing, Nat.le_refl _, rfl⟩
  | notify n =>
    unfold Lobby.step
    dsimp only
    split
    · exact ⟨closing, Nat.le_refl _, List.length_set⟩
    · exact ⟨closing, Nat.le_refl _, rfl⟩
  | close => exact ⟨rfl, Nat.le_refl _, rfl⟩
  | wait | enlist n | look n | resume n => exact ⟨closing, Nat.le_refl _, rfl⟩

theorem closed_run (closing : w.gate.closing = true) (moves : List Move) :
    Closed w (w.run moves) := by
  induction moves generalizing w with
  | nil => exact ⟨closing, Nat.le_refl _, rfl⟩
  | cons move rest ih =>
    obtain ⟨still, active, holders⟩ := closed_step closing move
    obtain ⟨last, fewer, same⟩ := ih still
    exact ⟨last, Nat.le_trans fewer active, same.trans holders⟩

theorem watches_go {x : Watch} (there : w.watches[n]? = some x) (next : Waiter → Waiter) :
    (w.go n next).watches[n]? = some (x.go next) := by
  unfold go
  rw [List.getElem?_modify_eq, there]
  rfl

/-- When no guard is left and nobody is about to notify, who waits returns by steps of its own. -/
theorem Sound.returns (sound : w.Sound) {x : Watch} (there : w.watches[n]? = some x)
    (late : x.late = true) (drained : w.gate.active = 0) (silent : Holder.notifying ∉ w.holders) :
    (w.run [.look n, .resume n, .enlist n, .look n]).watches[n]? =
      some { x with waiter := .returned } := by
  have heard := (sound.assured x (List.mem_of_getElem? there) late).heard
  have enlisted := watches_go (watches_go (watches_go there (Waiter.look w.gate)) Waiter.resume)
    Waiter.enlist
  have gone := watches_go enlisted (Waiter.look w.gate)
  refine Eq.trans gone (congrArg some ?_)
  unfold Watch.go
  congr 1
  have leaves : ∀ noticed, Waiter.look w.gate (.enlisted noticed) = .returned :=
    fun _ => if_pos drained
  cases stands : x.waiter with
  | starting => exact leaves false
  | enlisted noticed =>
    rw [leaves]
    rfl
  | parked noticed =>
    cases noticed with
    | true => exact leaves false
    | false =>
      rcases heard stands with out | ⟨_, member, rfl⟩
      · exact absurd drained (Nat.ne_of_gt out)
      · exact absurd member silent
  | returned => rfl

/-- The gate in every run. It counts the guards that are out, and takes none back that is not out.
One closer is told to be the first, and it is. Behind the closing nobody acquires and the count
never grows. A notice reaches everybody who has enlisted. Whoever begins to wait behind the closing
has returned only when no guard is out, and none will be; while it is parked it has been noticed, or
a guard is out, or the gate is drained and somebody is about to notify; and when there is neither a
guard nor such a one, it returns by its own steps. -/
theorem closed_gate_wakes_whoever_waits (moves : List Move) :
    let w := ({} : Lobby).run moves
    w.gate.active = w.holders.countP isHolding ∧
    (∀ n : Nat, w.holders[n]? = some .holding →
      (w.step (.release n)).gate.active + 1 = w.gate.active) ∧
    (w.closings = [] ∧ w.gate.closing = false ∨
      ∃ others, w.closings = true :: List.replicate others false ∧ w.gate.closing = true) ∧
    (w.gate.closing = true → w.step .acquire = w ∧ ∀ later, Closed w (w.run later)) ∧
    (∀ m : Nat, w.holders[m]? = some .notifying → ∀ (n : Nat) (x : Watch), w.watches[n]? = some x →
      (w.step (.notify m)).watches[n]? = some { x with waiter := x.waiter.notice }) ∧
    ∀ (n : Nat) (x : Watch), w.watches[n]? = some x → x.late = true →
      (x.waiter = .returned → ∀ later, (w.run later).gate.active = 0 ∧
        Holder.holding ∉ (w.run later).holders) ∧
      (∀ noticed, x.waiter = .parked noticed → noticed = true ∨ Holder.holding ∈ w.holders ∨
        w.gate.active = 0 ∧ ∃ m : Nat, w.holders[m]? = some .notifying) ∧
      (Holder.holding ∉ w.holders → Holder.notifying ∉ w.holders →
        (w.run [.look n, .resume n, .enlist n, .look n]).watches[n]? =
        some { x with waiter := .returned }) := by
  intro w
  have sound : w.Sound := sound_empty.run moves
  have out : 0 < w.gate.active ↔ Holder.holding ∈ w.holders := by
    refine ⟨fun some_out => ?_, sound.active_pos⟩
    rw [sound.guards] at some_out
    obtain ⟨holder, member, holds⟩ := List.countP_pos_iff.mp some_out
    exact eq_of_beq holds ▸ member
  refine ⟨sound.guards, fun n there => (sound.release there).1, ?_, ?_, ?_, ?_⟩
  · have closings := sound.closings
    cases closing : w.gate.closing with
    | true =>
      rw [closing, if_pos rfl] at closings
      exact Or.inr ⟨_, closings, rfl⟩
    | false =>
      rw [closing, if_neg Bool.false_ne_true] at closings
      exact Or.inl ⟨closings, rfl⟩
  · exact fun closing => ⟨step_acquire_of_closing closing, closed_run closing⟩
  · intro m notifying n x there
    rw [step_notify notifying]
    show (w.watches.map _)[n]? = _
    rw [List.getElem?_map, there]
    rfl
  · intro n x there late
    obtain ⟨closing, returned, heard⟩ := sound.assured x (List.mem_of_getElem? there) late
    refine ⟨fun is later => ?_, fun noticed is => ?_, fun nobody silent => ?_⟩
    · have none_out : (w.run later).gate.active = 0 :=
        Nat.le_zero.mp (returned is ▸ (closed_run closing later).active)
      refine ⟨none_out, fun member => ?_⟩
      exact absurd none_out (Nat.ne_of_gt ((sound.run later).active_pos member))
    · cases noticed with
      | true => exact Or.inl rfl
      | false =>
        rcases heard is with some_out | ⟨_, member, rfl⟩
        · exact Or.inr (Or.inl (out.mp some_out))
        · exact Or.inr (Or.inr ⟨(sound.notifying member).2, List.mem_iff_getElem?.mp member⟩)
    · have drained : w.gate.active = 0 := Nat.eq_zero_of_not_pos (mt out.mp nobody)
      exact sound.returns there late drained silent

/-- One of two guards comes back while somebody waits, then the other one, and the notice has not
come yet. -/
def lastGuard : List Move :=
  [.acquire, .acquire, .close, .close, .acquire, .wait, .enlist 0, .release 1, .look 0, .release 0]

/-- Between the last release and its notice a waiter is parked, and it returns behind the notice. -/
theorem last_guard_is_noticed :
    let w := ({} : Lobby).run lastGuard
    let after := ({} : Lobby).run (lastGuard ++ [.notify 0])
    w.closings = [true, false] ∧ w.watches[0]? = some ⟨.parked false, true⟩ ∧
      (∃ m : Nat, w.holders[m]? = some .notifying) ∧
      after.watches[0]? = some ⟨.parked true, true⟩ ∧
      (after.run [.look 0, .resume 0, .enlist 0, .look 0]).watches[0]? =
      some ⟨.returned, true⟩ := by
  intro w after
  have there : w.watches[0]? = some ⟨.parked false, true⟩ := by decide
  have noticed : after.watches[0]? = some ⟨.parked true, true⟩ := by decide
  obtain ⟨-, -, -, -, -, waits⟩ := closed_gate_wakes_whoever_waits lastGuard
  obtain ⟨-, -, -, -, -, waitsAfter⟩ := closed_gate_wakes_whoever_waits (lastGuard ++ [.notify 0])
  obtain ⟨-, parked, -⟩ := waits 0 _ there rfl
  obtain ⟨-, -, returns⟩ := waitsAfter 0 _ noticed rfl
  have told : ∃ m : Nat, w.holders[m]? = some .notifying := by
    rcases parked false rfl with impossible | out | ⟨-, told⟩
    · cases impossible
    · exact absurd out (by decide)
    · exact told
  exact ⟨by decide, there, told, noticed, returns (by decide) (by decide)⟩

/-- What a script knows of a lobby. -/
structure Shows (w : Lobby) (r : Rundown) : Prop where
  gate : w.gate = r.gate
  guards : w.holders.map isHolding = r.guards
  waiters : w.watches.map Watch.waiter = r.waiters

section Script

variable {r : Rundown}

theorem Shows.acquire (shows : w.Shows r) : (w.step .acquire).Shows (r.act .acquire).1 := by
  obtain ⟨gate, guards, waiters⟩ := shows
  unfold Rundown.act
  rw [← gate]
  cases closing : w.gate.closing with
  | true =>
    have refused : w.gate.acquire = (w.gate, false) := if_pos closing
    rw [step_acquire_of_closing closing, refused]
    exact ⟨rfl, guards, waiters⟩
  | false =>
    have given : w.gate.acquire = ({ w.gate with active := w.gate.active + 1 }, true) :=
      if_neg (Bool.eq_false_iff.mp closing)
    rw [step_acquire_of_open closing, given]
    refine ⟨rfl, ?_, waiters⟩
    rw [← guards]
    exact List.map_append

theorem Shows.release (shows : w.Shows r) (there : w.holders[n]? = some .holding) :
    (w.run [.release n, .notify n]).Shows
      { r with
        gate := r.gate.release.1
        guards := r.guards.set n false
        waiters := if r.gate.release.2 then r.waiters.map Waiter.notice else r.waiters } := by
  obtain ⟨gate, guards, waiters⟩ := shows
  have inside := (List.getElem?_eq_some_iff.mp there).1
  have given : (w.holders.set n .gone).map isHolding = r.guards.set n false := by
    rw [List.map_set, guards]
    rfl
  show ((w.step (.release n)).step (.notify n)).Shows _
  rw [step_release there, ← gate]
  cases drained : w.gate.release.2 with
  | true =>
    rw [step_notify (List.getElem?_set_self inside)]
    refine ⟨rfl, ?_, ?_⟩
    · show ((w.holders.set n .notifying).set n .gone).map isHolding = _
      rw [List.set_set]
      exact given
    · show (w.watches.map (Watch.go Waiter.notice)).map Watch.waiter = r.waiters.map Waiter.notice
      rw [← waiters, List.map_map, List.map_map]
      rfl
  | false =>
    let left : Lobby := { w with gate := w.gate.release.1, holders := w.holders.set n .gone }
    have nobody : left.holders[n]? ≠ some .notifying := by
      rw [List.getElem?_set_self inside]
      decide
    have quiet : left.step (.notify n) = left := if_neg nobody
    show (left.step (.notify n)).Shows _
    rw [quiet]
    exact ⟨rfl, given, waiters⟩

theorem Shows.act (shows : w.Shows r) (s : Rundown.Step) :
    ∃ moves, (w.run moves).Shows (r.act s).1 := by
  cases s with
  | acquire => exact ⟨[.acquire], shows.acquire⟩
  | release n =>
    have held : r.guards[n]? = some true ↔ w.holders[n]? = some .holding := by
      rw [← shows.guards, List.getElem?_map, Option.map_eq_some_iff]
      exact ⟨fun ⟨holder, there, holds⟩ => eq_of_beq holds ▸ there, fun there => ⟨_, there, rfl⟩⟩
    unfold Rundown.act
    dsimp only
    by_cases there : w.holders[n]? = some .holding
    · rw [if_pos (held.mpr there)]
      exact ⟨[.release n, .notify n], shows.release there⟩
    · rw [if_neg (mt held.mp there)]
      exact ⟨[], shows⟩
  | close =>
    refine ⟨[.close], ?_, shows.guards, shows.waiters⟩
    exact congrArg (fun gate : Gate => gate.beginClose.1) shows.gate
  | wait =>
    refine ⟨[.wait], shows.gate, shows.guards, ?_⟩
    show (w.watches ++ [_]).map Watch.waiter = r.waiters ++ [.starting]
    rw [List.map_append, shows.waiters]
    rfl

def polls (count : Nat) : List Move := (List.range count).flatMap fun n =>
    [.resume n, .enlist n, .look n]

theorem run_polls (w : Lobby) (count : Nat) :
    (w.run (polls count)).gate = w.gate ∧ (w.run (polls count)).holders = w.holders ∧
      ∀ i : Nat, (w.run (polls count)).watches[i]? =
        (w.watches[i]?).map fun x => if i < count then x.go (Waiter.poll w.gate) else x := by
  induction count with
  | zero =>
    refine ⟨rfl, rfl, fun i => ?_⟩
    exact Option.map_id'.symm
  | succ count ih =>
    obtain ⟨gate, holders, watches⟩ := ih
    have went : ∀ (v : Lobby) (next : Waiter → Waiter) (i : Nat), (v.go count next).watches[i]? =
        (v.watches[i]?).map fun x => if count = i then x.go next else x :=
      fun v next i => List.getElem?_modify _ _ v.watches i
    have whole : w.run (polls (count + 1)) =
        (((w.run (polls count)).go count Waiter.resume).go count Waiter.enlist).go count
          (Waiter.look (w.run (polls count)).gate) := by
      unfold polls
      rw [List.range_succ, List.flatMap_append, run_append]
      rfl
    rw [whole]
    refine ⟨gate, holders, fun i => ?_⟩
    rw [went, went, went, watches, gate, Option.map_map, Option.map_map, Option.map_map]
    congr 1
    funext x
    simp only [Function.comp_apply]
    by_cases own : count = i
    · subst own
      simp only [↓reduceIte, Nat.lt_irrefl, Nat.lt_succ_self]
      rfl
    · have other : i < count + 1 ↔ i < count := by omega
      simp only [if_neg own, other]

theorem Shows.settle (shows : w.Shows r) : ∃ moves, (w.run moves).Shows r.settle := by
  obtain ⟨gate, guards, waiters⟩ := shows
  obtain ⟨sameGate, sameHolders, polled⟩ := w.run_polls w.watches.length
  refine ⟨polls w.watches.length, sameGate.trans gate, (congrArg _ sameHolders).trans guards, ?_⟩
  show _ = r.waiters.map (Waiter.poll r.gate)
  rw [← gate, ← waiters, List.map_map]
  refine List.ext_getElem? fun i => ?_
  rw [List.getElem?_map, polled, List.getElem?_map, Option.map_map]
  cases there : w.watches[i]? with
  | none => rfl
  | some x =>
    have inside := (List.getElem?_eq_some_iff.mp there).1
    simp only [Option.map_some, Function.comp_apply, if_pos inside]
    rfl

/-- Whatever script is played behind a run, it is a run that goes on; so what holds in all runs
holds behind every step of a script. -/
theorem script_is_a_run (shows : w.Shows r) (steps : List Rundown.Step) :
    ∃ moves, (w.run moves).Shows (steps.foldl (fun r s => (r.step s).1) r) := by
  induction steps generalizing w r with
  | nil => exact ⟨[], shows⟩
  | cons s rest ih =>
    obtain ⟨acted, after⟩ := shows.act s
    obtain ⟨polled, settled⟩ := after.settle
    obtain ⟨later, last⟩ := ih settled
    refine ⟨acted ++ polled ++ later, ?_⟩
    rw [run_append, run_append]
    exact last

end Script

end Lobby

end MarketLink
