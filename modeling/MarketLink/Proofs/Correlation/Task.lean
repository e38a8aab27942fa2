import MarketLink.Correlation.Operation
import MarketLink.Proofs.Correlation.Entry

set_option autoImplicit false

namespace MarketLink.Correlation

/-- A completion that is still to come: of which request, and with which failure. -/
abbrev Ending := Nat × Option Failure

/-- What is left to do of an operation. -/
inductive Task where
  | seek (target : Target) (handler : Handler)
  | serve (target : Target) (n : Nat) (handler : Handler)
  /-- The request that is pending under an id is taken out, to be failed. -/
  | evict (id : Int) (failure : Failure)
  | withdraw (n : Nat) (endings : List Ending)
  | clear (failure : Failure)
  | settle (endings : List Ending)

/-- What a step has done, as far as the end of requests goes. -/
inductive Deed where
  | ran (n : Nat)
  | hit (n : Nat)
  | completed (n : Nat) (first : Bool)
  deriving Repr, DecidableEq

/-- A request that was found by its code is completed after all. -/
def Target.lastEnding (n : Nat) : Target → List Ending
  | .id _ => []
  | .code _ => [(n, none)]

namespace Task

def idle : Task := .settle []

def isIdle : Task → Bool
  | .settle [] => true
  | _ => false

def ofVerdict (target : Target) (n : Nat) : Option (Except Failure Bool) → Task
  | none => .settle (target.lastEnding n)
  | some (.ok false) => .settle (target.lastEnding n)
  | some (.ok true) => .withdraw n ((n, none) :: target.lastEnding n)
  | some (.error failure) => .withdraw n ((n, some failure) :: target.lastEnding n)

def endings : Task → List Ending
  | .serve target n _ => target.lastEnding n
  | .withdraw _ endings => endings
  | .settle endings => endings
  | .seek _ _ | .evict _ _ | .clear _ => []

def leaving? : Task → Option Nat
  | .withdraw n _ => some n
  | .seek _ _ | .serve _ _ _ | .evict _ _ | .clear _ | .settle _ => none

def subjects : Task → List Nat
  | .serve _ n _ => [n]
  | .withdraw n endings => n :: endings.map Prod.fst
  | .settle endings => endings.map Prod.fst
  | .seek _ _ | .evict _ _ | .clear _ => []

def isEnding : Option (Except Failure Bool) → Bool
  | none | some (.ok false) => false
  | some (.ok true) | some (.error _) => true

/-- What showing a slot to a handler has done. There is no verdict when the request was done. -/
def deedsOfVerdict (n : Nat) (verdict : Option (Except Failure Bool)) : List Deed :=
  (if verdict.isSome then [.ran n] else []) ++ if isEnding verdict then [.hit n] else []

def advance (t : Table) : Task → Table × Task × List Deed
  | .seek target handler =>
    match t.find target with
    | (t, none) => (t, idle, [])
    | (t, some n) =>
      (t, .serve target n handler, match target with | .id _ => [] | .code _ => [.hit n])
  | .serve target n handler =>
    let (t, verdict) := t.handle n handler
    (t, ofVerdict target n verdict, deedsOfVerdict n verdict)
  | .evict id failure =>
    match t.takeId id with
    | (t, none) => (t, idle, [])
    | (t, some n) => (t, .settle [(n, some failure)], [.hit n])
  | .withdraw n endings => (t.unregister n, .settle endings, [])
  | .clear failure =>
    let (t, numbers) := t.takeAll
    (t, .settle (numbers.map fun n => (n, some failure)), numbers.map .hit)
  | .settle [] => (t, idle, [])
  | .settle ((n, failure) :: rest) =>
    let (t, first) := t.complete n failure
    (t, .settle rest, [.completed n first])

/-- Does a number of steps, with nobody in between. -/
def proceed : Nat → Table → Task → Table × Task
  | 0, t, task => (t, task)
  | count + 1, t, task => proceed count (task.advance t).1 (task.advance t).2.1

end Task

def Operation.task? (t : Table) : Operation → Option Task
  | .dispatch target handler => some (.seek target handler)
  | .fail id failure => some (.evict id failure)
  | .cancel n failure => some (.withdraw n [(n, some failure)])
  | .abandon n =>
    match (t.request? n).map Request.key with
    | some (.withoutId _ _) => some (.settle [(n, some .cancelled)])
    | _ => some (.withdraw n [(n, some .cancelled)])
  | .teardown failure => some (.clear failure)
  | _ => none

namespace Task

theorem proceed_succ (count : Nat) (t : Table) (task : Task) :
    proceed (count + 1) t task = proceed count (task.advance t).1 (task.advance t).2.1 := rfl

theorem proceed_settle (endings : List Ending) (t : Table) :
    proceed endings.length t (.settle endings) =
      (endings.foldl (fun t ending => (t.complete ending.1 ending.2).1) t, idle) := by
  induction endings generalizing t with
  | nil => rfl
  | cons ending rest ih => exact ih (t.complete ending.1 ending.2).1

theorem proceed_withdraw (n : Nat) (endings : List Ending) (t : Table) :
    proceed (endings.length + 1) t (.withdraw n endings) =
      (endings.foldl (fun t ending => (t.complete ending.1 ending.2).1) (t.unregister n), idle) :=
  proceed_settle endings (t.unregister n)

theorem proceed_ofVerdict (target : Target) (n : Nat) (verdict : Option (Except Failure Bool))
    (t : Table) :
    ∃ count, proceed count t (ofVerdict target n verdict) =
      ((target.lastEnding n).foldl (fun t ending => (t.complete ending.1 ending.2).1)
        (t.conclude n verdict), idle) := by
  rcases verdict with none | failure | last
  · exact ⟨_, proceed_settle (target.lastEnding n) t⟩
  · exact ⟨_, proceed_withdraw n ((n, some failure) :: target.lastEnding n) t⟩
  · cases last with
    | false => exact ⟨_, proceed_settle (target.lastEnding n) t⟩
    | true => exact ⟨_, proceed_withdraw n ((n, none) :: target.lastEnding n) t⟩

theorem proceed_seek (target : Target) (handler : Handler) (t : Table) :
    ∃ count, proceed count t (.seek target handler) = ((t.dispatch target handler).1, idle) := by
  unfold Table.dispatch
  rcases found : t.find target with ⟨after, none | n⟩
  · refine ⟨1, ?_⟩
    simp only [proceed, advance, found]
  · obtain ⟨count, concluded⟩ :=
      proceed_ofVerdict target n (after.handle n handler).2 (after.handle n handler).1
    refine ⟨count + 2, ?_⟩
    rw [proceed_succ]
    simp only [advance, found]
    rw [proceed_succ]
    cases target with
    | id _ => exact concluded
    | code _ => exact concluded

theorem proceed_operation (t : Table) (operation : Operation) (task : Task)
    (begun : operation.task? t = some task) :
    ∃ count, proceed count t task = ((t.perform operation).1, idle) := by
  cases operation with
  | dispatch target handler =>
    cases begun
    exact proceed_seek target handler t
  | fail id failure =>
    cases begun
    simp only [Table.perform, Table.fail]
    rcases taken : t.takeId id with ⟨after, none | n⟩
    · refine ⟨1, ?_⟩
      simp only [proceed, advance, taken]
    · refine ⟨2, ?_⟩
      simp only [proceed, advance, taken, idle]
  | cancel n failure =>
    cases begun
    exact ⟨2, proceed_withdraw n [(n, some failure)] t⟩
  | abandon n =>
    simp only [Operation.task?] at begun
    simp only [Table.perform, Table.abandon]
    generalize (t.request? n).map Request.key = key at begun ⊢
    cases key with
    | none =>
      cases begun
      exact ⟨2, proceed_withdraw n [(n, some .cancelled)] t⟩
    | some key =>
      cases key with
      | withoutId code seq =>
        cases begun
        exact ⟨1, proceed_settle [(n, some .cancelled)] t⟩
      | withId _ | ticker _ =>
        cases begun
        exact ⟨2, proceed_withdraw n [(n, some .cancelled)] t⟩
  | teardown failure =>
    cases begun
    refine ⟨(t.takeAll.2.map fun n => (n, some failure)).length + 1, ?_⟩
    rw [proceed_succ]
    refine (proceed_settle _ _).trans ?_
    rw [List.foldl_map]
    rfl
  | seed _ | allocate | create _ _ _ | register _ | hangUp _ | handle _ _ | complete _ _ =>
    cases begun

theorem exists_proceed_idle (t : Table) (task : Task) :
    ∃ count, (proceed count t task).2 = idle := by
  cases task with
  | seek target handler =>
    obtain ⟨count, finished⟩ := proceed_seek target handler t
    exact ⟨count, congrArg Prod.snd finished⟩
  | serve target n handler =>
    obtain ⟨count, finished⟩ :=
      proceed_ofVerdict target n (t.handle n handler).2 (t.handle n handler).1
    exact ⟨count + 1, congrArg Prod.snd finished⟩
  | evict id failure =>
    obtain ⟨count, finished⟩ := proceed_operation t (.fail id failure) _ rfl
    exact ⟨count, congrArg Prod.snd finished⟩
  | withdraw n endings => exact ⟨_, congrArg Prod.snd (proceed_withdraw n endings t)⟩
  | clear failure =>
    obtain ⟨count, finished⟩ := proceed_operation t (.teardown failure) _ rfl
    exact ⟨count, congrArg Prod.snd finished⟩
  | settle endings => exact ⟨_, congrArg Prod.snd (proceed_settle endings t)⟩

theorem eq_idle_of_isIdle {task : Task} (finished : task.isIdle = true) : task = idle := by
  unfold isIdle at finished
  split at finished
  · rfl
  · cases finished

end Task

end MarketLink.Correlation
