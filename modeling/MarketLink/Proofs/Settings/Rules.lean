import Mathlib.Data.List.Induction
import MarketLink.Settings.Basic

set_option autoImplicit false

namespace MarketLink

open Number Text

/-- What settings must keep to. -/
inductive Rule where
  | address
  | clientId
  | requestTimeout
  | offset
  deriving Repr, DecidableEq

def Rule.all : List Rule := [.address, .clientId, .requestTimeout, .offset]

theorem Rule.mem_all (rule : Rule) : rule ∈ Rule.all := by
  cases rule <;> decide

namespace Settings

/-- Settings keep to a rule. -/
def Keeps (s : Settings) : Rule → Prop
  | .address => ∃ c ∈ s.address.toList, isBlank c = false
  | .clientId => ∀ id ∈ s.clientId, 0 ≤ id
  | .requestTimeout => s.requestTimeout ≠ some .zero
  | .offset => -1440 < s.offsetMinutes ∧ s.offsetMinutes < 1440

instance (s : Settings) (rule : Rule) : Decidable (s.Keeps rule) :=
  match rule with
  -- by the characters of the address: an instance for any `∃ c : Char` would try them all
  | .address => List.decidableBEx (fun c => isBlank c = false) s.address.toList
  | .clientId => inferInstanceAs (Decidable (∀ id ∈ s.clientId, 0 ≤ id))
  | .requestTimeout => inferInstanceAs (Decidable (s.requestTimeout ≠ some .zero))
  | .offset => inferInstanceAs (Decidable (_ ∧ _))

/-- What is said of settings that break a rule. -/
def breach (s : Settings) : Rule → Failure
  | .address => .config "address is empty"
  | .clientId => .config ("client id " ++ wholeText (s.clientId.getD 0) ++ " is negative")
  | .requestTimeout => .config "request timeout of zero; leave it unset to wait indefinitely"
  | .offset =>
    .config ("timezone offset of " ++ wholeText s.offsetMinutes ++ " minutes is out of range")

def check (s : Settings) (rule : Rule) : Except Failure Unit :=
  if s.Keeps rule then .ok () else .error (s.breach rule)

def broken? (s : Settings) (rules : List Rule) : Option Rule :=
    rules.find? fun rule => ¬s.Keeps rule

variable {s : Settings}

theorem bind_eq_ok_iff {α β : Type} {first : Except Failure α} {next : α → Except Failure β}
    {b : β} :
    (first >>= next) = .ok b ↔ ∃ a, first = .ok a ∧ next a = .ok b := by
  cases first with
  | error failure => exact ⟨nofun, fun ⟨_, found, _⟩ => nomatch found⟩
  | ok a => exact ⟨fun found => ⟨a, rfl, found⟩, fun ⟨_, same, found⟩ => by cases same; exact found⟩

theorem isBlankText_address_iff : isBlankText s.address = true ↔ ¬s.Keeps .address := by
  simp [isBlankText, Keeps]

theorem checkClientId_eq (s : Settings) : s.checkClientId = s.check .clientId := by
  unfold checkClientId check
  cases named : s.clientId with
  | none => rw [if_pos (by simp [Keeps, named])]
  | some id =>
    by_cases negative : id < 0
    · have broken : ¬s.Keeps .clientId := by simpa [Keeps, named] using negative
      simp only [if_pos negative, if_neg broken, breach, named, Option.getD_some]
    · have kept : s.Keeps .clientId := by simpa [Keeps, named] using negative
      simp only [if_neg negative, if_pos kept]

/-- The seconds of an offset in the range are far from where 32 bits end; those of any other offset
are out of a day's range, or do not fit into 32 bits and are not looked at. -/
theorem offset_eq (s : Settings) :
    s.offset = (s.check .offset).map fun _ => s.offsetMinutes * 60 := by
  unfold offset secondsOfMinutes? check
  by_cases inside : s.Keeps .offset
  · obtain ⟨low, high⟩ := id inside
    have near : int32.Holds (s.offsetMinutes * 60) := by
      constructor <;> simp only [int32] <;> omega
    have zone : isZoneOffset (s.offsetMinutes * 60) = true := by
      simp only [isZoneOffset, Bool.and_eq_true, decide_eq_true_eq]
      omega
    rw [if_pos inside, if_pos near, Option.filter_some, if_pos zone]
    rfl
  · have beyond : isZoneOffset (s.offsetMinutes * 60) = false := by
      simp only [Keeps] at inside
      simp only [isZoneOffset, Bool.and_eq_false_iff, decide_eq_false_iff_not]
      omega
    rw [if_neg inside]
    by_cases near : int32.Holds (s.offsetMinutes * 60)
    · rw [if_pos near, Option.filter_some, beyond]
      rfl
    · rw [if_neg near]
      rfl

/-- In 32 bits that wrap around, these minutes would be 44 seconds. -/
example : ({ offsetMinutes := 71582789 } : Settings).offset.toOption = none := by rfl

theorem validate_eq_forM (s : Settings) : s.validate = forM Rule.all s.check := by
  have zero : s.requestTimeout = some .zero ↔ ¬s.Keeps .requestTimeout := Decidable.not_not.symm
  unfold validate Rule.all
  simp only [List.forM_cons, List.forM_nil, isBlankText_address_iff, zero, checkClientId_eq,
    offset_eq, check]
  by_cases address : s.Keeps .address
  · by_cases clientId : s.Keeps .clientId
    · by_cases timeout : s.Keeps .requestTimeout
      · by_cases offset : s.Keeps .offset <;> simp only [address, clientId, timeout, offset] <;> rfl
      · simp only [address, clientId, timeout]
        rfl
    · simp only [address, clientId]
      rfl
  · simp only [address]
    rfl

theorem forM_check (s : Settings) (rules : List Rule) :
    forM rules s.check =
      match s.broken? rules with
      | none => .ok ()
      | some rule => .error (s.breach rule) := by
  induction rules with
  | nil => rfl
  | cons rule rest ih =>
    unfold broken? at ih ⊢
    rw [List.forM_cons, check, List.find?_cons]
    by_cases kept : s.Keeps rule
    · simp only [kept, ↓reduceIte, not_true_eq_false, decide_false]
      exact ih
    · simp only [kept, ↓reduceIte, not_false_eq_true, decide_true]
      rfl

theorem broken?_eq_none_iff : s.broken? Rule.all = none ↔ ∀ rule, s.Keeps rule := by
  simp only [broken?, List.find?_eq_none, decide_not, Bool.not_eq_true', decide_eq_false_iff_not,
    Decidable.not_not]
  exact ⟨fun kept rule => kept rule rule.mem_all, fun kept rule _ => kept rule⟩

theorem broken?_eq_some_iff {rules : List Rule} {rule : Rule} :
    s.broken? rules = some rule ↔
      ∃ front later, rules = front ++ rule :: later ∧ (∀ earlier ∈ front, s.Keeps earlier) ∧
        ¬s.Keeps rule := by
  simp only [broken?, List.find?_eq_some_iff_append, decide_eq_true_eq, decide_not,
    Bool.not_eq_true', decide_eq_false_iff_not, Bool.not_not]
  constructor
  · rintro ⟨broken, front, later, same, kept⟩
    exact ⟨front, later, same, kept, broken⟩
  · rintro ⟨front, later, same, kept, broken⟩
    exact ⟨broken, front, later, same, kept⟩

theorem validate_eq_ok_iff : s.validate = .ok () ↔ ∀ rule, s.Keeps rule := by
  rw [validate_eq_forM, forM_check, ← broken?_eq_none_iff]
  cases s.broken? Rule.all <;> simp

theorem validate_eq_error_iff {failure : Failure} :
    s.validate = .error failure ↔ ∃ rule, s.broken? Rule.all = some rule ∧
    failure = s.breach rule := by
  rw [validate_eq_forM, forM_check]
  cases s.broken? Rule.all with
  | none => simp
  | some rule => simp [eq_comm]

theorem validated_eq_ok_iff {found : Settings} :
    s.validated = .ok found ↔ s = found ∧ found.validate = .ok () := by
  unfold validated
  rw [bind_eq_ok_iff]
  constructor
  · rintro ⟨_, valid, same⟩
    cases same
    exact ⟨rfl, valid⟩
  · rintro ⟨rfl, valid⟩
    exact ⟨(), valid, rfl⟩

theorem offset_of_valid (valid : s.validate = .ok ()) : s.offset = .ok (s.offsetMinutes * 60) := by
  rw [offset_eq, check, if_pos (validate_eq_ok_iff.mp valid .offset)]
  rfl

theorem resolveClientId_nonneg {fresh : Int} (valid : s.validate = .ok ()) (drawn : 0 ≤ fresh) :
    0 ≤ s.resolveClientId fresh := by
  have kept := validate_eq_ok_iff.mp valid .clientId
  unfold resolveClientId
  cases named : s.clientId with
  | none => exact drawn
  | some id => exact kept id named

end Settings

def Change.rule? : Change → Option Rule
  | .address _ => some .address
  | .clientId _ => some .clientId
  | .offsetMinutes _ => some .offset
  | .requestTimeout _ => some .requestTimeout
  | .connectOptions _ | .optionalCapabilities _ | .dialTimeout _ | .connectTimeout _ | .writeTimeout
    _ => none

def Change.alone (change : Change) : Settings := ({} : Settings).change change

def Rule.latest? (rule : Rule) (changes : List Change) : Option Change :=
  (changes.filter fun change => change.rule? = some rule).getLast?

namespace Settings

/-- A change decides about its own rule, whatever was there before, and about no other. -/
theorem keeps_change (s : Settings) (change : Change) (rule : Rule) :
    (s.change change).Keeps rule ↔
      if change.rule? = some rule then change.alone.Keeps rule else s.Keeps rule := by
  cases change <;> cases rule <;> exact Iff.rfl

theorem keeps_changes (base : Settings) (changes : List Change) (rule : Rule) :
    (changes.foldl Settings.change base).Keeps rule ↔
      match rule.latest? changes with
      | some change => change.alone.Keeps rule
      | none => base.Keeps rule := by
  induction changes using List.reverseRecOn with
  | nil => exact Iff.rfl
  | append_singleton front change ih =>
    unfold Rule.latest? at ih ⊢
    rw [List.foldl_append, List.foldl_cons, List.foldl_nil, keeps_change, List.filter_append]
    by_cases about : change.rule? = some rule
    · simp [about]
    · simp only [about, if_false]
      simpa [about] using ih

end Settings

end MarketLink
