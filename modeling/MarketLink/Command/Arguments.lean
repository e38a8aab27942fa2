import MarketLink.Number.Whole

set_option autoImplicit false

namespace MarketLink.Command

open Number

structure OptionForm where
  name : String
  letter : Option Char := none
  takesValue : Bool := true
  accepts : String → Bool := fun _ => true

structure Found where
  options : List (String × String) := []
  operands : List String := []

/-- Why arguments give no command. -/
inductive Stop where
  | help
  | refused
  deriving Repr, DecidableEq

def Found.add (found : Found) (form : OptionForm) (value : String) : Except Stop Found :=
  if (found.options.lookup form.name).isSome || !form.accepts value then .error .refused
  else .ok { found with options := (form.name, value) :: found.options }

def Found.value? (found : Found) (name : String) : Option String := found.options.lookup name

def looksLikeOption : List Char → Bool
  | '-' :: _ :: _ => true
  | _ => false

/-- Reads an argument of options of one letter; gives the option that still waits for its value. -/
def readLetters (forms : List OptionForm) :
    Found → List Char → Except Stop (Found × Option OptionForm)
  | found, [] => .ok (found, none)
  | found, letter :: more =>
    match forms.find? fun form => form.letter == some letter with
    | none => .error (if letter = 'h' then .help else .refused)
    | some form =>
      if form.takesValue then
        match more with
        | [] => .ok (found, some form)
        | '=' :: value => (found.add form (String.ofList value)).map (·, none)
        | value => (found.add form (String.ofList value)).map (·, none)
      else
        match found.add form "" with
        | .ok found => readLetters forms found more
        | .error stop => .error stop

/-- Reads an argument of one option with a long name; gives the option if it still waits for its
value. -/
def readName (forms : List OptionForm) (found : Found) (arg : List Char) :
    Except Stop (Found × Option OptionForm) :=
  let name := String.ofList (arg.takeWhile (· != '='))
  let value := (arg.dropWhile (· != '=')).tail?.map String.ofList
  match forms.find? fun form => form.name == name, value with
  | none, value => .error (if name = "help" ∧ value.isNone then .help else .refused)
  | some form, none =>
    if form.takesValue then .ok (found, some form) else (found.add form "").map (·, none)
  | some form, some value =>
    if form.takesValue then (found.add form value).map (·, none) else .error .refused

def readOption (forms : List OptionForm) (found : Found) :
    List Char → Except Stop (Found × Option OptionForm)
  | '-' :: '-' :: name => readName forms found name
  | _ :: letters => readLetters forms found letters
  | [] => .error .refused

/-- Reads arguments up to the first operand; gives it and what follows. -/
def readGeneral (forms : List OptionForm) :
    Found → Option OptionForm → List String → Except Stop (Found × List String)
  | _, some _, [] => .error .refused
  | found, none, [] => .ok (found, [])
  | found, some form, arg :: rest =>
    if looksLikeOption arg.toList then .error .refused
    else
      match found.add form arg with
      | .ok found => readGeneral forms found none rest
      | .error stop => .error stop
  | found, none, arg :: rest =>
    if arg = "--" then .error .refused
    else if looksLikeOption arg.toList then
      match readOption forms found arg.toList with
      | .ok (found, waiting) => readGeneral forms found waiting rest
      | .error stop => .error stop
    else .ok (found, arg :: rest)

/-- Reads options and at most `room` operands. Behind two dashes everything is an operand. -/
def readOwn (forms : List OptionForm) :
    Nat → Found → Option OptionForm → List String → Except Stop Found
  | _, _, some _, [] => .error .refused
  | _, found, none, [] => .ok found
  | room, found, some form, arg :: rest =>
    if looksLikeOption arg.toList then .error .refused
    else
      match found.add form arg with
      | .ok found => readOwn forms room found none rest
      | .error stop => .error stop
  | room, found, none, arg :: rest =>
    if arg = "--" then
      if rest.length ≤ room then .ok { found with operands := found.operands ++ rest }
      else .error .refused
    else if looksLikeOption arg.toList then
      match readOption forms found arg.toList with
      | .ok (found, waiting) => readOwn forms room found waiting rest
      | .error stop => .error stop
    else
      match room with
      | 0 => .error .refused
      | room + 1 => readOwn forms room { found with operands := found.operands ++ [arg] } none rest

inductive Subcommand where
  | time
  | accounts
  | details (symbol exchange currency : String)
  | history (symbol duration barSize whatToShow : String)
  | ticks (symbol : String) (count : Nat) (snapshot : Bool)
  | depth (symbol : String) (rows count : Nat)
  deriving Repr, DecidableEq

structure Arguments where
  address : Option String
  clientId : Option Int
  debug : Bool
  command : Subcommand
  deriving Repr, DecidableEq

def isWhole (range : WholeRange) (s : String) : Bool := (readWhole range s).isOk

def wholeIn (range : WholeRange) (s : String) : Int := (readWhole range s).toOption.getD 0

def generalForms : List OptionForm :=
  [{ name := "address", letter := some 'a' },
    { name := "client-id", letter := some 'c', accepts := isWhole int32 },
    { name := "debug", letter := some 'd', takesValue := false }]

def countForm : OptionForm :=
  { name := "count", letter := some 'n', accepts := isWhole nat64 }

def commandForms : List (String × List OptionForm × Nat) :=
  [("time", [], 0),
    ("accounts", [], 0),
    ("details", [{ name := "exchange" }, { name := "currency" }], 1),
    ("history", [{ name := "duration" }, { name := "bar-size" }, { name := "what-to-show" }], 1),
    ("ticks", [countForm, { name := "snapshot", takesValue := false }], 1),
    ("depth", [{ name := "rows", accepts := isWhole nat64 }, countForm], 1)]

def Found.nat (found : Found) (name : String) (default : Nat) : Nat :=
  match found.value? name with
  | some value => (wholeIn nat64 value).toNat
  | none => default

def Found.text (found : Found) (name default : String) : String :=
  (found.value? name).getD default

def Found.command? (found : Found) (name : String) : Option Subcommand :=
  match name, found.operands with
  | "time", [] => some .time
  | "accounts", [] => some .accounts
  | "details", [symbol] =>
    some (.details symbol (found.text "exchange" "SMART") (found.text "currency" "USD"))
  | "history", [symbol] =>
    some (.history symbol (found.text "duration" "1 D") (found.text "bar-size" "1 hour")
      (found.text "what-to-show" "TRADES"))
  | "ticks", [symbol] =>
    some (.ticks symbol (found.nat "count" 20) (found.value? "snapshot").isSome)
  | "depth", [symbol] => some (.depth symbol (found.nat "rows" 5) (found.nat "count" 20))
  | _, _ => none

/-- What help can be asked about: everything, or one command by its name. -/
def isTopic : List String → Bool
  | [] => true
  | [name] => name == "help" || (commandForms.lookup name).isSome
  | _ => false

def readCommand (name : String) (rest : List String) : Except Stop Subcommand :=
  match commandForms.lookup name with
  | some (forms, room) =>
    match readOwn forms room {} none rest with
    | .error stop => .error stop
    | .ok found =>
      match found.command? name with
      | some command => .ok command
      | none => .error .refused
  | none =>
    .error (if name = "help" ∧ isTopic rest then .help else .refused)

def Arguments.read (args : List String) : Except Stop Arguments := do
  match ← readGeneral generalForms {} none args with
  | (_, []) => .error .refused
  | (found, name :: rest) =>
    let command ← readCommand name rest
    return {
      address := found.value? "address"
      clientId := (found.value? "client-id").map (wholeIn int32)
      debug := (found.value? "debug").isSome
      command }

end MarketLink.Command
