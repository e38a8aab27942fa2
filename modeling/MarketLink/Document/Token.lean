import MarketLink.Document.Value

set_option autoImplicit false

namespace MarketLink.Document

/-- Takes something off the front of a text, or refuses the text. -/
abbrev Reader (α : Type) := StateT (List Char) Option α

namespace Reader

def refuse {α : Type} : Reader α := fun _ => none

def peek : Reader (Option Char) := fun cs => some (cs.head?, cs)

def next : Reader Char
  | [] => none
  | c :: rest => some (c, rest)

def run (holds : Char → Bool) : Reader (List Char) := fun cs => some (cs.span holds)

def exactly : List Char → Reader Unit
  | [] => pure ()
  | c :: more => do
    if (← next) == c then exactly more else refuse

/-- Takes the given characters if they come next; says whether they did. -/
def accept (expected : List Char) : Reader Bool :=
  (do exactly expected; return true) <|> pure false

def count (holds : Char → Bool) : Nat → Reader (List Char)
  | 0 => pure []
  | n + 1 => do
    let c ← next
    if holds c then return c :: (← count holds n) else refuse

def taken {α : Type} (reader : Reader α) : Reader (List Char) := fun cs =>
  (reader cs).map fun (_, rest) => (cs.take (cs.length - rest.length), rest)

/-- Repeats a step until it gives a result, at most `fuel` times. -/
def loop {σ α : Type} (step : σ → Reader (σ ⊕ α)) : Nat → σ → Reader α
  | 0, _ => refuse
  | fuel + 1, state => do
    match ← step state with
    | .inl state => loop step fuel state
    | .inr result => return result

/-- Repeats a step until it gives a result. A step that gives none takes at least one character, so
there are at most as many steps as characters, and one more. -/
def untilDone {σ α : Type} (step : σ → Reader (σ ⊕ α)) (start : σ) : Reader α := fun cs =>
  loop step (cs.length + 1) start cs

end Reader

open Reader

def isSpace (c : Char) : Bool := c == ' ' || c == '\t'

def skipSpaces : Reader Unit := do
  let _ ← run isSpace

def lineEnd : Reader Unit := exactly ['\n'] <|> exactly ['\r', '\n']

/-- Characters that stand for themselves in comments and texts: all but the ASCII controls, of which
only the tab does. -/
def isPlain (c : Char) : Bool := c == '\t' || (' ' ≤ c && c != '\x7f')

def comment : Reader Unit := do
  exactly ['#']
  let _ ← run isPlain

def restOfLine : Reader Unit := do
  skipSpaces
  let _ ← optional comment
  match ← peek with
  | none => return ()
  | some _ => lineEnd

def skipLines : Reader Unit :=
  untilDone (fun _ => do
    skipSpaces
    match ← peek with
    | some '#' => do
      comment
      lineEnd
      return .inl ()
    | some '\n' | some '\r' => do
      lineEnd
      return .inl ()
    | _ => return .inr ()) ()

def isHexDigit (c : Char) : Bool :=
  c.isDigit || ('a' ≤ c && c ≤ 'f') || ('A' ≤ c && c ≤ 'F')

def digitOf (c : Char) : Nat :=
  if c.isDigit then c.toNat - '0'.toNat
  else if 'a' ≤ c then c.toNat - 'a'.toNat + 10
  else c.toNat - 'A'.toNat + 10

def digitsIn (base : Nat) (cs : List Char) : Nat := cs.foldl (fun n c => n * base + digitOf c) 0

def codePoint (width : Nat) : Reader Char := do
  let code := digitsIn 16 (← count isHexDigit width)
  if code.isValidChar then return Char.ofNat code else refuse

def escaped : Reader Char := do
  match ← next with
  | 'b' => return '\x08'
  | 't' => return '\t'
  | 'n' => return '\n'
  | 'f' => return '\x0c'
  | 'r' => return '\r'
  | '"' => return '"'
  | '\\' => return '\\'
  | 'u' => codePoint 4
  | 'U' => codePoint 8
  | _ => refuse

def textOf (reversed : List Char) : String := String.ofList reversed.reverse

/-- A text on one line between quotes of a kind; a backslash is an escape between double quotes. -/
def shortText (quote : Char) : Reader String := do
  exactly [quote]
  untilDone (fun done => do
    let c ← next
    if c == quote then return .inr (textOf done)
    else if c == '\\' && quote == '"' then return .inl ((← escaped) :: done)
    else if isPlain c then return .inl (c :: done)
    else refuse) []

/-- Skips the rest of a line and all blanks after it, behind a backslash at the end of the line. -/
def joinedLines : Reader Unit := do
  skipSpaces
  lineEnd
  let _ ← untilDone (fun _ => do
    skipSpaces
    match ← optional lineEnd with
    | some _ => return .inl ()
    | none => return .inr ()) ()

/-- One step in a text of several lines. Three quotes end the text; up to two more in front of them
belong to it. -/
def longStep (quote : Char) (done : List Char) : Reader (List Char ⊕ String) := do
  match ← run (· == quote) with
  | quotes@(_ :: _) =>
    let kept := min quotes.length 5
    set ((quotes.drop kept) ++ (← get))
    if kept < 3 then return .inl (List.replicate kept quote ++ done)
    else return .inr (textOf (List.replicate (kept - 3) quote ++ done))
  | [] =>
    match ← optional lineEnd with
    | some _ => return .inl ('\n' :: done)
    | none =>
      let c ← next
      if c == '\\' && quote == '"' then
        match ← optional joinedLines with
        | some _ => return .inl done
        | none => return .inl ((← escaped) :: done)
      else if isPlain c then return .inl (c :: done)
      else refuse

/-- A text on several lines between three quotes of a kind at either end. A line end right behind
the opening quotes does not belong to it. -/
def longText (quote : Char) : Reader String := do
  exactly [quote, quote, quote]
  let _ ← optional lineEnd
  untilDone (longStep quote) []

def quotedText : Reader String := do
  match ← peek with
  | some quote =>
    if quote == '"' || quote == '\x27' then longText quote <|> shortText quote else refuse
  | none => refuse

def isNameChar (c : Char) : Bool := c.isAlphanum || c == '_' || c == '-'

def name : Reader String := do
  match ← peek with
  | some '"' => shortText '"'
  | some '\x27' => shortText '\x27'
  | _ =>
    match ← run isNameChar with
    | [] => refuse
    | cs => return String.ofList cs

def depthLimit : Nat := 80

def key : Reader (List String) := do
  let names ← untilDone (fun names => do
    skipSpaces
    let names := (← name) :: names
    skipSpaces
    if ← accept ['.'] then return .inl names else return .inr names.reverse) []
  if names.length < depthLimit then return names else refuse

end MarketLink.Document
