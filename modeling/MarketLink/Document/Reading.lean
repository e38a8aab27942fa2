import MarketLink.Document.Scalar

set_option autoImplicit false

namespace MarketLink.Document

open Reader

/-- A list in brackets, whose items may stand on several lines, with a comma behind each but the
last, which may have one. -/
def bracketed (item : Reader Value) : Reader Value := do
  exactly ['[']
  untilDone (fun items => do
    skipLines
    if ← accept [']'] then return .inr (.list items.reverse)
    else
      let items := (← item) :: items
      skipLines
      if ← accept [','] then return .inl items
      else
        exactly [']']
        return .inr (.list items.reverse)) []

def assignment (item : Reader Value) : Reader (List String × Value) := do
  let names ← key
  exactly ['=']
  skipSpaces
  return (names, ← item)

def braced (item : Reader Value) : Reader Value := do
  exactly ['\x7b']
  skipSpaces
  if ← accept ['\x7d'] then return .table .inline []
  else
    untilDone (fun entries => do
      let (names, value) ← assignment item
      skipSpaces
      match putKey value names entries with
      | none => refuse
      | some entries =>
        if ← accept [','] then return .inl entries
        else
          exactly ['\x7d']
          return .inr (.table .inline entries)) []

/-- A value that holds at most so many others inside each other. -/
def value : Nat → Reader Value
  | 0 => scalar
  | depth + 1 => do
    match ← peek with
    | some '[' => bracketed (value depth)
    | some '\x7b' => braced (value depth)
    | _ => scalar

/-- What has been read of a document, and the path of the header that is in force. -/
structure Draft where
  entries : Entries := []
  header : List String := []

def Draft.assign (draft : Draft) (names : List String) (value : Value) : Option Draft := do
  let entries ← changeAt false (putKey value names) draft.header draft.entries
  some { draft with entries }

/-- Puts a header in force, which opens its table with `start`. -/
def Draft.head (draft : Draft) (start : String → Entries → Option Entries)
    (names : List String) : Option Draft := do
  let last ← names.getLast?
  let entries ← changeAt false (start last) names.dropLast draft.entries
  some ⟨entries, names⟩

def headerLine (draft : Draft) : Reader Draft := do
  exactly ['[']
  if ← accept ['['] then
    let names ← key
    exactly [']', ']']
    draft.head openNext names
  else
    let names ← key
    exactly [']']
    draft.head openTable names

def line (draft : Draft) : Reader (Draft ⊕ Entries) := do
  skipSpaces
  match ← peek with
  | none => return .inr draft.entries
  | some '#' | some '\n' | some '\r' => do
    restOfLine
    return .inl draft
  | some '[' => do
    let draft ← headerLine draft
    restOfLine
    return .inl draft
  | some _ => do
    let (names, value) ← assignment (value (depthLimit - 1))
    let draft ← draft.assign names value
    restOfLine
    return .inl draft

/-- The character that may stand in front of a document to tell its encoding. -/
def byteOrderMark : Char := '\ufeff'

def read? (text : String) : Option Entries :=
  let reader : Reader Entries := do
    let _ ← accept [byteOrderMark]
    untilDone line {}
  (reader text.toList).map Prod.fst

end MarketLink.Document
