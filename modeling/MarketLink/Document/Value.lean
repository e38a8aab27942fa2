
set_option autoImplicit false

namespace MarketLink.Document

/-- How a table came about. -/
inductive Origin where
  | header
  | implied
  | dotted
  | inline
  deriving Repr, DecidableEq

inductive Value where
  | text (text : String)
  | whole (number : Int)
  | real (number : Float)
  | flag (yes : Bool)
  | moment (written : String)
  | list (items : List Value)
  | table (origin : Origin) (entries : List (String × Value))
  | tables (items : List Value)

abbrev Entries := List (String × Value)

def put (name : String) (value : Value) : Entries → Entries
  | [] => [(name, value)]
  | entry :: rest =>
    if entry.1 == name then (name, value) :: rest else entry :: put name value rest

def putNew (name : String) (value : Value) (entries : Entries) : Option Entries :=
  if (entries.lookup name).isSome then none else some (entries ++ [(name, value)])

/-- The entries of a table that is passed on the way to another one, and the value that takes its
place when they have changed. A dotted key passes no table that has a header of its own, and nothing
passes a table in braces. A repeated header stands for its latest table. -/
def pass (dotted : Bool) : Option Value → Option (Entries × (Entries → Value))
  | none => some ([], .table (if dotted then .dotted else .implied))
  | some (.table .inline _) => none
  | some (.table .header entries) => if dotted then none else some (entries, .table .header)
  | some (.table origin entries) => some (entries, .table origin)
  | some (.tables items) =>
    match items.getLast? with
    | some (.table origin entries) =>
      some (entries, fun changed => .tables (items.dropLast ++ [.table origin changed]))
    | _ => none
  | some _ => none

/-- Changes the table at the end of a path; tables on the way come into being. -/
def changeAt (dotted : Bool) (change : Entries → Option Entries) :
    List String → Entries → Option Entries
  | [], entries => change entries
  | name :: path, entries => do
    let (inner, close) ← pass dotted (entries.lookup name)
    let changed ← changeAt dotted change path inner
    some (put name (close changed) entries)

/-- Opens the table of a header. It may have been passed before, but not opened. -/
def openTable (name : String) (entries : Entries) : Option Entries :=
  match entries.lookup name with
  | none => some (entries ++ [(name, .table .header [])])
  | some (.table .implied inner) => some (put name (.table .header inner) entries)
  | some _ => none

def openNext (name : String) (entries : Entries) : Option Entries :=
  match entries.lookup name with
  | none => some (entries ++ [(name, .tables [.table .header []])])
  | some (.tables items) => some (put name (.tables (items ++ [.table .header []])) entries)
  | some _ => none

/-- Adds a value under a last name to the table that the dotted name before it stands for, which
must have come about by dotted keys alone. -/
def putDotted (table name : String) (value : Value) (entries : Entries) : Option Entries :=
  match entries.lookup table with
  | none => some (entries ++ [(table, .table .dotted [(name, value)])])
  | some (.table .dotted inner) =>
    (putNew name value inner).map fun changed => put table (.table .dotted changed) entries
  | some _ => none

def putKey (value : Value) : List String → Entries → Option Entries
  | [], _ => none
  | [name], entries => putNew name value entries
  | [table, name], entries => putDotted table name value entries
  | table :: name :: last :: rest, entries => do
    let (inner, close) ← pass true (entries.lookup table)
    let changed ← putKey value (name :: last :: rest) inner
    some (put table (close changed) entries)

end MarketLink.Document
