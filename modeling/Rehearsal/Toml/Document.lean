import Rehearsal.Toml.Scalar

/-! # TOML documents

  A document is a list of statements, one per line: a header names the table that the lines
  after it belong to, and an assignment gives a key of that table a value. `parse` reads the
  statements and then carries them out in order on an empty table.

  A table may be given a header once, a key a value once. Dotted keys and headers make the
  tables that lie on their way; a table made by dotted keys takes no header, a table with a
  header takes no dotted keys from outside, and a table in braces takes nothing at all.
-/

namespace Rehearsal.Toml

open Reader

/-! ### Tables -/

/-- Change the value of a key, or give it its first one; new keys come last. -/
def Entries.alter (entries : Entries) (key : String) (change : Option Value → Option Value) :
    Option Entries :=
  match entries with
  | [] => (change none).map fun v => [(key, v)]
  | (k, old) :: rest =>
    if k = key then (change (some old)).map fun v => (k, v) :: rest
    else (Entries.alter rest key change).map ((k, old) :: ·)

/-- A change to a table: it sees how the table came about. -/
abbrev TableChange := TableOrigin → Entries → Option Entries

/-- Change the table that a value is. A missing value is a new table; of several tables under
    one header the last is meant. A table in braces is complete, and so is, for dotted keys,
    one with a header. -/
def enter (made : TableOrigin) (change : TableChange) : Option Value → Option Value
  | none => (change made []).map (.table made)
  | some (.table origin entries) =>
    if origin = .inline ∨ (origin = .header ∧ made = .dotted) then none
    else (change origin entries).map (.table origin)
  | some (.tables elements) =>
    match elements.reverse with
    | [] => none
    | last :: before => (change .header last).map fun e => .tables (before.reverse ++ [e])
  | some _ => none

/-- Change the table at the end of a path; tables missing on the way are made. -/
def along (made : TableOrigin) (change : TableChange) : List String → TableChange
  | [] => change
  | key :: rest => fun _ entries => entries.alter key (enter made (along made change rest))

/-- Give a key of a table its value. A table reached by dots must have been made by dots. -/
def assign (path : List String) (key : String) (value : Value) : TableChange :=
  along .dotted (fun origin entries =>
    if origin = .dotted ↔ path = [] then none
    else entries.alter key fun old => if old.isSome then none else some value) path

/-- Give a table its header. -/
def openTable (path : List String) (key : String) : TableChange :=
  along .implied (fun _ entries => entries.alter key fun
    | none => some (.table .header [])
    | some (.table .implied inner) => some (.table .header inner)
    | some _ => none) path

/-- Begin another table under a header in double brackets. -/
def openElement (path : List String) (key : String) : TableChange :=
  along .implied (fun _ entries => entries.alter key fun
    | none => some (.tables [[]])
    | some (.tables elements) => some (.tables (elements ++ [[]]))
    | some _ => none) path

/-! ### Values that hold others -/

/-- The last part of a key and the parts before it. -/
def splitKey (parts : List String) : Reader (List String × String) :=
  match parts.getLast? with
  | some last => pure (parts.dropLast, last)
  | none => failure

def assignment (value : Reader Value) : Reader (List String × String × Value) := do
  let (path, last) ← splitKey (← key)
  char '='
  spaces
  let v ← value
  pure (path, last, v)

/-- Values in brackets; a comma may follow the last. -/
def array (value : Reader Value) : Reader Value := do
  char '['
  let items ← optional (do
    let items ← separated (do filler; let v ← value; filler; pure v) (char ',')
    let _ ← optional (char ',')
    pure items)
  filler
  char ']'
  pure (.array (items.getD []))

def tableOf (assignments : List (List String × String × Value)) : Option Entries :=
  assignments.foldlM (fun entries (path, key, v) => assign path key v .header entries) []

def inlineTable (value : Reader Value) : Reader Value := do
  char '{'
  let assignments ← optional (separated (do let a ← assignment value; spaces; pure a) (char ','))
  spaces
  char '}'
  match tableOf (assignments.getD []) with
  | some entries => pure (.table .inline entries)
  | none => failure

/-- A value, with at most so many brackets and braces around one another. -/
def value : Nat → Reader Value
  | 0 => scalar
  | n + 1 => array (value n) <|> inlineTable (value n) <|> scalar

/-- How many brackets and braces may stand around one another. -/
def maxNesting : Nat := 79

/-! ### Statements -/

/-- One line of a document. -/
inductive Statement where
  /-- A header: the lines that follow belong to this table. -/
  | header (path : List String) (key : String)
  /-- A header in double brackets: the lines that follow belong to a new table. -/
  | element (path : List String) (key : String)
  | assign (path : List String) (key : String) (value : Value)

/-- A header in double brackets. -/
def elementHeader : Reader Statement := do
  exactly ['[', '[']
  let (path, last) ← splitKey (← key)
  exactly [']', ']']
  pure (.element path last)

def tableHeader : Reader Statement := do
  char '['
  let (path, last) ← splitKey (← key)
  char ']'
  pure (.header path last)

def statement : Reader Statement :=
  elementHeader <|> tableHeader <|> (do
    let (path, last, v) ← assignment (value maxNesting)
    pure (.assign path last v))

def line : Reader (Option Statement) := do
  spaces
  let s ← optional statement
  spaces
  let _ ← optional comment
  lineEnd
  pure s

/-- All lines. -/
def statements : Reader (List Statement) := do
  let lines ← many (do if ← atEnd then failure else line)
  if ← atEnd then pure (lines.filterMap id) else failure

/-- A document so far, and the table that the next line belongs to. -/
structure Progress where
  root : Entries
  location : List String

/-- Carry out a statement. -/
def Progress.apply (p : Progress) : Statement → Option Progress
  | .header path key =>
    (openTable path key .header p.root).map fun root => ⟨root, path ++ [key]⟩
  | .element path key =>
    (openElement path key .header p.root).map fun root => ⟨root, path ++ [key]⟩
  | .assign path key v =>
    (along .implied (fun origin => Toml.assign path key v origin) p.location .header p.root).map
      fun root => { p with root }

/-- The mark that may stand in front of a document. -/
def byteOrderMark : Char := '\uFEFF'

/-- The table that a document describes, or nothing if it is no document. -/
def parse (text : List Char) : Option Entries := do
  let body := if text.head? = some byteOrderMark then text.drop 1 else text
  let (lines, _) ← statements body
  let done ← lines.foldlM Progress.apply ⟨[], []⟩
  pure done.root

end Rehearsal.Toml
