import Rehearsal.Files.Access
import Rehearsal.Files.Path
import Rehearsal.Pager

/-! # Finding a score

  A score is named by its path, or else the first one in a directory is taken: of all regular
  files whose name ends like that of a score, the one whose name comes first in the order of
  code points. The order in which a directory lists its entries does not matter. As everywhere,
  names are rows of characters, and files with other names are not listed.
-/

namespace Rehearsal

/-- The first of some names in the order of code points. -/
def leastName? : List (List Char) → Option (List Char)
  | [] => none
  | name :: rest =>
    match leastName? rest with
    | some least => if least < name then some least else some name
    | none => some name

/-- The names of the scores among the entries of a directory. -/
def scoreNames (entries : List Entry) : List (List Char) :=
  (entries.filter fun e => e.isFile && Path.namesScore e.name).map (·.name)

/-- The score to take from a directory with the given entries. -/
def firstScore? (entries : List Entry) : Option (List Char) := leastName? (scoreNames entries)

namespace FileAccess

variable {m : Type → Type} [Monad m]

/-- The path of the score to take from a directory. -/
def findScore (files : FileAccess m) (directory : List Char) :
    m (Except Failure (Option (List Char))) := do
  match ← files.entries directory with
  | .ok entries => return .ok ((firstScore? entries).map (Path.join directory))
  | .error failure => return .error failure

/-- A score opened at its first page. -/
def openScore (files : FileAccess m) (path : List Char) : m (Except Failure Pager) := do
  if ← files.isFile path then return .ok (.ofPath (String.ofList path))
  else return .error (.pdfNotFound (String.ofList path))

end FileAccess

end Rehearsal
