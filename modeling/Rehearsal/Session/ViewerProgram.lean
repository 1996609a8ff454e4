import Rehearsal.Failure

/-! # Choosing a viewer

  Pages are shown by a program of the system: the one that the settings name, or else the first
  one found of those that open any kind of file.
-/

namespace Rehearsal.ViewerProgram

/-- The programs that are tried when the settings name none, in order. -/
def openers : List String := ["xdg-open", "open"]

/-- The programs to try, in order. -/
def candidates (command : Option String) : List String :=
  match command with
  | some c => [c]
  | none => openers

/-- The first program that there is, or all that were tried. -/
def choose (isThere : String → Bool) (command : Option String) : Except (List String) String :=
  match (candidates command).find? isThere with
  | some program => .ok program
  | none => .error (candidates command)

/-- Hand a page to a program. The program may be gone by then. -/
def launch (isThere : String → Bool) (program : String) : Except Failure Unit :=
  if isThere program then .ok () else .error (.viewer (program ++ ": not found"))

/-- What is said when there is no viewer. -/
def missing (tried : List String) : String :=
  "no PDF viewer found (tried " ++ ", ".intercalate tried ++ ")"

end Rehearsal.ViewerProgram
