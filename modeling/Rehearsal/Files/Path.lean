import Rehearsal.Text.Lowercase
import Rehearsal.Text.Pieces

/-! # Paths

  A path is a text of names between slashes. An empty name and a single dot stand for the
  directory they are in, two dots for the one above it.
-/

namespace Rehearsal.Path

open Text

/-- The names of a path, in order, between the slashes. -/
def names (path : List Char) : List (List Char) := pieces (· == '/') path

/-- Whether a name stands for the directory it is in. -/
def isHere (name : List Char) : Bool := name.isEmpty || name == ['.']

/-- Whether a name stands for the directory above. -/
def isAbove (name : List Char) : Bool := name == ['.', '.']

/-- The path of something in a directory. -/
def join (directory name : List Char) : List Char :=
  if directory.isEmpty || directory.getLast? == some '/' then directory ++ name
  else directory ++ '/' :: name

/-- The path without its last name and the slash in front of that name. -/
def above (path : List Char) : List Char := (dropEndWhile (· != '/') path).dropLast

/-- What stands behind the last dot of a name, if something stands before that dot. -/
def extension? (name : List Char) : Option (List Char) :=
  let stem := name.reverse.dropWhile (· != '.')
  if stem.length ≤ 1 || isAbove name then none
  else some (name.drop stem.length)

def namesScore (name : List Char) : Bool :=
  (extension? name).any fun e => sameLetters e ['p', 'd', 'f']

/-- Whether something new can have a name. A name takes at most 255 bytes, and no byte is
    zero. -/
def canName (name : List Char) : Bool :=
  !isHere name && !isAbove name && !name.contains '\x00'
    && decide ((String.ofList name).utf8ByteSize ≤ 255)

/-! ### Plain form -/

/-- The slashes that a path from the root begins with: exactly two are kept, any other number
    counts as one. -/
def rootOf (path : List Char) : List Char :=
  if (path.takeWhile (· == '/')).length = 2 then ['/', '/'] else ['/']

/-- A path from the root without superfluous slashes and dots. A slash at its end is kept,
    and names for the directory above are left alone. Any other path stays as it is. -/
def plain (path : List Char) : List Char :=
  if path.head? = some '/' then
    let kept := (names path).filter fun name => !isHere name
    let body := ['/'].intercalate kept
    let tail := if path.getLast? = some '/' && !kept.isEmpty then ['/'] else []
    rootOf path ++ body ++ tail
  else path

def pageAddress (path : List Char) (page : Nat) : List Char :=
  "file://".toList ++ plain path ++ "#page=".toList ++ (toString page).toList

end Rehearsal.Path
