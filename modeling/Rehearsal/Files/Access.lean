import Rehearsal.Failure

/-! # Access to files

  The program needs little of a file system: whether there is anything at a path, whether it is a
  regular file, the text of a file, the entries of a directory, and writing a file. `FileAccess`
  holds these five, so that the same program runs on a disk and on a tree of files in memory.

  Names and paths are rows of characters. A file whose name is no well-formed text is outside of
  this library.
-/

namespace Rehearsal

/-- An entry of a directory. -/
structure Entry where
  name : List Char
  isFile : Bool
  deriving DecidableEq, Repr

/-- What can be done with files. -/
structure FileAccess (m : Type → Type) where
  isThere : List Char → m Bool
  isFile : List Char → m Bool
  read : List Char → m (Except Failure String)
  /-- The entries of a directory, in no particular order. -/
  entries : List Char → m (Except Failure (List Entry))
  /-- Give a file a text. Missing directories on the way and a missing file are made. -/
  write : List Char → String → m (Except Failure Unit)

end Rehearsal
