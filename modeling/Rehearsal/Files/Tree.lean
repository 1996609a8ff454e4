import Rehearsal.Files.Access
import Rehearsal.Files.Path

/-! # A tree of files

  A file system in memory. The tree is the content of one directory, which is also the one that
  relative paths start from; a path that begins with the full name of that directory leads into
  it as well. There is nothing outside.
-/

namespace Rehearsal

/-- A directory of the tree or a file in it, by the names on the way to it. -/
abbrev FileTree.Location := List (List Char)

/-- What is at a place. -/
inductive FileTree.Node where
  | directory
  | file (content : String)
  deriving DecidableEq, Repr

/-- A tree of files. -/
structure FileTree where
  /-- The full name of the directory whose content the tree is. -/
  base : List Char
  /-- What is in the tree, by place; the directory itself is not listed. -/
  nodes : List (FileTree.Location × FileTree.Node)
  deriving DecidableEq, Repr

namespace FileTree

def empty (base : List Char) : FileTree := ⟨base, []⟩

def node? (t : FileTree) (place : Location) : Option Node :=
  if place = [] then some .directory else t.nodes.lookup place

def isDirectory (t : FileTree) (place : Location) : Bool := t.node? place == some .directory

/-- The place that some names lead to from another place. Only a directory can be gone
    through, and there is no way out of the tree. -/
def walk (t : FileTree) (here : Location) : List (List Char) → Option Location
  | [] => some here
  | name :: rest =>
    if !t.isDirectory here then none
    else if Path.isHere name then walk t here rest
    else if Path.isAbove name then if here = [] then none else walk t here.dropLast rest
    else walk t (here ++ [name]) rest

/-- A path into the tree as it is written from the tree's own directory. -/
def relative? (t : FileTree) (path : List Char) : Option (List Char) :=
  if path = [] then none
  else if path = t.base then some ['.']
  else if (t.base ++ ['/']).isPrefixOf path then some (path.drop (t.base.length + 1))
  else if path.head? = some '/' then none
  else some path

/-- The place of a path. There need not be anything at the place, but there is a directory
    everywhere on the way. -/
def resolve? (t : FileTree) (path : List Char) : Option Location :=
  (t.relative? path).bind fun path => t.walk [] (Path.names path)

def find? (t : FileTree) (path : List Char) : Option Node := (t.resolve? path).bind t.node?

def entriesAt (t : FileTree) (place : Location) : List Entry :=
  t.nodes.filterMap fun (there, node) =>
    match there.getLast? with
    | some name => if there.dropLast = place then some ⟨name, node != .directory⟩ else none
    | none => none

/-- Put something at a place, in place of what is there. -/
def put (t : FileTree) (place : Location) (node : Node) : FileTree :=
  { t with nodes := t.nodes.filter (fun n => n.1 != place) ++ [(place, node)] }

/-- Make the directory that some names lead to from another directory, and those on the way.
    A file in the way cannot be gone through. -/
def makeDirectories (t : FileTree) (here : Location) : List (List Char) → Except Failure FileTree
  | [] => .ok t
  | name :: rest =>
    let there := here ++ [name]
    match t.node? there with
    | some (.file _) => .error .io
    | some .directory => makeDirectories t there rest
    | none =>
      if Path.canName name then makeDirectories (t.put there .directory) there rest
      else .error .io

/-- Write a file at a place in a directory that is there. -/
def writeAt (t : FileTree) (place : Location) (content : String) : Except Failure FileTree :=
  match place.getLast? with
  | none => .error .io
  | some name =>
    if Path.canName name && t.isDirectory place.dropLast && !t.isDirectory place then
      .ok (t.put place (.file content))
    else .error .io

/-- The place that a path names if the directories on the way are made first. Such a path
    only leads downwards. -/
def placeToMake? (t : FileTree) (path : List Char) : Option Location :=
  (t.relative? path).bind fun path =>
    let steps := (Path.names path).filter fun name => !Path.isHere name
    if steps.any Path.isAbove then none else some steps

def read (t : FileTree) (path : List Char) : Except Failure String :=
  match t.find? path with
  | some (.file content) => .ok content
  | _ => .error .io

def entries (t : FileTree) (path : List Char) : Except Failure (List Entry) :=
  match t.resolve? path with
  | some place => if t.isDirectory place then .ok (t.entriesAt place) else .error .io
  | none => .error .io

def isFile (t : FileTree) (path : List Char) : Bool :=
  match t.find? path with
  | some (.file _) => true
  | _ => false

/-- A tree with a directory made, and those on the way to it. -/
def makeDirectory (t : FileTree) (path : List Char) : Except Failure FileTree :=
  match t.placeToMake? path with
  | some place => t.makeDirectories [] place
  | none => .error .io

/-- A tree with a file written in a directory that is there. -/
def writeFile (t : FileTree) (path : List Char) (content : String) : Except Failure FileTree :=
  match t.resolve? path with
  | some place => t.writeAt place content
  | none => .error .io

/-- A tree with a file written, and the directories on the way made. -/
def write (t : FileTree) (path : List Char) (content : String) : Except Failure FileTree :=
  match t.placeToMake? path with
  | some place => do (← t.makeDirectories [] place.dropLast).writeAt place content
  | none => .error .io

/-- Access to the files of a tree. -/
def access : FileAccess (StateM FileTree) where
  isThere path := do return ((← get).find? path).isSome
  isFile path := do return (← get).isFile path
  read path := do return (← get).read path
  entries path := do return (← get).entries path
  write path content := do
    match (← get).write path content with
    | .ok t =>
      set t
      return .ok ()
    | .error failure => return .error failure

end FileTree

end Rehearsal
