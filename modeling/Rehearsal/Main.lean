import Rehearsal.CommandLine.Start

/-! # The program

  The outermost layer: files on the disk, lines from standard input, the clock of the machine,
  and a task in the background that lets time pass in the conversation. What is said and what
  happens is decided by `CommandLine.start` and `Conversation.hear`.
-/

namespace Rehearsal.Program

/-- A result, or a failure where the system raises an exception. -/
def attempt {α : Type} (action : IO α) : IO (Except Failure α) := do
  try return .ok (← action)
  catch _ => return .error .io

/-- The kind of file at a path, or of what a link there leads to. -/
def kindAt (path : List Char) : IO IO.FS.FileType := do
  return (← (← IO.FS.realPath (String.ofList path)).metadata).type

/-- Write a file, with the directories on the way. -/
def writeFile (path : List Char) (content : String) : IO Unit := do
  IO.FS.createDirAll (String.ofList (Path.above path))
  IO.FS.writeFile (String.ofList path) content

def listDirectory (path : List Char) : IO (List Entry) := do
  let found ← (← IO.FS.realPath (String.ofList path)).readDir
  found.toList.mapM fun entry => do
    let name := entry.fileName.toList
    match ← attempt (kindAt (Path.join path name)) with
    | .ok kind => return ⟨name, kind == .file⟩
    | .error _ => return ⟨name, false⟩

/-- Access to the files on the disk. -/
def disk : FileAccess IO where
  isThere path := do return (← attempt (kindAt path)).toOption.isSome
  isFile path := do return (← attempt (kindAt path)).toOption == some .file
  read path := attempt (IO.FS.readFile (String.ofList path))
  entries path := attempt (listDirectory path)
  write path content := attempt (writeFile path content)

/-- The directory where programs keep their settings. -/
def settingsHome : IO (List Char) := do
  match ← IO.getEnv "XDG_CONFIG_HOME" with
  | some directory => if directory.startsWith "/" then return directory.toList else ownHome
  | none => ownHome
where
  /-- The directory below the home directory of the user. -/
  ownHome : IO (List Char) := do
    return Path.join ((← IO.getEnv "HOME").getD "").toList ".config".toList

/-- Print a text at once. -/
def put (text : String) : IO Unit := do
  unless text.isEmpty do
    IO.print text
    (← IO.getStdout).flush

/-- A conversation that the background shares, with the instant at which it began. -/
structure Shared where
  conversation : IO.Ref Conversation
  began : Instant
  ended : IO.Ref Bool

/-- Let time pass up to the present, and print what happened. -/
def Shared.catchUp (s : Shared) : IO Unit := do
  let now := (← IO.monoNanosNow) - s.began
  let lines ← s.conversation.modifyGet fun c =>
    let (c, lines) := c.wait (now - c.practice.clock)
    (lines, c)
  put (CommandLine.printedLines lines)

/-- Take part in the conversation, and print what is said. -/
def Shared.exchange (s : Shared) (step : Conversation → Conversation × Exchange) : IO Bool := do
  s.catchUp
  let e ← s.conversation.modifyGet fun c =>
    let (c, e) := step c
    (e, c)
  put (e.printed "")
  return e.ends

/-- Let time pass until the conversation is over. -/
partial def Shared.keepTime (s : Shared) : IO Unit := do
  unless ← s.ended.get do
    s.catchUp
    IO.sleep 1
    s.keepTime

/-- Read the bytes of a line, the line feed included. There are none at the end of input. -/
partial def readLine (input : IO.FS.Stream) (reversed : List UInt8) : IO (List UInt8) := do
  match (← input.read 1).toList with
  | [] => return reversed.reverse
  | b :: _ =>
    if b = Utterances.lineFeed then return (b :: reversed).reverse
    else readLine input (b :: reversed)

/-- Hold a conversation line by line. -/
partial def Shared.converse (s : Shared) (input : IO.FS.Stream) (prompt : String) : IO Unit := do
  put prompt
  let line ← readLine input []
  if line.isEmpty then
    let _ ← s.exchange (·.carryOut .quit)
  else
    match Utterances.utterance? line with
    | none => s.converse input prompt
    | some utterance =>
      unless ← s.exchange (·.hear utterance) do s.converse input prompt

/-- Hold a conversation that was prepared, with a task in the background that keeps time. -/
def talk (p : CommandLine.Prepared) : IO Unit := do
  put (CommandLine.printedLines p.opening)
  let s : Shared := ⟨← IO.mkRef p.conversation, ← IO.monoNanosNow, ← IO.mkRef false⟩
  let timekeeper ← IO.asTask s.keepTime Task.Priority.dedicated
  try s.converse (← IO.getStdin) p.prompt
  finally
    s.ended.set true
    let _ ← IO.wait timekeeper

/-- Run the program with the words of its command line. The answer is the exit status. -/
def run (words : List String) : IO UInt32 := do
  match ← CommandLine.start disk (← settingsHome) words with
  | .done lines =>
    put (CommandLine.printedLines lines)
    return 0
  | .refused =>
    IO.eprintln "error: the command line is not understood; try --help"
    return 2
  | .failed complaint =>
    IO.eprintln complaint.line
    return 1
  | .talks prepared =>
    talk prepared
    return 0

end Rehearsal.Program

def main (words : List String) : IO UInt32 := Rehearsal.Program.run words
