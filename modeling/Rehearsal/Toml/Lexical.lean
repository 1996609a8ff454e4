import Rehearsal.Number.Decimal

/-! # Words of a TOML document

  White space, comments, line ends, keys and strings. A `Reader` takes what it understands off
  the front of a text, or refuses; a refused alternative leaves the text as it was.
-/

namespace Rehearsal.Toml

/-- What takes a value off the front of a text. -/
abbrev Reader := StateT (List Char) Option

namespace Reader

def run (p : Char → Bool) : Reader (List Char) := fun s => some (s.takeWhile p, s.dropWhile p)

/-- The longest run of characters of a class, which must not be empty. -/
def run1 (p : Char → Bool) : Reader (List Char) := do
  let found ← run p
  if found.isEmpty then failure else pure found

def one (p : Char → Bool) : Reader Char
  | [] => none
  | c :: rest => if p c then some (c, rest) else none

def char (c : Char) : Reader Unit := do let _ ← one (· == c)

/-- A given text. -/
def exactly : List Char → Reader Unit
  | [] => pure ()
  | c :: rest => do
    char c
    exactly rest

/-- Values one after another, at most so many. -/
def upTo {α : Type} (r : Reader α) : Nat → Reader (List α)
  | 0 => pure []
  | n + 1 => (do
      let first ← r
      let rest ← upTo r n
      pure (first :: rest)) <|> pure []

/-- Values one after another; each takes at least one character. -/
def many {α : Type} (r : Reader α) : Reader (List α) := do upTo r (← get).length

/-- One value or more, with a separator between each two. -/
def separated {α : Type} (r : Reader α) (separator : Reader Unit) : Reader (List α) := do
  let first ← r
  let rest ← many (do separator; r)
  pure (first :: rest)

/-- Whether the whole text is taken. -/
def atEnd : Reader Bool := do return (← get).isEmpty

def taken {α : Type} (r : Reader α) : Reader (List Char) := do
  let before ← get
  let _ ← r
  return before.take (before.length - (← get).length)

/-- A number of decimal digits, neither more nor fewer than needed. -/
def digits (count : Nat) : Reader Nat := fun s =>
  let ds := s.take count
  if ds.length = count ∧ ds.all Char.isDigit then some (Number.ofDigits ds, s.drop count) else none

end Reader

open Reader

/-! ### White space and line ends -/

/-- White space within a line. -/
def isSpace (c : Char) : Bool := c == ' ' || c == '\t'

/-- White space within a line, of any length. -/
def spaces : Reader Unit := do let _ ← run isSpace

/-- A control character that may not stand for itself; a tab may. -/
def isControl (c : Char) : Bool := (c.toNat < 0x20 && c != '\t') || c.toNat == 0x7F

/-- A line feed, alone or after a carriage return. -/
def newline : Reader Unit := char '\n' <|> exactly ['\r', '\n']

def lineEnd : Reader Unit := newline <|> (do if ← atEnd then pure () else failure)

/-- A comment, up to the end of its line. -/
def comment : Reader Unit := do
  char '#'
  let _ ← run fun c => !isControl c

/-- White space, comments and line ends, as they may stand between the values of an array. -/
def filler : Reader Unit := do
  let _ ← many ((do let _ ← run1 isSpace) <|> newline <|> (do comment; newline))

/-! ### Strings -/

def isHex (c : Char) : Bool :=
  c.isDigit || (decide ('a' ≤ c) && decide (c ≤ 'f')) || (decide ('A' ≤ c) && decide (c ≤ 'F'))

/-- The character with the code point that some hexadecimal digits name. -/
def namedChar? (ds : List Char) : Option Char :=
  let n := Number.ofDigitsIn 16 ds
  if ds.all isHex ∧ (n < 0xD800 ∨ (0xDFFF < n ∧ n < 0x110000)) then some (Char.ofNat n) else none

/-- The character that a letter after a backslash stands for. -/
def escaped? : Char → Option Char
  | 'b' => some '\x08'
  | 't' => some '\t'
  | 'n' => some '\n'
  | 'f' => some '\x0c'
  | 'r' => some '\r'
  | '"' => some '"'
  | '\\' => some '\\'
  | _ => none

/-- A character in front of what was read behind it. -/
def consRead (c : Char) (read : Option (List Char × List Char)) :
    Option (List Char × List Char) :=
  read.map fun (text, rest) => (c :: text, rest)

/-- The rest of a string in double quotes on one line, and what follows it. -/
def basicTail : List Char → Option (List Char × List Char)
  | [] => none
  | '"' :: rest => some ([], rest)
  | '\\' :: 'u' :: a :: b :: c :: d :: rest =>
    match namedChar? [a, b, c, d] with
    | some named => consRead named (basicTail rest)
    | none => none
  | '\\' :: 'U' :: a :: b :: c :: d :: e :: f :: g :: h :: rest =>
    match namedChar? [a, b, c, d, e, f, g, h] with
    | some named => consRead named (basicTail rest)
    | none => none
  | '\\' :: c :: rest =>
    match escaped? c with
    | some meant => consRead meant (basicTail rest)
    | none => none
  | c :: rest => if c == '\\' || isControl c then none else consRead c (basicTail rest)

/-- The rest of a string in single quotes on one line, and what follows it. -/
def literalTail : List Char → Option (List Char × List Char)
  | [] => none
  | '\'' :: rest => some ([], rest)
  | c :: rest => if isControl c then none else consRead c (literalTail rest)

/-- Whether only white space stands before the end of the line. -/
def blankToLineEnd (s : List Char) : Bool :=
  match s.dropWhile isSpace with
  | '\n' :: _ => true
  | '\r' :: '\n' :: _ => true
  | _ => false

/-- The rest of a string in three double quotes, and what follows it. Up to two quotes may
    stand before the closing ones. A backslash at the end of a line hides the line end and all
    white space after it; `skipping` says that this is going on. -/
def basicBlockTail (skipping : Bool) : List Char → Option (List Char × List Char)
  | [] => none
  | '"' :: '"' :: '"' :: '"' :: '"' :: rest => some (['"', '"'], rest)
  | '"' :: '"' :: '"' :: '"' :: rest => some (['"'], rest)
  | '"' :: '"' :: '"' :: rest => some ([], rest)
  | '\r' :: '\n' :: rest =>
    if skipping then basicBlockTail true rest else consRead '\n' (basicBlockTail false rest)
  | '\n' :: rest =>
    if skipping then basicBlockTail true rest else consRead '\n' (basicBlockTail false rest)
  | '\\' :: 'u' :: a :: b :: c :: d :: rest =>
    match namedChar? [a, b, c, d] with
    | some named => consRead named (basicBlockTail false rest)
    | none => none
  | '\\' :: 'U' :: a :: b :: c :: d :: e :: f :: g :: h :: rest =>
    match namedChar? [a, b, c, d, e, f, g, h] with
    | some named => consRead named (basicBlockTail false rest)
    | none => none
  | '\\' :: c :: rest =>
    if blankToLineEnd (c :: rest) then basicBlockTail true (c :: rest)
    else
      match escaped? c with
      | some meant => consRead meant (basicBlockTail false rest)
      | none => none
  | c :: rest =>
    if skipping && isSpace c then basicBlockTail true rest
    else if c == '\\' || isControl c then none
    else consRead c (basicBlockTail false rest)

/-- The rest of a string in three single quotes, and what follows it. -/
def literalBlockTail : List Char → Option (List Char × List Char)
  | [] => none
  | '\'' :: '\'' :: '\'' :: '\'' :: '\'' :: rest => some (['\'', '\''], rest)
  | '\'' :: '\'' :: '\'' :: '\'' :: rest => some (['\''], rest)
  | '\'' :: '\'' :: '\'' :: rest => some ([], rest)
  | '\r' :: '\n' :: rest => consRead '\n' (literalBlockTail rest)
  | '\n' :: rest => consRead '\n' (literalBlockTail rest)
  | c :: rest => if isControl c then none else consRead c (literalBlockTail rest)

/-- A text without the line end at its front, which does not belong to a string of several
    lines. -/
def dropLineEnd : List Char → List Char
  | '\r' :: '\n' :: rest => rest
  | '\n' :: rest => rest
  | s => s

/-- A string in double quotes on one line. -/
def basicString : Reader String
  | '"' :: rest => (basicTail rest).map fun (text, rest) => (String.ofList text, rest)
  | _ => none

/-- A string in single quotes on one line. -/
def literalString : Reader String
  | '\'' :: rest => (literalTail rest).map fun (text, rest) => (String.ofList text, rest)
  | _ => none

def string : Reader String
  | '"' :: '"' :: '"' :: rest =>
    (basicBlockTail false (dropLineEnd rest)).map fun (text, rest) => (String.ofList text, rest)
  | '\'' :: '\'' :: '\'' :: rest =>
    (literalBlockTail (dropLineEnd rest)).map fun (text, rest) => (String.ofList text, rest)
  | s => (basicString <|> literalString) s

/-! ### Keys -/

def isBareKey (c : Char) : Bool := c.isAlphanum || c == '-' || c == '_'

/-- A key between two dots. -/
def simpleKey : Reader String :=
  basicString <|> literalString <|> (String.ofList <$> run1 isBareKey)

/-- The parts of a key that may be dotted. Eighty parts are refused. -/
def key : Reader (List String) := do
  let parts ← separated (do spaces; let k ← simpleKey; spaces; pure k) (char '.')
  if parts.length < 80 then pure parts else failure

end Rehearsal.Toml
