import Rehearsal.Number.Decimal
import Rehearsal.Toml.Lexical

/-! # Writing TOML values

  A string is written in the plainest form that needs no backslash: in double quotes, else in
  single quotes, else in three double quotes, else in three single quotes. Where none of them
  will do, it is written in double quotes with backslashes, on several lines if it has several.
-/

namespace Rehearsal.Toml

/-- The length of the longest run of a character, with one of so many going on. -/
def longestRun (c : Char) (current : Nat) : List Char → Nat
  | [] => current
  | d :: rest =>
    if d = c then longestRun c (current + 1) rest else max current (longestRun c 0 rest)

/-- A control character that only a backslash can write. -/
def needsEscape (c : Char) : Bool := c != '\n' && isControl c

/-- The forms of a string. -/
inductive StringForm where
  /-- Double quotes. -/
  | basic
  /-- Single quotes. -/
  | literal
  /-- Three double quotes. -/
  | basicBlock
  /-- Three single quotes. -/
  | literalBlock
  deriving DecidableEq, Repr

namespace StringForm

def of (text : List Char) : StringForm :=
  let controls := text.any needsEscape
  let backslash := text.contains '\\'
  let lines := text.contains '\n'
  let double := longestRun '"' 0 text
  let single := longestRun '\'' 0 text
  if !controls && !backslash && double == 0 && !lines then .basic
  else if !controls && single == 0 && !lines then .literal
  else if !controls && !backslash && double ≤ 2 then .basicBlock
  else if !controls && single ≤ 2 then .literalBlock
  else if lines then .basicBlock
  else .basic

def quotes : StringForm → List Char
  | .basic => ['"']
  | .literal => ['\'']
  | .basicBlock => ['"', '"', '"']
  | .literalBlock => ['\'', '\'', '\'']

/-- Whether the form may hold several lines. -/
def isBlock : StringForm → Bool
  | .basic | .literal => false
  | .basicBlock | .literalBlock => true

/-- Whether the form knows backslashes. -/
def escapes : StringForm → Bool
  | .basic | .basicBlock => true
  | .literal | .literalBlock => false

end StringForm

def hexDigit (n : Nat) : Char :=
  if n < 10 then Char.ofNat ('0'.toNat + n) else Char.ofNat ('A'.toNat + (n - 10))

/-- A character of a string in double quotes. Quotes and line feeds are dealt with by the
    caller. -/
def escapeChar (c : Char) : List Char :=
  if c = '\x08' then ['\\', 'b']
  else if c = '\t' then ['\\', 't']
  else if c = '\x0c' then ['\\', 'f']
  else if c = '\r' then ['\\', 'r']
  else if c = '\\' then ['\\', '\\']
  else if isControl c then
    ['\\', 'u', '0', '0', hexDigit (c.toNat / 16), hexDigit (c.toNat % 16)]
  else [c]

/-- The characters of a string in double quotes. In a block line feeds stand for themselves,
    and so do quotes unless they are the third in a row; `run` counts those before. -/
def escapeAll (block : Bool) (run : Nat) : List Char → List Char
  | [] => []
  | '"' :: rest =>
    if block && run < 2 then '"' :: escapeAll block (run + 1) rest
    else '\\' :: '"' :: escapeAll block 0 rest
  | '\n' :: rest =>
    (if block then ['\n'] else ['\\', 'n']) ++ escapeAll block 0 rest
  | c :: rest => escapeChar c ++ escapeAll block 0 rest

/-- A string as written in a document. A block begins with a line end of its own if it has
    several lines. -/
def writeString (text : String) : List Char :=
  let cs := text.toList
  let form := StringForm.of cs
  let body := if form.escapes then escapeAll form.isBlock 0 cs else cs
  form.quotes ++ (if form.isBlock && cs.contains '\n' then ['\n'] else []) ++ body ++ form.quotes

/-- A floating-point number as written in a document: the fewest digits that read back, with a
    point in any case. An undefined datum is written without its sign. -/
def writeFloat (x : Number.Binary64) : List Char :=
  match x.magnitude with
  | .finite mantissa exponent =>
    let s := Number.shortestDigits mantissa exponent
    Number.sign x.negative ++ if s.isWhole then s.positional ++ ['.', '0'] else s.positional
  | .infinite => Number.sign x.negative ++ ['i', 'n', 'f']
  | .undefined => ['n', 'a', 'n']

def writeBool (b : Bool) : List Char := if b then "true".toList else "false".toList

def writeLine (key : String) (value : List Char) : List Char :=
  key.toList ++ [' ', '=', ' '] ++ value ++ ['\n']

/-- A header and the lines below it. -/
def writeTable (name : String) (lines : List (List Char)) : List Char :=
  '[' :: name.toList ++ [']', '\n'] ++ lines.flatten

end Rehearsal.Toml
