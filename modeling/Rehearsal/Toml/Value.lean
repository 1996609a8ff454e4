import Rehearsal.Number.Binary64

/-! # TOML values

  The values that a TOML document can hold. Tables and the keys in them keep the order in which
  they were written. A table also knows how it came about, because that decides whether later
  lines of the document may add to it.
-/

namespace Rehearsal.Toml

/-- How a table came about. -/
inductive TableOrigin where
  /-- It has a header of its own. -/
  | header
  /-- It lies on the way to a table with a header. -/
  | implied
  /-- It lies on the way to a dotted key. -/
  | dotted
  /-- It was written in braces, and is complete. -/
  | inline
  deriving DecidableEq, Repr

/-- A value. -/
inductive Value where
  | string (text : String)
  /-- A whole number of sixty-four bits. -/
  | integer (n : Int)
  | float (x : Number.Binary64)
  | boolean (b : Bool)
  /-- A date, a time, or both, as written. -/
  | datetime (text : String)
  | array (items : List Value)
  | table (origin : TableOrigin) (entries : List (String × Value))
  /-- Tables that share a header in double brackets. -/
  | tables (elements : List (List (String × Value)))

/-- Keys with their values, in order. -/
abbrev Entries := List (String × Value)

def Entries.get? (entries : Entries) (key : String) : Option Value :=
  (entries.find? fun e => e.1 == key).map (·.2)

end Rehearsal.Toml
