import Rehearsal.Proofs.Toml.Numbers
import Rehearsal.Proofs.Toml.Strings
import Rehearsal.Toml.Document

/-! # Lines read back

  A part of a document is a header with the lines below it, each of them a key and a value. The
  parts are read as statements: what is written for a value decides by itself where it ends
  (`Represents`), so a line is read whatever comes behind it.

  Main statement: `statements_documentText`.
-/

namespace Rehearsal.Toml

open Reader Number

variable {c : Char} {k : String} {v : Value} {s t rest : List Char}

/-! ## Values -/

/-- A text stands for a value: in front of the end of a line it is read as that value. -/
def Represents (t : List Char) (v : Value) : Prop :=
  ∀ rest, scalar (t ++ '\n' :: rest) = some (v, '\n' :: rest)

theorem represents_digitsOf {n : Nat} (hn : n < twoPow 63) :
    Represents (digitsOf n) (.integer n) :=
  scalar_digitsOf hn

theorem represents_writeBool (b : Bool) : Represents (writeBool b) (.boolean b) :=
  scalar_writeBool b

theorem represents_writeFloat {x : Binary64} (hx : x.Canonical) (hnumber : x.isUndefined = false) :
    Represents (writeFloat x) (.float x) :=
  scalar_writeFloat hx hnumber

theorem represents_writeString (text : String) : Represents (writeString text) (.string text) := by
  intro rest
  refine orElse_of_some ?_ _
  rw [map_apply, string_writeString text (by simp [Closes]) (by simp [Closes])]
  rfl

/-- What is read as a single value begins neither with white space nor with a bracket. -/
theorem head_of_scalar {x : Value × List Char} (h : scalar s = some x) :
    ∃ c u, s = c :: u ∧ isSpace c = false ∧ c ≠ '[' ∧ c ≠ '{' := by
  cases s with
  | nil => cases h
  | cons c u =>
    have hne : ∀ d : Char, d.isDigit = false →
        d ∉ ['"', '\'', 't', 'f', '+', '-', 'i', 'n'] → c ≠ d := by
      rintro d hdigit hd rfl
      rw [scalar_of_head hdigit hd] at h
      cases h
    refine ⟨c, u, rfl, ?_, hne '[' rfl (by decide), hne '{' rfl (by decide)⟩
    simp [isSpace, hne ' ' rfl (by decide), hne '\t' rfl (by decide)]

theorem value_of_scalar {x : Value × List Char} (h : scalar s = some x) (n : Nat) :
    value n s = some x := by
  obtain ⟨c, u, rfl, -, hbracket, hbrace⟩ := head_of_scalar h
  cases n with
  | zero => exact h
  | succ n =>
    exact (orElse_of_none (bind_of_none (char_of_ne hbracket u) _) _).trans
      ((orElse_of_none (bind_of_none (char_of_ne hbrace u) _) _).trans h)

/-! ## Keys -/

theorem spaces_of_ends (h : Ends isSpace s) : spaces s = some ((), s) :=
  bind_of_some (run_append (List.forall_mem_nil _) h) _

/-- A key that needs no quotes. -/
def Bare (k : String) : Prop := k.toList ≠ [] ∧ k.toList.all isBareKey = true

instance (k : String) : Decidable (Bare k) := inferInstanceAs (Decidable (_ ∧ _))

/-- A key without quotes begins with none of the characters that would make it something else. -/
theorem Bare.head (h : Bare k) :
    ∃ c u, k.toList = c :: u ∧ isSpace c = false ∧ ∀ d, isBareKey d = false → c ≠ d := by
  obtain ⟨c, u, hk⟩ := List.exists_cons_of_ne_nil h.1
  have hc := List.all_eq_true.1 h.2 c (hk ▸ List.mem_cons_self)
  have hne : ∀ d, isBareKey d = false → c ≠ d := by
    rintro d hd rfl
    rw [hc] at hd
    cases hd
  exact ⟨c, u, hk, by simp [isSpace, hne ' ' rfl, hne '\t' rfl], hne⟩

theorem simpleKey_append (h : Bare k) (hend : Ends isBareKey rest) :
    simpleKey (k.toList ++ rest) = some (k, rest) := by
  have hrun : (String.ofList <$> run1 isBareKey) (k.toList ++ rest) = some (k, rest) := by
    rw [map_apply, run1_append h.1 (List.all_eq_true.1 h.2) hend]
    simp
  obtain ⟨c, u, hk, -, hne⟩ := h.head
  rw [hk, List.cons_append] at hrun ⊢
  have hbasic : basicString (c :: (u ++ rest)) = none := by simp [basicString, hne '"' rfl]
  have hliteral : literalString (c :: (u ++ rest)) = none := by simp [literalString, hne '\'' rfl]
  exact (orElse_of_none hbasic _).trans ((orElse_of_none hliteral _).trans hrun)

/-- A key without dots, up to the mark behind it. -/
theorem key_append (h : Bare k) (hend : Ends isBareKey s)
    (hspaces : spaces s = some ((), c :: rest)) (hdot : c ≠ '.') :
    key (k.toList ++ s) = some ([k], c :: rest) := by
  have hfront : spaces (k.toList ++ s) = some ((), k.toList ++ s) := by
    obtain ⟨c, u, hk, hc, -⟩ := h.head
    rw [hk]
    exact spaces_of_ends (ends_cons_iff.2 hc)
  -- the key goes on only behind a dot, and none comes
  have hpart : (do spaces; let k ← simpleKey; spaces; pure k : Reader String) (k.toList ++ s) =
      some (k, c :: rest) :=
    (bind_of_some hfront _).trans
      ((bind_of_some (simpleKey_append h hend) _).trans (bind_of_some hspaces _))
  refine (bind_of_some (v := [k]) ?_ _).trans rfl
  exact (bind_of_some hpart _).trans
    (bind_of_some (many_of_none (bind_of_none (char_of_ne hdot rest) _)) _)

theorem splitKey_singleton (k : String) (s : List Char) : splitKey [k] s = some (([], k), s) := rfl

/-! ## Statements -/

theorem statement_header (h : Bare k) (rest : List Char) :
    statement ('[' :: (k.toList ++ ']' :: rest)) = some (.header [] k, rest) := by
  have hkey := key_append (s := ']' :: rest) h rfl (spaces_of_ends rfl) (by decide)
  have helement : elementHeader ('[' :: (k.toList ++ ']' :: rest)) = none := by
    obtain ⟨c, u, hk, -, hne⟩ := h.head
    rw [hk]
    refine bind_of_none ((bind_of_some (char_cons '[' _) _).trans ?_) _
    exact bind_of_none (char_of_ne (hne '[' rfl) _) _
  refine (orElse_of_none helement _).trans (orElse_of_some ?_ _)
  exact (bind_of_some (char_cons '[' _) _).trans
    ((bind_of_some hkey _).trans ((bind_of_some (splitKey_singleton k _) _).trans
      (bind_of_some (char_cons ']' rest) _)))

theorem statement_assign (h : Bare k) (hv : scalar s = some (v, rest)) :
    statement (k.toList ++ ' ' :: '=' :: ' ' :: s) = some (.assign [] k v, rest) := by
  have hkey : key (k.toList ++ ' ' :: '=' :: ' ' :: s) = some ([k], '=' :: ' ' :: s) :=
    key_append h rfl rfl (by decide)
  have hspaces : spaces (' ' :: s) = some ((), s) := by
    obtain ⟨c, u, rfl, hc, -⟩ := head_of_scalar hv
    exact bind_of_some (run_append (List.forall_mem_singleton.2 rfl) (ends_cons_iff.2 hc)) _
  have hassignment : assignment (value maxNesting) (k.toList ++ ' ' :: '=' :: ' ' :: s) =
      some (([], k, v), rest) := by
    refine (bind_of_some hkey _).trans ((bind_of_some (splitKey_singleton k _) _).trans ?_)
    refine (bind_of_some (char_cons '=' _) _).trans ((bind_of_some hspaces _).trans ?_)
    exact bind_of_some (value_of_scalar hv maxNesting) _
  obtain ⟨c, u, hk, -, hne⟩ := h.head
  rw [hk] at hassignment ⊢
  -- a header would begin with a bracket, a bare key does not
  have hbracket := char_of_ne (hne '[' rfl) (u ++ ' ' :: '=' :: ' ' :: s)
  refine (orElse_of_none (bind_of_none (bind_of_none hbracket _) _) _).trans ?_
  refine (orElse_of_none (bind_of_none hbracket _) _).trans ?_
  exact bind_of_some hassignment _

/-! ## Lines -/

/-- A line of a document, none behind its end. -/
def nextLine : Reader (Option Statement) := do if ← atEnd then failure else line

theorem nextLine_statement {st : Statement} (hstart : ∃ c u, s = c :: u ∧ isSpace c = false)
    (h : statement s = some (st, '\n' :: rest)) : nextLine s = some (some st, rest) := by
  obtain ⟨c, u, rfl, hc⟩ := hstart
  refine (bind_of_some (v := false) rfl _).trans ?_
  refine (bind_of_some (spaces_of_ends (ends_cons_iff.2 hc)) _).trans ?_
  exact (bind_of_some (optional_of_some h) _).trans rfl

theorem nextLine_blank (rest : List Char) : nextLine ('\n' :: rest) = some (none, rest) := rfl

theorem nextLine_header (h : Bare k) (rest : List Char) :
    nextLine ('[' :: (k.toList ++ ']' :: '\n' :: rest)) = some (some (.header [] k), rest) :=
  nextLine_statement ⟨_, _, rfl, rfl⟩ (statement_header h _)

theorem nextLine_writeLine (h : Bare k) (hv : Represents t v) (rest : List Char) :
    nextLine (writeLine k t ++ rest) = some (some (.assign [] k v), rest) := by
  have hwrite : writeLine k t ++ rest = k.toList ++ ' ' :: '=' :: ' ' :: (t ++ '\n' :: rest) := by
    simp [writeLine]
  obtain ⟨c, u, hk, hc, -⟩ := h.head
  rw [hwrite]
  exact nextLine_statement ⟨c, _, congrArg (· ++ _) hk, hc⟩ (statement_assign h (hv rest))

/-! ## Parts of a document -/

/-- A line with a key and a value: the value, and the text that it is written as. -/
structure Field where
  key : String
  written : List Char
  value : Value

/-- The key needs no quotes, and the text stands for the value. -/
structure Field.Plain (f : Field) : Prop where
  /-- The key needs no quotes. -/
  key : Bare f.key
  /-- The text stands for the value. -/
  value : Represents f.written f.value

/-- A header and the lines below it. -/
structure Part where
  name : String
  fields : List Field

namespace Part

def text (p : Part) : List Char :=
  writeTable p.name (p.fields.map fun f => writeLine f.key f.written)

/-- The lines of the part with the statements that they are read as. -/
def lines (p : Part) : List (List Char × Option Statement) :=
  ('[' :: (p.name.toList ++ [']', '\n']), some (.header [] p.name)) ::
    p.fields.map fun f => (writeLine f.key f.written, some (.assign [] f.key f.value))

def statements (p : Part) : List Statement :=
  .header [] p.name :: p.fields.map fun f => .assign [] f.key f.value

/-- The table that the part describes. -/
def entries (p : Part) : Entries := p.fields.map fun f => (f.key, f.value)

/-- The name needs no quotes, and so for each line. -/
structure Plain (p : Part) : Prop where
  /-- The name needs no quotes. -/
  name : Bare p.name
  /-- Each line is plain. -/
  field : ∀ f ∈ p.fields, f.Plain

theorem flatten_lines (p : Part) : (p.lines.map (·.1)).flatten = p.text := by
  simp [lines, text, writeTable, Function.comp_def]

theorem filterMap_lines (p : Part) : (p.lines.map (·.2)).filterMap id = p.statements := by
  simp [lines, statements, List.filterMap_map]

theorem Plain.nextLine {p : Part} (h : p.Plain) :
    ∀ item ∈ p.lines, ∀ rest, nextLine (item.1 ++ rest) = some (item.2, rest) := by
  intro item hitem rest
  obtain rfl | hfield := List.mem_cons.1 hitem
  · simpa using nextLine_header h.name rest
  · obtain ⟨f, hf, rfl⟩ := List.mem_map.1 hfield
    exact nextLine_writeLine (h.field f hf).key (h.field f hf).value rest

theorem lines_ne_nil (p : Part) : ∀ item ∈ p.lines, item.1 ≠ [] := by
  intro item hitem
  obtain rfl | hfield := List.mem_cons.1 hitem
  · exact List.cons_ne_nil _ _
  · obtain ⟨f, -, rfl⟩ := List.mem_map.1 hfield
    simp [writeLine]

end Part

/-! ## Documents -/

/-- The text of a document, with a blank line between its parts. -/
def documentText (parts : List Part) : List Char := ['\n'].intercalate (parts.map Part.text)

def documentLines : List Part → List (List Char × Option Statement)
  | [] => []
  | [p] => p.lines
  | p :: q :: parts => p.lines ++ (['\n'], none) :: documentLines (q :: parts)

theorem flatten_documentLines (parts : List Part) :
    ((documentLines parts).map (·.1)).flatten = documentText parts := by
  induction parts using documentLines.induct with
  | case1 => rfl
  | case2 p => simp [documentLines, documentText, Part.flatten_lines]
  | case3 p q parts ih =>
    simp only [documentText, List.map_cons, List.intercalate_cons_cons] at ih ⊢
    simp [documentLines, Part.flatten_lines, ih]

theorem filterMap_documentLines (parts : List Part) :
    ((documentLines parts).map (·.2)).filterMap id = parts.flatMap Part.statements := by
  induction parts using documentLines.induct with
  | case1 => rfl
  | case2 p => rw [documentLines, Part.filterMap_lines, List.flatMap_singleton]
  | case3 p q parts ih =>
    rw [documentLines, List.map_append, List.filterMap_append, Part.filterMap_lines, List.map_cons,
      List.filterMap_cons_none rfl, ih]
    exact List.flatMap_cons.symm

theorem nextLine_documentLines {parts : List Part} (h : ∀ p ∈ parts, p.Plain) :
    ∀ item ∈ documentLines parts, item.1 ≠ [] ∧
      ∀ rest, nextLine (item.1 ++ rest) = some (item.2, rest) := by
  induction parts using documentLines.induct with
  | case1 => exact List.forall_mem_nil _
  | case2 p =>
    intro item hitem
    exact ⟨p.lines_ne_nil item hitem, (h p List.mem_cons_self).nextLine item hitem⟩
  -- a blank line stands between two parts
  | case3 p q parts ih =>
    intro item hitem
    rw [documentLines, List.mem_append, List.mem_cons] at hitem
    obtain hfirst | rfl | hlater := hitem
    · exact ⟨p.lines_ne_nil item hfirst, (h p List.mem_cons_self).nextLine item hfirst⟩
    · exact ⟨List.cons_ne_nil _ _, nextLine_blank⟩
    · exact ih (fun other hother => h other (List.mem_cons_of_mem _ hother)) item hlater

/-- **Lines read back**: a document is read as the statements that its parts consist of. -/
theorem statements_documentText {parts : List Part} (h : ∀ p ∈ parts, p.Plain) :
    statements (documentText parts) = some (parts.flatMap Part.statements, []) := by
  have hlines := nextLine_documentLines h
  have hend : nextLine [] = none := rfl
  have hmany := many_flatten (documentLines parts) (fun item hitem => (hlines item hitem).2)
    (fun item hitem => (hlines item hitem).1) hend
  rw [List.append_nil, flatten_documentLines] at hmany
  refine (bind_of_some hmany _).trans ?_
  rw [filterMap_documentLines]
  rfl

end Rehearsal.Toml
