import Mathlib.Tactic.SplitIfs
import Rehearsal.Proofs.Number.ShortestDigits
import Rehearsal.Proofs.Toml.Readers
import Rehearsal.Toml.Document

/-! # The numbers of a document

  A floating-point number is the result of a rounding wherever it stands in a document, in arrays
  and in tables within tables too. It is therefore a datum of the format (`Binary64.Canonical`), and
  its shortest decimal names it.

  What a statement does to the tables is put together from changes to single tables. A change that
  brings in no other numbers is one that `Keeps` them canonical, and so is what is put together from
  such changes.

  Main statement: `canonical_parse`.
-/

namespace Rehearsal.Toml

open Reader Number

/-- All floating-point numbers in a value are canonical. -/
inductive Value.Canonical : Value → Prop where
  | string (text : String) : Canonical (.string text)
  | integer (n : Int) : Canonical (.integer n)
  | float {x : Binary64} : x.Canonical → Canonical (.float x)
  | boolean (b : Bool) : Canonical (.boolean b)
  | datetime (text : String) : Canonical (.datetime text)
  | array {items : List Value} : (∀ v ∈ items, Canonical v) → Canonical (.array items)
  | table (origin : TableOrigin) {entries : Entries} :
      (∀ e ∈ entries, Canonical e.2) → Canonical (.table origin entries)
  | tables {elements : List Entries} :
      (∀ entries ∈ elements, ∀ e ∈ entries, Canonical e.2) → Canonical (.tables elements)

/-- All floating-point numbers in a table are canonical. -/
def Entries.Canonical (entries : Entries) : Prop := ∀ e ∈ entries, e.2.Canonical

/-! ## Single values -/

theorem yields_decimal : Yields decimal Value.Canonical := by
  refine yields_bind (yields_any _) fun negative _ => yields_bind (yields_any _) fun whole _ => ?_
  refine yields_bind (yields_any _) fun x _ => ?_
  dsimp only
  split_ifs
  · exact yields_failure
  · exact yields_pure (.float (Binary64.canonical_ofDecimal _ _ _))

theorem yields_specialFloat : Yields specialFloat Value.Canonical := by
  have hmagnitude : ∀ t magnitude, (∀ negative, Binary64.Canonical ⟨negative, magnitude⟩) →
      Yields (do exactly t; pure magnitude)
        fun magnitude => ∀ negative, Binary64.Canonical ⟨negative, magnitude⟩ :=
    fun _ _ h => yields_bind (yields_any _) fun _ _ => yields_pure h
  refine yields_bind (yields_any _) fun negative _ => ?_
  refine yields_bind (yields_orElse (hmagnitude _ .infinite fun _ => trivial)
    (hmagnitude _ .undefined fun _ => trivial)) fun magnitude h => ?_
  exact yields_pure (.float (h negative))

theorem yields_integer : Yields integer Value.Canonical := by
  refine yields_bind (yields_any _) fun n _ => ?_
  dsimp only
  split_ifs
  · exact yields_pure (.integer n)
  · exact yields_failure

theorem yields_scalar : Yields scalar Value.Canonical := by
  refine yields_orElse (yields_map (yields_any _) fun text _ => .string text) ?_
  refine yields_orElse ?_ (yields_orElse ?_ ?_)
  · exact yields_orElse (yields_bind (yields_any _) fun _ _ => yields_pure (.boolean true))
      (yields_bind (yields_any _) fun _ _ => yields_pure (.boolean false))
  · exact yields_bind (yields_any _) fun written _ => yields_pure (.datetime _)
  · exact yields_orElse yields_decimal (yields_orElse yields_specialFloat yields_integer)

/-! ## Tables -/

variable {change : TableChange} {made : TableOrigin}

/-- What a key may have, or none. -/
def Slot (old : Option Value) : Prop := ∀ v, old = some v → v.Canonical

/-- A change that leaves all numbers canonical. -/
def Keeps (change : TableChange) : Prop :=
  ∀ origin entries changed, entries.Canonical → change origin entries = some changed →
    changed.Canonical

theorem Entries.canonical_alter {entries changed : Entries} {key : String}
    {change : Option Value → Option Value} (h : entries.Canonical)
    (hchange : ∀ old, Slot old → Slot (change old))
    (heq : entries.alter key change = some changed) : changed.Canonical := by
  induction entries generalizing changed with
  | nil =>
    obtain ⟨v, hv, rfl⟩ := Option.map_eq_some_iff.1 heq
    exact List.forall_mem_singleton.2 (hchange none (fun _ hnone => nomatch hnone) v hv)
  | cons e entries ih =>
    obtain ⟨hfirst, hlater⟩ := List.forall_mem_cons.1 h
    rw [Entries.alter] at heq
    -- the entry with the key is changed; the others stay
    split_ifs at heq
    · obtain ⟨v, hv, rfl⟩ := Option.map_eq_some_iff.1 heq
      refine List.forall_mem_cons.2 ⟨hchange (some e.2) ?_ v hv, hlater⟩
      rintro _ ⟨⟩
      exact hfirst
    · obtain ⟨later, hrest, rfl⟩ := Option.map_eq_some_iff.1 heq
      exact List.forall_mem_cons.2 ⟨hfirst, ih hlater hrest⟩

theorem slot_enter (h : Keeps change) (old : Option Value) (hold : Slot old) :
    Slot (enter made change old) := by
  intro v hv
  unfold enter at hv
  -- nothing is there yet, a table is, or a list of tables whose last one is entered
  split at hv
  · obtain ⟨changed, heq, rfl⟩ := Option.map_eq_some_iff.1 hv
    exact .table made (h made [] changed (List.forall_mem_nil _) heq)
  · split_ifs at hv
    obtain ⟨changed, heq, rfl⟩ := Option.map_eq_some_iff.1 hv
    cases hold _ rfl with
    | table _ hentries => exact .table _ (h _ _ changed hentries heq)
  · split at hv
    · cases hv
    · rename_i elements last before hreverse
      obtain ⟨changed, heq, rfl⟩ := Option.map_eq_some_iff.1 hv
      cases hold _ rfl with
      | tables helements =>
        have hall : ∀ entries ∈ last :: before, Entries.Canonical entries := by
          rw [← hreverse]
          exact fun entries hentries => helements entries (List.mem_reverse.1 hentries)
        rw [List.forall_mem_cons] at hall
        refine .tables fun entries hentries => ?_
        rw [List.mem_append, List.mem_reverse, List.mem_singleton] at hentries
        obtain hbefore | rfl := hentries
        · exact hall.2 entries hbefore
        · exact h .header last _ hall.1 heq
  · cases hv

theorem keeps_along (h : Keeps change) (path : List String) : Keeps (along made change path) := by
  induction path with
  | nil => exact h
  | cons key path ih => exact fun _ _ _ hentries => Entries.canonical_alter hentries (slot_enter ih)

theorem keeps_assign (path : List String) (key : String) {v : Value} (hv : v.Canonical) :
    Keeps (assign path key v) := by
  refine keeps_along (fun origin entries changed hentries heq => ?_) path
  split_ifs at heq
  refine Entries.canonical_alter hentries (fun old _ => ?_) heq
  split_ifs
  · exact fun _ hnone => nomatch hnone
  · rintro _ ⟨⟩
    exact hv

theorem keeps_openTable (path : List String) (key : String) : Keeps (openTable path key) := by
  refine keeps_along (fun _ _ _ hentries => ?_) path
  refine Entries.canonical_alter hentries fun old hold v hv => ?_
  split at hv
  · cases hv
    exact .table .header (List.forall_mem_nil _)
  · cases hv
    cases hold _ rfl with
    | table _ hinner => exact .table .header hinner
  · cases hv

theorem keeps_openElement (path : List String) (key : String) : Keeps (openElement path key) := by
  refine keeps_along (fun _ _ _ hentries => ?_) path
  refine Entries.canonical_alter hentries fun old hold v hv => ?_
  -- a list of one empty table is made, or one more is put at the end of a list
  split at hv
  · cases hv
    exact .tables (List.forall_mem_singleton.2 (List.forall_mem_nil _))
  · cases hv
    cases hold _ rfl with
    | tables helements =>
      refine .tables fun entries hentries => ?_
      obtain hbefore | hlast := List.mem_append.1 hentries
      · exact helements entries hbefore
      · rw [List.mem_singleton.1 hlast]
        exact List.forall_mem_nil _
  · cases hv

/-- What every change keeps is kept by changes one after another. -/
theorem foldlM_preserves {σ α : Type} {f : σ → α → Option σ} {P : σ → Prop} {Q : α → Prop}
    (hf : ∀ s a t, P s → Q a → f s a = some t → P t) {items : List α} (hitems : ∀ a ∈ items, Q a)
    {s t : σ} (hs : P s) (heq : items.foldlM f s = some t) : P t := by
  induction items generalizing s with
  | nil =>
    cases heq
    exact hs
  | cons a items ih =>
    obtain ⟨hfirst, hlater⟩ := List.forall_mem_cons.1 hitems
    rw [List.foldlM_cons] at heq
    obtain ⟨next, hnext, heq⟩ := Option.bind_eq_some_iff.1 heq
    exact ih hlater (hf s a next hs hfirst hnext) heq

/-! ## Values that hold others -/

variable {r : Reader Value}

theorem canonical_tableOf {assignments : List (List String × String × Value)} {entries : Entries}
    (h : ∀ a ∈ assignments, a.2.2.Canonical) (heq : tableOf assignments = some entries) :
    entries.Canonical :=
  foldlM_preserves (P := Entries.Canonical)
    (fun before a after hbefore ha => keeps_assign a.1 a.2.1 ha .header before after hbefore) h
    (List.forall_mem_nil _) heq

theorem yields_assignment (h : Yields r Value.Canonical) :
    Yields (assignment r) fun a => a.2.2.Canonical := by
  refine yields_bind (yields_any _) fun parts _ => yields_bind (yields_any _) fun split _ => ?_
  refine yields_bind (yields_any _) fun _ _ => yields_bind (yields_any _) fun _ _ => ?_
  exact yields_bind h fun v hv => yields_pure hv

theorem yields_array (h : Yields r Value.Canonical) : Yields (array r) Value.Canonical := by
  have hitem : Yields (do filler; let v ← r; filler; pure v) Value.Canonical :=
    yields_bind (yields_any _) fun _ _ => yields_bind h fun v hv =>
      yields_bind (yields_any _) fun _ _ => yields_pure hv
  refine yields_bind (yields_any _) fun _ _ => yields_bind (yields_optional (yields_bind
    (yields_separated hitem) fun items hitems => yields_bind (yields_any _) fun _ _ =>
      yields_pure hitems)) fun items hitems => ?_
  refine yields_bind (yields_any _) fun _ _ => yields_bind (yields_any _) fun _ _ => ?_
  refine yields_pure (.array ?_)
  -- the brackets may have nothing between them
  cases items with
  | none => exact List.forall_mem_nil _
  | some items => exact hitems items rfl

theorem yields_inlineTable (h : Yields r Value.Canonical) :
    Yields (inlineTable r) Value.Canonical := by
  refine yields_bind (yields_any _) fun _ _ => yields_bind (yields_optional (yields_separated
    (yields_bind (yields_assignment h) fun a ha => yields_bind (yields_any _) fun _ _ =>
      yields_pure ha))) fun assignments ha => ?_
  refine yields_bind (yields_any _) fun _ _ => yields_bind (yields_any _) fun _ _ => ?_
  have hall : ∀ a ∈ assignments.getD [], a.2.2.Canonical := by
    cases assignments with
    | none => exact List.forall_mem_nil _
    | some assignments => exact ha assignments rfl
  split
  · rename_i entries hentries
    exact yields_pure (.table .inline (canonical_tableOf hall hentries))
  · exact yields_failure

theorem yields_value (n : Nat) : Yields (value n) Value.Canonical := by
  induction n with
  | zero => exact yields_scalar
  | succ n ih =>
    exact yields_orElse (yields_array ih) (yields_orElse (yields_inlineTable ih) yields_scalar)

/-! ## Statements -/

/-- The number that a statement brings in, if any, is canonical. -/
def Statement.Canonical : Statement → Prop
  | .header _ _ | .element _ _ => True
  | .assign _ _ v => v.Canonical

theorem yields_statement : Yields statement Statement.Canonical := by
  have helement : Yields elementHeader Statement.Canonical := by
    refine yields_bind (yields_any _) fun _ _ => yields_bind (yields_any _) fun _ _ => ?_
    refine yields_bind (yields_any _) fun _ _ => yields_bind (yields_any _) fun _ _ => ?_
    exact yields_pure trivial
  have htable : Yields tableHeader Statement.Canonical := by
    refine yields_bind (yields_any _) fun _ _ => yields_bind (yields_any _) fun _ _ => ?_
    refine yields_bind (yields_any _) fun _ _ => yields_bind (yields_any _) fun _ _ => ?_
    exact yields_pure trivial
  refine yields_orElse helement (yields_orElse htable ?_)
  exact yields_bind (yields_assignment (yields_value _)) fun a ha => yields_pure ha

theorem yields_statements : Yields statements fun lines => ∀ s ∈ lines, s.Canonical := by
  -- blank lines and comments give no statement
  have hline : Yields line fun s => ∀ x ∈ s, x.Canonical := by
    refine yields_bind (yields_any _) fun _ _ => yields_bind (yields_optional yields_statement)
      fun s hs => ?_
    refine yields_bind (yields_any _) fun _ _ => yields_bind (yields_any _) fun _ _ => ?_
    exact yields_bind (yields_any _) fun _ _ => yields_pure hs
  refine yields_bind (yields_many (P := fun s => ∀ x ∈ s, x.Canonical) ?_) fun lines hlines => ?_
  · refine yields_bind (yields_any _) fun done _ => ?_
    split_ifs
    · exact yields_failure
    · exact hline
  · refine yields_bind (yields_any _) fun done _ => ?_
    split_ifs
    · refine yields_pure fun s hs => ?_
      obtain ⟨x, hx, rfl⟩ := List.mem_filterMap.1 hs
      exact hlines _ hx s rfl
    · exact yields_failure

theorem Progress.canonical_apply (p : Progress) (s : Statement) (next : Progress)
    (hp : p.root.Canonical) (hs : s.Canonical) (heq : p.apply s = some next) :
    next.root.Canonical := by
  cases s with
  | header path key =>
    obtain ⟨root, hroot, rfl⟩ := Option.map_eq_some_iff.1 heq
    exact keeps_openTable path key .header p.root root hp hroot
  | element path key =>
    obtain ⟨root, hroot, rfl⟩ := Option.map_eq_some_iff.1 heq
    exact keeps_openElement path key .header p.root root hp hroot
  | assign path key v =>
    obtain ⟨root, hroot, rfl⟩ := Option.map_eq_some_iff.1 heq
    exact keeps_along (keeps_assign path key hs) p.location .header p.root root hp hroot

/-- **The numbers of a document** are canonical, wherever they stand in it. -/
theorem canonical_parse {text : List Char} {document : Entries} (h : parse text = some document) :
    document.Canonical := by
  unfold parse at h
  obtain ⟨⟨lines, rest⟩, hlines, h⟩ := Option.bind_eq_some_iff.1 h
  obtain ⟨done, hdone, h⟩ := Option.bind_eq_some_iff.1 h
  cases h
  exact foldlM_preserves (P := fun p => p.root.Canonical) Progress.canonical_apply
    (yields_statements _ _ hlines) (List.forall_mem_nil _) hdone

end Rehearsal.Toml
