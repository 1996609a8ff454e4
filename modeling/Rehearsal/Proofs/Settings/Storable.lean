import Rehearsal.Proofs.Toml.Canonical
import Rehearsal.Settings.Reading

/-! # What the values of settings have in common

  Not all values that settings could have come out of a text: counts have thirty-two bits, and a
  threshold is a datum of the format. Settings within these bounds (`Settings.Storable`) can be
  written so that they are read back, and whatever is read keeps to the bounds.

  Main statement: `storable_of_ofText?`.
-/

namespace Rehearsal.Settings

open Toml Number

/-- Settings whose values have the bounds of what can be read. -/
structure Storable (s : Settings) : Prop where
  bpm : s.bpm ≤ maxCount
  totalPages : ∀ n, s.totalPages = some n → n ≤ maxCount
  threshold : s.threshold.Canonical

/-- A layer whose values have the bounds of what can be read. -/
structure Layer.Storable (l : Layer) : Prop where
  bpm : ∀ n, l.bpm = some n → n ≤ maxCount
  totalPages : ∀ n, l.totalPages = some n → n ≤ maxCount
  threshold : ∀ x, l.threshold = some x → x.Canonical

theorem storable_initial : initial.Storable where
  bpm := by decide
  totalPages _ h := nomatch h
  threshold := by
    have hinitial : initial.threshold = .ofDecimal false 45 (-2) := rfl
    rw [hinitial]
    exact Binary64.canonical_ofDecimal _ _ _

theorem Layer.Storable.applyTo {l : Layer} (hl : l.Storable) {below : Settings}
    (hbelow : below.Storable) : (l.applyTo below).Storable where
  bpm := by
    show l.bpm.getD below.bpm ≤ maxCount
    cases h : l.bpm with
    | none => exact hbelow.bpm
    | some n => exact hl.bpm n h
  totalPages n hn := by
    unfold Layer.applyTo at hn
    cases h : l.totalPages with
    | none => exact hbelow.totalPages n (by simpa [h] using hn)
    | some m => exact hl.totalPages n (by simpa [h] using hn)
  threshold := by
    show (l.threshold.getD below.threshold).Canonical
    cases h : l.threshold with
    | none => exact hbelow.threshold
    | some x => exact hl.threshold x h

/-! ## Values of a document -/

variable {document : Entries} {v : Value}

theorem le_of_count? {n : Nat} (h : count? v = some n) : n ≤ maxCount := by
  unfold count? at h
  split at h
  · split at h
    · cases h
      omega
    · cases h
  · cases h

theorem canonical_of_number? (hv : v.Canonical) {x : Binary64} (h : number? v = some x) :
    x.Canonical := by
  cases hv with
  | float hx =>
    cases h
    exact hx
  | integer n =>
    cases h
    exact Binary64.canonical_ofQuotient _ _ Nat.one_pos
  | _ => cases h

theorem canonical_of_get? {entries : Entries} (h : entries.Canonical) {key : String}
    (hv : entries.get? key = some v) : v.Canonical := by
  obtain ⟨e, he, rfl⟩ := Option.map_eq_some_iff.1 hv
  exact h e (List.mem_of_find?_eq_some he)

/-- What is found in a section of a document stands in the document, unless it is an element of a
    list of tables, which is no number. -/
theorem canonical_of_section (hdocument : document.Canonical) {name : String} {found : Section}
    (hfound : sectionNamed? document name = some found) {key : String} {position : Nat}
    (hv : found key position = some v) : v.Canonical := by
  unfold sectionNamed? at hfound
  cases hget : document.get? name with
  | none =>
    rw [hget] at hfound
    cases hfound
    cases hv
  | some value =>
    rw [hget] at hfound
    -- a section is a list, a table, or tables, one of which may be asked for by its place
    cases canonical_of_get? hdocument hget with
    | array hitems =>
      cases hfound
      exact hitems v (List.mem_of_getElem? hv)
    | table origin hentries =>
      cases hfound
      exact canonical_of_get? hentries hv
    | tables helements =>
      cases hfound
      obtain ⟨entries, hentries, rfl⟩ := Option.map_eq_some_iff.1 hv
      exact .table .header (helements entries (List.mem_of_getElem? hentries))
    | datetime text =>
      cases hfound
      cases hv
    | _ => cases hfound

theorem Section.exists_of_read? {α : Type} {found : Section} {key : String} {position : Nat}
    {understand : Value → Option α} {a : α}
    (h : found.read? key position understand = some (some a)) :
    ∃ v, found key position = some v ∧ understand v = some a := by
  unfold Section.read? at h
  split at h
  · cases h
  · rename_i v hv
    obtain ⟨b, hb, hba⟩ := Option.map_eq_some_iff.1 h
    cases hba
    exact ⟨v, hv, hb⟩

theorem storable_of_ofDocument? (hdocument : document.Canonical) {l : Layer}
    (h : Layer.ofDocument? document = some l) : l.Storable := by
  unfold Layer.ofDocument? at h
  -- the five sections
  obtain ⟨tempo, -, h⟩ := Option.bind_eq_some_iff.1 h
  obtain ⟨classifier, hclassifier, h⟩ := Option.bind_eq_some_iff.1 h
  obtain ⟨pager, -, h⟩ := Option.bind_eq_some_iff.1 h
  obtain ⟨input, -, h⟩ := Option.bind_eq_some_iff.1 h
  obtain ⟨viewer, -, h⟩ := Option.bind_eq_some_iff.1 h
  -- the values, in the order of the layer
  obtain ⟨bpm, hbpm, h⟩ := Option.bind_eq_some_iff.1 h
  obtain ⟨subdivision, -, h⟩ := Option.bind_eq_some_iff.1 h
  obtain ⟨usesModel, -, h⟩ := Option.bind_eq_some_iff.1 h
  obtain ⟨threshold, hthreshold, h⟩ := Option.bind_eq_some_iff.1 h
  obtain ⟨musicDir, -, h⟩ := Option.bind_eq_some_iff.1 h
  obtain ⟨totalPages, htotalPages, h⟩ := Option.bind_eq_some_iff.1 h
  obtain ⟨wakeWord, -, h⟩ := Option.bind_eq_some_iff.1 h
  obtain ⟨prompt, -, h⟩ := Option.bind_eq_some_iff.1 h
  obtain ⟨viewerEnabled, -, h⟩ := Option.bind_eq_some_iff.1 h
  obtain ⟨viewerCommand, -, h⟩ := Option.bind_eq_some_iff.1 h
  cases h
  refine ⟨?_, ?_, ?_⟩
  · rintro n rfl
    obtain ⟨v, -, hv⟩ := Section.exists_of_read? hbpm
    exact le_of_count? hv
  · rintro n rfl
    obtain ⟨v, -, hv⟩ := Section.exists_of_read? htotalPages
    exact le_of_count? hv
  · rintro x rfl
    obtain ⟨v, hfound, hv⟩ := Section.exists_of_read? hthreshold
    exact canonical_of_number? (canonical_of_section hdocument hclassifier hfound) hv

/-- **The bounds of settings**: settings that come out of a text keep to what can be written. -/
theorem storable_of_ofText? {source : List Char} {s : Settings} (h : ofText? source = some s) :
    s.Storable := by
  obtain ⟨l, hl, rfl⟩ := Option.map_eq_some_iff.1 h
  obtain ⟨document, hparse, hdocument⟩ := Option.bind_eq_some_iff.1 hl
  exact (storable_of_ofDocument? (canonical_parse hparse) hdocument).applyTo storable_initial

end Rehearsal.Settings
