import Rehearsal.Proofs.Pattern.Stretches
import Rehearsal.Recognition.Rules

/-! # The first rule that occurs decides

  A rule occurs in a text if some stretch of the text is described by its pattern. The rules stand
  in order; the first one that occurs decides what is recognised, and nothing is recognised if none
  occurs. This is said without reference to any search: `Occurs` only speaks of stretches.

  Main statement: `recognise_by_priority`.
-/

namespace Rehearsal

theorem Pattern.occurs_exactly {words : String} {text : List Char} :
    (exactly words).Occurs text ↔ words.toList <:+: text := by
  constructor
  · rintro ⟨before, m, after, rfl, hm⟩
    rw [spans_exactly.1 hm]
    exact ⟨before, after, rfl⟩
  · rintro ⟨before, after, rfl⟩
    exact ⟨before, words.toList, after, rfl, spans_exactly.2 rfl⟩

namespace Rule

variable {r : Rule} {text : List Char}

/-- The rule decides the text: its pattern occurs, and that of no rule before it does. -/
def Decides (r : Rule) (text : List Char) : Prop :=
  ∃ earlier later, all = earlier ++ r :: later ∧ r.pattern.Occurs text ∧
    ∀ e ∈ earlier, ¬ e.pattern.Occurs text

/-- What the rules say about a text, by priority. -/
inductive Recognised (text : List Char) : Intent → Prop where
  /-- The rule that decides says it, with the values that the text has for it. -/
  | decided {r : Rule} : r.Decides text → Recognised text (Slots.fill r.kind text)
  /-- No rule occurs. -/
  | unknown : (∀ r ∈ all, ¬ r.pattern.Occurs text) → Recognised text .unknown

theorem applies_iff : r.applies text = true ↔ r.pattern.Occurs text := r.pattern.occurs_iff text

theorem deciding?_eq_some_iff : deciding? text = some r ↔ r.Decides text := by
  unfold deciding? Decides
  simp only [List.find?_eq_some_iff_append, Bool.not_eq_true', ← Bool.not_eq_true, applies_iff]
  constructor
  · rintro ⟨hoccurs, earlier, later, hall, hearlier⟩
    exact ⟨earlier, later, hall, hoccurs, hearlier⟩
  · rintro ⟨earlier, later, hall, hoccurs, hearlier⟩
    exact ⟨hoccurs, earlier, later, hall, hearlier⟩

theorem deciding?_eq_none_iff :
    deciding? text = none ↔ ∀ r ∈ all, ¬ r.pattern.Occurs text := by
  simp only [deciding?, List.find?_eq_none, applies_iff]

theorem kind_ne_unknown (h : r ∈ all) : r.kind ≠ .unknown := by
  revert r
  decide

theorem recognised_recognise (text : List Char) : Recognised text (recognise text) := by
  unfold recognise
  cases hdeciding : deciding? text with
  | some r => exact .decided (deciding?_eq_some_iff.1 hdeciding)
  | none => exact .unknown (deciding?_eq_none_iff.1 hdeciding)

theorem Recognised.recognise_eq {intent : Intent} (h : Recognised text intent) :
    recognise text = intent := by
  unfold recognise
  cases h with
  | decided hr => rw [deciding?_eq_some_iff.2 hr]
  | unknown hnone => rw [deciding?_eq_none_iff.2 hnone]

/-- Where a rule occurs, something is understood. -/
theorem recognise_eq_unknown_iff :
    recognise text = .unknown ↔ ∀ r ∈ all, ¬ r.pattern.Occurs text := by
  constructor
  · intro hunknown
    rw [← deciding?_eq_none_iff, ← Option.not_isSome_iff_eq_none]
    intro hsome
    obtain ⟨r, hr⟩ := Option.isSome_iff_exists.1 hsome
    have hfilled : recognise text = Slots.fill r.kind text :=
      (Recognised.decided (deciding?_eq_some_iff.1 hr)).recognise_eq
    have hkind : r.kind = .unknown := by
      rw [← Slots.kind_fill r.kind text, ← hfilled, hunknown]
      rfl
    exact kind_ne_unknown (List.mem_of_find?_eq_some hr) hkind
  · intro hnone
    exact (Recognised.unknown hnone).recognise_eq

/-- **Priority**: what is recognised in a text is the intent of the first rule whose pattern occurs
    in it, with the values that the text has for it, and nothing is recognised exactly if no pattern
    occurs. A pattern that is a text as it stands occurs where that text is part of the other. -/
theorem recognise_by_priority (text : List Char) :
    (∀ intent, recognise text = intent ↔ Recognised text intent) ∧
      (recognise text = .unknown ↔ ∀ r ∈ all, ¬ r.pattern.Occurs text) ∧
      ∀ words : String, (Pattern.exactly words).Occurs text ↔ words.toList <:+: text := by
  refine ⟨?_, recognise_eq_unknown_iff, fun words => Pattern.occurs_exactly⟩
  intro intent
  constructor
  · rintro rfl
    exact recognised_recognise text
  · exact Recognised.recognise_eq

/-- The page is asked for later, and the word for that stands further back. -/
example : recognise "turn page or turn the page in 4 bars".toList = .schedulePageTurn (some 4) := by
  decide +kernel

end Rule

end Rehearsal
