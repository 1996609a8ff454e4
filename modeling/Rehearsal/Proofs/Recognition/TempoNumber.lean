import Rehearsal.Proofs.Recognition.NumberWords
import Rehearsal.Proofs.Recognition.Priority

/-! # The number of a tempo command

  A tempo command is recognised by its pattern, and its number is read by a finder that knows
  nothing of the pattern: it is the first number of the whole text. That is the number which the
  command names unless another number comes before it.

  Main statement: `tempo_is_first_number`.
-/

namespace Rehearsal

open Text Slots

namespace Rule

open Pattern

variable {pattern : Pattern} {ps : List Pattern} {before command d m after text : List Char}
  {value : Option Nat}

/-- The intents of the tempo rules, with the pattern of the rule and the number. -/
inductive SaysTempo : Intent → Pattern → Option Nat → Prop where
  /-- A new tempo. -/
  | set {value : Option Nat} : SaysTempo (.setTempo value) setTempo value
  /-- A higher tempo. -/
  | up {value : Option Nat} :
      SaysTempo (.adjustTempo value .up) (change ["increase", "up"]) value
  /-- A lower tempo. -/
  | down {value : Option Nat} :
      SaysTempo (.adjustTempo value .down) (change ["decrease", "down"]) value

/-- An occurrence of the pattern ends with the number `d`, which begins a word. -/
structure Names (pattern : Pattern) (before command d after : List Char) : Prop where
  /-- The occurrence. -/
  spans : pattern.Spans before (command ++ d) after
  /-- The number. -/
  number : isNumber d = true
  /-- No word goes on in front of the number. -/
  outside : ∀ c ∈ (before ++ command).getLast?, isWord c = false

/-! ## The rule behind a tempo command -/

theorem saysTempo_fill {r : Rule} (hr : r ∈ all)
    (h : SaysTempo (Slots.fill r.kind text) pattern value) :
    pattern = r.pattern ∧ value = number text := by
  simp only [all, List.mem_cons, List.not_mem_nil, or_false] at hr
  rcases hr with rfl | rfl | rfl | rfl | rfl | rfl | rfl | rfl | rfl | rfl | rfl | rfl | rfl | rfl
  all_goals cases h
  all_goals exact ⟨rfl, rfl⟩

/-- What says a tempo is recognised by its pattern, and its number is that of the text. -/
theorem Recognised.occurs_of_saysTempo {intent : Intent} (hrecognised : Recognised text intent)
    (h : SaysTempo intent pattern value) : pattern.Occurs text ∧ value = number text := by
  cases hrecognised with
  | unknown => cases h
  | decided hdecides =>
    obtain ⟨earlier, later, hall, hoccurs, -⟩ := hdecides
    have hmem : _ ∈ all := hall ▸ List.mem_append_right earlier List.mem_cons_self
    obtain ⟨rfl, hvalue⟩ := saysTempo_fill hmem h
    exact ⟨hoccurs, hvalue⟩

/-! ## The number that a command names -/

theorem exists_inOrder_of_saysTempo {intent : Intent} (h : SaysTempo intent pattern value) :
    ∃ ps, pattern = inOrder (ps ++ [.boundary]) := by
  cases h with
  | set => exact ⟨[_, _], rfl⟩
  | up => exact ⟨[_, _, _, _, _, _], rfl⟩
  | down => exact ⟨[_, _, _, _, _, _], rfl⟩

theorem isBoundary_of_spans (h : Spans (inOrder (ps ++ [.boundary])) before m after) :
    Place.isBoundary (before ++ m).getLast? after.head? = true := by
  simp only [spans_inOrder_append, inOrder, spans_seq, spans_boundary, spans_nothing] at h
  obtain ⟨x, _, rfl, -, _, _, rfl, ⟨rfl, hend⟩, rfl⟩ := h
  simpa using hend

theorem blocks_of_names (h : Names (inOrder (ps ++ [.boundary])) before command d after) :
    blocks (before ++ (command ++ d) ++ after) =
      blocks (before ++ command) ++ d :: blocks after := by
  have hword := word_of_isNumber h.number
  have hend : ∀ c ∈ after.head?, isWord c = false := by
    have hboundary := isBoundary_of_spans h.spans
    rw [← List.append_assoc] at hboundary
    exact (Place.isBoundary_behind_word hword).1 hboundary
  rw [← blocks_around_word hword h.outside hend]
  simp only [List.append_assoc]

theorem find?_of_names (h : Names (inOrder (ps ++ [.boundary])) before command d after) :
    (blocks (before ++ (command ++ d) ++ after)).find? isNumber =
      some (((blocks (before ++ command)).find? isNumber).getD d) := by
  rw [blocks_of_names h, List.find?_append, List.find?_cons_of_pos h.number]
  cases (blocks (before ++ command)).find? isNumber <;> rfl

/-- White space and two or three digits at the end are a number of that length. -/
theorem exists_number_of_spans
    (h : Spans (inOrder (ps ++ [gap, twoOrThreeDigits])) before m after) :
    ∃ command d, m = command ++ d ∧ 2 ≤ d.length ∧ isNumber d = true ∧
      ∀ c ∈ (before ++ command).getLast?, isWord c = false := by
  simp only [spans_inOrder_append, inOrder_cons gap, inOrder_cons twoOrThreeDigits, spans_seq,
    spans_gap, spans_twoOrThreeDigits] at h
  obtain ⟨x, _, rfl, -, g, _, rfl, ⟨hne, hblank⟩, d, _, rfl, ⟨htwo, hthree, hdigits⟩, hnil⟩ := h
  obtain rfl := spans_nothing.1 hnil
  refine ⟨x ++ g, d, by simp, htwo, isNumber_iff.2 ⟨by omega, hthree, hdigits⟩, ?_⟩
  rw [← List.append_assoc, List.getLast?_append_of_ne_nil _ hne]
  exact fun c hc => not_isWord_of_isBlank (hblank c (List.mem_of_mem_getLast? hc))

/-- The command for a new tempo always names a number. -/
theorem exists_names_setTempo (h : setTempo.Spans before m after) :
    ∃ command d, m = command ++ d ∧ 2 ≤ d.length ∧ Names setTempo before command d after := by
  obtain ⟨_, _, rfl, hfront, hrest⟩ := spans_seq.1 h
  obtain ⟨rfl, -⟩ := spans_boundary.1 hfront
  obtain ⟨phrase, _, rfl, hphrase, hend⟩ := spans_seq.1 hrest
  obtain ⟨_, _, rfl, hend, hnil⟩ := spans_seq.1 hend
  obtain ⟨rfl, -⟩ := spans_boundary.1 hend
  obtain rfl := spans_nothing.1 hnil
  rw [List.append_nil] at hphrase
  -- with "set" or without, the number stands behind white space
  have hnumber : ∃ ps after,
      Spans (inOrder (ps ++ [gap, twoOrThreeDigits])) before phrase after := by
    rcases spans_either.1 hphrase with hset | hbare
    · exact ⟨[_, _, _, _, _], _, hset⟩
    · exact ⟨[_], _, hbare⟩
  obtain ⟨ps, _, hspans⟩ := hnumber
  obtain ⟨command, d, rfl, htwo, hd, houtside⟩ := exists_number_of_spans hspans
  refine ⟨command, d, by simp, htwo, ⟨?_, hd, houtside⟩⟩
  simpa using h

/-- **The number of a tempo command** is the first number of the text. If the command names a
    number, that is the one unless another number comes before it, and a command for a new tempo
    names one of two or three digits wherever it occurs. -/
theorem tempo_is_first_number (h : SaysTempo (recognise text) pattern value) :
    pattern.Occurs text ∧
      value = ((blocks text).find? isNumber).bind latin? ∧
      (∀ before command d after, text = before ++ (command ++ d) ++ after →
        Names pattern before command d after →
          value = latin? (((blocks (before ++ command)).find? isNumber).getD d)) ∧
      (pattern = setTempo → ∀ before m after, text = before ++ m ++ after →
        setTempo.Spans before m after →
          ∃ command d, m = command ++ d ∧ 2 ≤ d.length ∧
            Names setTempo before command d after) := by
  obtain ⟨hoccurs, hvalue⟩ := (recognised_recognise text).occurs_of_saysTempo h
  obtain ⟨ps, hps⟩ := exists_inOrder_of_saysTempo h
  rw [number_eq] at hvalue
  refine ⟨hoccurs, hvalue, ?_, fun _ before m after _ => exists_names_setTempo⟩
  rintro before command d after rfl hnames
  rw [hps] at hnames
  rw [hvalue, find?_of_names hnames, Option.bind_some]

/-- The number that the command names is read when no other comes before it, whatever number comes
    after it. -/
theorem tempo_is_first_number_spoken :
    SaysTempo (recognise "set tempo to 120 and not to 90".toList) setTempo (some 120) ∧
      some 120 =
        ((blocks "set tempo to 120 and not to 90".toList).find? isNumber).bind latin? := by
  have hrule : recognise "set tempo to 120 and not to 90".toList = .setTempo (some 120) := by
    decide +kernel
  have htempo :
      SaysTempo (recognise "set tempo to 120 and not to 90".toList) setTempo (some 120) := by
    rw [hrule]
    exact .set
  exact ⟨htempo, (tempo_is_first_number htempo).2.1⟩

/-- A number that no command names is read where it comes first: neither is 3 part of the command
    in the first text, nor is any number part of the command in the second. -/
theorem number_beside_command :
    (recognise "3 times tempo 120".toList = .setTempo (some 3) ∧
      ∀ before m after d, "3 times tempo 120".toList = before ++ m ++ after →
        setTempo.Spans before m after → d <:+: m → latin? d ≠ some 3) ∧
    (recognise "increase tempo after 5 bars".toList = .adjustTempo (some 5) .up ∧
      ∀ before m after d, "increase tempo after 5 bars".toList = before ++ m ++ after →
        (change ["increase", "up"]).Spans before m after → d <:+: m →
          isNumber d = false) := by
  refine ⟨⟨by decide +kernel, ?_⟩, by decide +kernel, ?_⟩
  · intro before m after d hsplit hspans hd
    have hcheck : ((setTempo.stretches "3 times tempo 120".toList).all fun m =>
        (m.tails.flatMap List.inits).all fun d => latin? d != some 3) = true := by
      decide +kernel
    exact bne_iff_ne.1 (forall_parts hcheck before m after d hsplit hspans hd)
  · intro before m after d hsplit hspans hd
    have hcheck : (((change ["increase", "up"]).stretches "increase tempo after 5 bars".toList).all
        fun m => (m.tails.flatMap List.inits).all fun d => !isNumber d) = true := by
      decide +kernel
    have hnone := forall_parts hcheck before m after d hsplit hspans hd
    rwa [Bool.not_eq_true'] at hnone

end Rule

end Rehearsal
