import Mathlib.Data.List.Chain
import Mathlib.Data.List.DropRight
import Rehearsal.Tempo.Taps

/-! # Which taps count

  Taps are kept one by one: a tap after a long pause throws away those before it, and of more than
  four the oldest goes. Told from the whole history, the taps that count are easier to say. Take the
  taps since they were last cleared, and of these the longest end in which no two neighbours are
  more than three seconds apart: this is the *series* that the last tap belongs to, and its last
  four taps count.

  The proof carries the series along the history. What is kept is the end of the series, so the last
  tap that is kept is the last tap of all, and a pause is measured from the right one
  (`IsSeries.snoc`, `lastFew_append_lastFew`).

  Main statement: `taps_obey_tapLaw`.
-/

namespace Rehearsal

/-- What is done with the taps. -/
inductive TapStep where
  | tap (now : Instant)
  | clear
  deriving DecidableEq, Repr

namespace TapStep

def instant? : TapStep → Option Instant
  | .tap now => some now
  | .clear => none

def later (d : Duration) : TapStep → TapStep
  | .tap now => .tap (now + d)
  | .clear => .clear

end TapStep

/-- The taps of a history since the last time that all were forgotten. -/
def tapsSinceClear (history : List TapStep) : List Instant :=
  (history.rtakeWhile (· != .clear)).filterMap TapStep.instant?

/-- Two taps of one series: the second comes at most three seconds after the first. A tap that seems
    to come earlier comes at the same time. -/
def Neighbours (a b : Instant) : Prop := b - a ≤ Duration.ofSeconds 3

/-- The taps are the longest end of all taps in which any two that follow one another are
    neighbours. -/
structure IsSeries (series taps : List Instant) : Prop where
  suffix : series <:+ taps
  close : series.IsChain Neighbours
  /-- No longer end is as close. -/
  longest : ∀ other, other <:+ taps → other.IsChain Neighbours → other.length ≤ series.length

namespace Taps

def step (t : Taps) : TapStep → Taps
  | .tap now => t.tap now
  | .clear => .empty

def after (t : Taps) (history : List TapStep) : Taps := history.foldl step t

def later (d : Duration) (t : Taps) : Taps := ⟨t.instants.map (· + d)⟩

end Taps

/-! ## The taps since the last clear -/

theorem tapsSinceClear_snoc_tap (history : List TapStep) (now : Instant) :
    tapsSinceClear (history ++ [.tap now]) = tapsSinceClear history ++ [now] := by
  unfold tapsSinceClear
  rw [List.rtakeWhile_concat_pos, List.filterMap_append]
  · rfl
  · rfl

theorem tapsSinceClear_snoc_clear (history : List TapStep) :
    tapsSinceClear (history ++ [.clear]) = [] := by
  unfold tapsSinceClear
  rw [List.rtakeWhile_concat_neg _ _ _ (by decide)]
  rfl

/-! ## The series -/

namespace IsSeries

variable {series taps : List Instant} {now : Instant}

theorem nil : IsSeries [] [] := by
  refine ⟨List.suffix_rfl, List.isChain_nil, ?_⟩
  intro other hother _
  rw [List.suffix_nil.1 hother]

/-- A single tap is a series already, so only where there are no taps there is none. -/
theorem getLast? (h : IsSeries series taps) : series.getLast? = taps.getLast? := by
  obtain ⟨front, rfl⟩ := h.suffix
  rcases List.eq_nil_or_concat series with rfl | ⟨start, last, rfl⟩
  · rcases List.eq_nil_or_concat front with rfl | ⟨start, last, rfl⟩
    · rfl
    · have hsingle := h.longest [last] ⟨start, by simp⟩ (List.isChain_singleton last)
      simp at hsingle
  · simp

/-- One more tap goes on with the series if it is a neighbour of the last one. -/
theorem snoc (h : IsSeries series taps) (hclose : ∀ last ∈ series.getLast?, Neighbours last now) :
    IsSeries (series ++ [now]) (taps ++ [now]) := by
  refine ⟨?_, ?_, ?_⟩
  · obtain ⟨front, rfl⟩ := h.suffix
    exact ⟨front, by simp⟩
  · refine h.close.append (List.isChain_singleton now) ?_
    intro last hlast next hnext
    obtain rfl : now = next := by simpa using hnext
    exact hclose last hlast
  · intro other hother hchain
    -- without the new tap, the other end is one of the taps before it
    rcases List.suffix_concat_iff.1 hother with rfl | ⟨start, rfl, hstart⟩
    · exact Nat.zero_le _
    · have hle := h.longest start hstart hchain.left_of_append
      simp only [List.length_append]
      omega

/-- A tap that is no neighbour of the last one begins a series. -/
theorem begin (h : IsSeries series taps) {last : Instant} (hlast : series.getLast? = some last)
    (hpause : ¬ Neighbours last now) : IsSeries [now] (taps ++ [now]) := by
  refine ⟨List.suffix_append taps [now], List.isChain_singleton now, ?_⟩
  intro other hother hchain
  rcases List.suffix_concat_iff.1 hother with rfl | ⟨start, rfl, hstart⟩
  · exact Nat.zero_le _
  · rcases List.eq_nil_or_concat start with rfl | ⟨before, tap, rfl⟩
    · exact Nat.le_refl _
    · -- the tap before the new one is the last one of the series, whatever end it is taken from
      obtain ⟨front, rfl⟩ := hstart
      have htap : tap = last := by
        have hsame := h.getLast?.symm.trans hlast
        simpa using hsame
      have hneighbours : Neighbours tap now := by
        have hrel := (List.isChain_append.1 hchain).2.2
        exact hrel tap (by simp) now (by simp)
      rw [htap] at hneighbours
      exact absurd hneighbours hpause

end IsSeries

/-! ## The taps that are kept -/

namespace Taps

variable {t : Taps} {now : Instant} {series taps : List Instant}

theorem length_lastFew (instants : List Instant) :
    (lastFew instants).length = min 4 instants.length := by
  simp only [lastFew, capacity, List.length_drop]
  omega

/-- To drop the oldest taps before or after one more tap comes to the same. -/
theorem lastFew_append_lastFew (instants : List Instant) (now : Instant) :
    lastFew (lastFew instants ++ [now]) = lastFew (instants ++ [now]) := by
  have hkept : lastFew instants ++ [now] =
      (instants ++ [now]).drop (instants.length - capacity) := by
    rw [lastFew, List.drop_append_of_le_length (Nat.sub_le _ _)]
  rw [hkept]
  unfold lastFew
  rw [List.drop_drop]
  congr 1
  simp only [capacity, List.length_drop, List.length_append, List.length_singleton]
  omega

/-- The oldest taps are dropped, never the last one. -/
theorem getLast?_lastFew (instants : List Instant) :
    (lastFew instants).getLast? = instants.getLast? := by
  unfold lastFew
  rw [List.getLast?_drop]
  split
  · rename_i hlength
    -- all taps are dropped only if there are none
    have hempty : instants = [] := by
      apply List.length_eq_zero_iff.1
      simp only [capacity] at hlength
      omega
    rw [hempty]
    rfl
  · rfl

/-- The taps that count are the last few of the series. -/
def Keeps (t : Taps) (taps : List Instant) : Prop :=
  ∃ series, IsSeries series taps ∧ t.instants = lastFew series

theorem keeps_empty : empty.Keeps [] := ⟨[], .nil, rfl⟩

/-- **Step**: one more tap goes on with the series or begins another one. -/
theorem Keeps.tap (h : t.Keeps taps) (now : Instant) : (t.tap now).Keeps (taps ++ [now]) := by
  obtain ⟨series, hseries, hinstants⟩ := h
  have hlast : t.instants.getLast? = series.getLast? := by rw [hinstants, getLast?_lastFew]
  unfold Taps.tap Taps.series
  rw [hlast]
  cases hfound : series.getLast? with
  | none =>
    -- the first tap of all
    obtain rfl := List.getLast?_eq_none_iff.1 hfound
    exact ⟨[now], hseries.snoc (by simp), rfl⟩
  | some last =>
    by_cases hpause : Neighbours last now
    · refine ⟨series ++ [now], hseries.snoc ?_, ?_⟩
      · intro a ha
        obtain rfl : last = a := Option.some.inj (hfound.symm.trans ha)
        exact hpause
      · have hlong : ¬ longestPause < now - last := Nat.not_lt.2 hpause
        simp only [if_neg hlong, hinstants, lastFew_append_lastFew]
    · refine ⟨[now], hseries.begin hfound hpause, ?_⟩
      have hlong : longestPause < now - last := Nat.lt_of_not_le hpause
      simp only [if_pos hlong]
      rfl

/-- **Run**: whatever came before, the taps that count are of the last series. -/
theorem keeps_after (history : List TapStep) :
    (empty.after history).Keeps (tapsSinceClear history) := by
  -- from the end, since the taps since the last clear are counted from there
  induction history using List.reverseRecOn with
  | nil => exact keeps_empty
  | append_singleton history s ih =>
    unfold after
    rw [List.foldl_concat]
    cases s with
    | tap now =>
      rw [tapsSinceClear_snoc_tap]
      exact ih.tap now
    | clear =>
      rw [tapsSinceClear_snoc_clear]
      exact keeps_empty

/-! ## Taps at another time -/

theorem lastFew_map (f : Instant → Instant) (instants : List Instant) :
    lastFew (instants.map f) = (lastFew instants).map f := by
  unfold lastFew
  rw [List.length_map, List.map_drop]

/-- Pauses are as long as they were. -/
theorem series_later (t : Taps) (now : Instant) (d : Duration) :
    (t.later d).series (now + d) = (t.series now).map (· + d) := by
  unfold series later
  rw [List.getLast?_map]
  cases t.instants.getLast? with
  | none => rfl
  | some last =>
    have hpause : now + d - (last + d) = now - last := Nat.add_sub_add_right now d last
    simp only [Option.map_some, hpause]
    split
    · rfl
    · rfl

theorem tap_later (t : Taps) (now : Instant) (d : Duration) :
    (t.later d).tap (now + d) = (t.tap now).later d := by
  have hsnoc : (t.series now).map (· + d) ++ [now + d] = (t.series now ++ [now]).map (· + d) := by
    simp
  unfold tap
  rw [series_later, hsnoc, lastFew_map]
  rfl

theorem after_later (t : Taps) (history : List TapStep) (d : Duration) :
    (t.later d).after (history.map (TapStep.later d)) = (t.after history).later d := by
  induction history generalizing t with
  | nil => rfl
  | cons s history ih =>
    have hstep : (t.later d).step (s.later d) = (t.step s).later d := by
      cases s with
      | tap now => exact t.tap_later now d
      | clear => rfl
    show ((t.later d).step (s.later d)).after (history.map (TapStep.later d)) = _
    rw [hstep]
    exact ih (t.step s)

theorem span_later (t : Taps) (d : Duration) : (t.later d).span = t.span := by
  obtain ⟨instants⟩ := t
  cases instants with
  | nil => rfl
  | cons first rest =>
    -- the first tap and the last one come later by the same time
    simp only [span, later, List.map_cons, List.head?_cons]
    simp [List.getLast?_cons, Nat.add_sub_add_right]

theorem bpm?_later (t : Taps) (d : Duration) : (t.later d).bpm? = t.bpm? := by
  have hcount : (t.later d).count = t.count := List.length_map _
  unfold bpm?
  rw [hcount, span_later]

/-! ## The tempo -/

theorem of_bpm?_eq_some {bpm : Nat} (h : t.bpm? = some bpm) :
    2 ≤ t.count ∧ 20 ≤ bpm ∧ bpm ≤ 300 := by
  unfold bpm? estimate at h
  split at h
  · cases h
  · rename_i hcount
    dsimp only at h
    split at h
    · cases h
    · obtain rfl := Option.some.inj h
      exact ⟨Nat.le_of_not_lt hcount, nearestBpm_range _⟩

end Taps

/-! ## The law -/

/-- What holds of the taps that count after a history. The tempo that a tap suggests is that of the
    taps after it. -/
structure TapLaw (history : List TapStep) (t : Taps) : Prop where
  /-- The taps that count are the last four of the series, or all of it if it is shorter. -/
  kept : ∃ series, IsSeries series (tapsSinceClear history) ∧
    t.instants <:+ series ∧ t.count = min 4 series.length
  /-- A tempo that they suggest is in range and rests on two taps at least. -/
  suggested : ∀ bpm, t.bpm? = some bpm → 2 ≤ t.count ∧ 20 ≤ bpm ∧ bpm ≤ 300
  /-- Any other history after which as many taps count and take as long suggests the same. -/
  measured : ∀ other, (Taps.empty.after other).count = t.count →
    (Taps.empty.after other).span = t.span → (Taps.empty.after other).bpm? = t.bpm?
  /-- So does the same history at a later time. -/
  moved : ∀ d, (Taps.empty.after (history.map (TapStep.later d))).bpm? = t.bpm?

/-- **The taps that count**: whatever taps there were, in any order of their instants, and however
    often they were all forgotten, the last tap counts together with the taps directly before it
    that belong to its series, four of them at most. The tempo that they suggest is in range, and
    depends on nothing but how many taps count and how long it took from the first of them to the
    last. -/
theorem taps_obey_tapLaw (history : List TapStep) : TapLaw history (Taps.empty.after history) where
  kept := by
    obtain ⟨series, hseries, hinstants⟩ := Taps.keeps_after history
    refine ⟨series, hseries, ?_, ?_⟩
    · rw [hinstants]
      exact List.drop_suffix _ _
    · unfold Taps.count
      rw [hinstants, Taps.length_lastFew]
  suggested _ h := Taps.of_bpm?_eq_some h
  -- the tempo is computed from these two alone
  measured other hcount hspan := by
    unfold Taps.bpm?
    rw [hcount, hspan]
  moved d := by
    have hmoved : Taps.empty.after (history.map (TapStep.later d)) =
        (Taps.empty.after history).later d := Taps.empty.after_later history d
    rw [hmoved, Taps.bpm?_later]

-- the third tap comes too late for the series of the first two, the fourth one goes back in time
example : (Taps.empty.after [.tap 0, .tap 1000000000, .tap 5000000000, .tap 2000000000]).instants =
    [5000000000, 2000000000] := by decide

-- three taps within one second suggest a tempo, and the same one whenever the second of them comes
example : (Taps.empty.after [.tap 0, .tap 400000000, .tap 1000000000]).bpm?.isSome = true ∧
    (Taps.empty.after [.tap 0, .tap 400000000, .tap 1000000000]).bpm? =
      (Taps.empty.after [.tap 0, .clear, .tap 7000000000, .tap 7700000000, .tap 8000000000]).bpm? :=
  ⟨by decide +kernel, rfl⟩

end Rehearsal
