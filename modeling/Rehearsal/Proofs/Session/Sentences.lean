import Rehearsal.Proofs.Number.Digits
import Rehearsal.Session.Response

/-! # Sentences can be told apart

  A sentence is known by the words that it begins with, its `Topic`. No topic begins another one, so
  a sentence of one kind is never taken for one of another kind, whatever value it tells
  (`Topic.of?_lead_append`). The value that a sentence tells can be read back from it: two sentences
  of one kind are the same only if they tell the same (`Response.tempoSet_inj` and the like).
-/

namespace Rehearsal

/-! ## What sentences are about -/

/-- What a sentence tells of the session. -/
inductive Topic where
  | tempoSet
  | tempoIs
  | page
  | subdivision
  | started
  | stopped
  | turn
  deriving DecidableEq, Repr

namespace Topic

def all : List Topic := [.tempoSet, .tempoIs, .page, .subdivision, .started, .stopped, .turn]

/-- The words that sentences about a topic begin with. -/
def lead : Topic → String
  | .tempoSet => "Tempo set to "
  | .tempoIs => "Tempo is "
  | .page => "Page "
  | .subdivision => "Subdivision set to "
  | .started => "Metronome started."
  | .stopped => "Metronome stopped."
  | .turn => "Okay, turning the page in "

def of? (text : String) : Option Topic := all.find? fun t => t.lead.toList.isPrefixOf text.toList

theorem mem_all (t : Topic) : t ∈ all := by cases t <;> decide

theorem leads_apart : ∀ s ∈ all, ∀ t ∈ all, s ≠ t → ¬ s.lead.toList <+: t.lead.toList := by
  decide

/-- A sentence has the topic that it begins with. -/
theorem of?_lead_append (t : Topic) (rest : String) : of? (t.lead ++ rest) = some t := by
  have hlead : t.lead.toList <+: (t.lead ++ rest).toList := by
    rw [String.toList_append]
    exact List.prefix_append _ _
  cases hfound : of? (t.lead ++ rest) with
  | none =>
    have hnot := List.find?_eq_none.1 hfound t t.mem_all
    exact absurd (List.isPrefixOf_iff_prefix.2 hlead) hnot
  | some s =>
    have hs : s.lead.toList <+: (t.lead ++ rest).toList :=
      List.isPrefixOf_iff_prefix.1 (List.find?_eq_some_iff_append.1 hfound).1
    by_cases hsame : s = t
    · rw [hsame]
    · -- of two beginnings of one sentence one begins the other
      rcases List.prefix_or_prefix_of_prefix hs hlead with h | h
      · exact absurd h (leads_apart s s.mem_all t t.mem_all hsame)
      · exact absurd h (leads_apart t t.mem_all s s.mem_all (Ne.symm hsame))

theorem of?_lead_append_append (t : Topic) (middle rest : String) :
    of? (t.lead ++ middle ++ rest) = some t := by
  rw [String.append_assoc]
  exact t.of?_lead_append (middle ++ rest)

theorem of?_lead (t : Topic) : of? t.lead = some t := by
  have h := t.of?_lead_append ""
  rwa [String.append_empty] at h

end Topic

namespace Response

/-! ## What sentences say -/

theorem toString_inj {m n : Nat} (h : toString m = toString n) : m = n := by
  have hdigits : Number.digitsOf m = Number.digitsOf n := by
    have hlists : (Nat.repr m).toList = (Nat.repr n).toList := congrArg String.toList h
    rwa [Nat.toList_repr, Nat.toList_repr] at hlists
  rw [← Number.ofDigits_digitsOf m, hdigits, Number.ofDigits_digitsOf]

theorem eq_of_between {front back x y : String} (h : front ++ x ++ back = front ++ y ++ back) :
    x = y :=
  (String.append_right_inj front).1 ((String.append_left_inj back).1 h)

theorem tempoSet_inj {m n : Nat} (h : (tempoSet m).text = (tempoSet n).text) : m = n :=
  toString_inj (eq_of_between h)

theorem tempoIs_inj {m n : Nat} (h : (tempoIs m).text = (tempoIs n).text) : m = n :=
  toString_inj (eq_of_between h)

theorem pageIs_inj {m n : Nat} (h : (pageIs m).text = (pageIs n).text) : m = n :=
  toString_inj (eq_of_between h)

/-- One bar cannot be taken for several, because there are digits before the word. -/
theorem turnScheduled_inj {m n : Nat} (h : (turnScheduled m).text = (turnScheduled n).text) :
    m = n := by
  -- one bar is not several, whatever the number: "bar." is shorter
  have hmixed : ∀ k : Nat, toString 1 ++ " bar." ≠ toString k ++ " bars." := by
    intro k hk
    have hlength : (toString 1 ++ " bar.").toList.length = (toString k ++ " bars.").toList.length :=
      congrArg (fun text : String => text.toList.length) hk
    have hdigits : 0 < (toString k).toList.length := by
      show 0 < (Nat.repr k).toList.length
      rw [Nat.toList_repr]
      exact Nat.length_toDigits_pos
    rw [String.toList_append, List.length_append, String.toList_append,
      List.length_append] at hlength
    have hleft : (toString 1).toList.length + " bar.".toList.length = 6 := by decide
    have hright : " bars.".toList.length = 6 := by decide
    omega
  unfold turnScheduled say at h
  dsimp only at h
  -- both in the singular, both in the plural, or mixed
  by_cases hm : m = 1
  · by_cases hn : n = 1
    · rw [hm, hn]
    · rw [if_pos hm, if_neg hn, hm, String.append_assoc, String.append_assoc] at h
      exact absurd ((String.append_right_inj _).1 h) (hmixed n)
  · by_cases hn : n = 1
    · rw [if_neg hm, if_pos hn, hn, String.append_assoc, String.append_assoc] at h
      exact absurd ((String.append_right_inj _).1 h).symm (hmixed m)
    · rw [if_neg hm, if_neg hn] at h
      exact toString_inj (eq_of_between h)

end Response

end Rehearsal
