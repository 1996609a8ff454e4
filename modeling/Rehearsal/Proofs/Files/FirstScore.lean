import Mathlib.Data.List.TakeWhile
import Rehearsal.Files.Score
import Rehearsal.Files.Tree
import Rehearsal.Proofs.Text.ByteOrder

/-! # The score that is found

  The extension of a name is what stands behind its last dot, if anything stands before that dot
  (`extension?_append_dot`). A directory holds a score where an entry is a regular file and its
  extension is `pdf` in either case.

  The score to take is the one whose name comes first in the order of bytes. A directory lists its
  entries in no particular order; the least of some names does not depend on theirs
  (`leastName?_congr`), so every listing gives the same score.

  Main statement: `finds_first_score`.
-/

namespace Rehearsal

open Text

/-! ## Names of scores -/

namespace Path

variable {name stem ext : List Char}

/-- A name has the extension `pdf`, in letters of either case: it stands behind the last dot of the
    name, and something stands before that dot. -/
def IsScoreName (name : List Char) : Prop :=
  ∃ stem ext, stem ≠ [] ∧ name = stem ++ '.' :: ext ∧ '.' ∉ ext ∧
    ext.map Char.toLower = ['p', 'd', 'f']

theorem exists_lastDot (h : '.' ∈ name) : ∃ stem ext, name = stem ++ '.' :: ext ∧ '.' ∉ ext := by
  obtain ⟨ext, stem, hsplit, hext⟩ := List.eq_append_cons_of_mem (List.mem_reverse.2 h)
  refine ⟨stem.reverse, ext.reverse, ?_, by simpa using hext⟩
  rw [← List.reverse_inj, hsplit]
  simp

theorem extension?_of_not_mem (h : '.' ∉ name) : extension? name = none := by
  have hstem : name.reverse.dropWhile (· != '.') = [] := by
    rw [List.dropWhile_eq_nil_iff]
    intro c hc
    have hne : c ≠ '.' := by
      rintro rfl
      exact h (List.mem_reverse.1 hc)
    simpa using hne
  unfold extension?
  rw [hstem]
  rfl

/-- The extension stands behind the last dot. A dot that begins the name is not counted, nor is
    the last of two that make the whole name. -/
theorem extension?_append_dot (hext : '.' ∉ ext) (stem : List Char) :
    extension? (stem ++ '.' :: ext) =
      if stem = [] ∨ isAbove (stem ++ '.' :: ext) = true then none else some ext := by
  -- seen from the end, no dot comes before the one in front of `ext`
  have hstem : (stem ++ '.' :: ext).reverse.dropWhile (· != '.') = '.' :: stem.reverse := by
    have hbehind : ∀ c ∈ ext.reverse, (c != '.') = true := by
      intro c hc
      have hne : c ≠ '.' := by
        rintro rfl
        exact hext (List.mem_reverse.1 hc)
      simpa using hne
    rw [List.reverse_append, List.reverse_cons, List.append_assoc,
      List.dropWhile_append_of_pos hbehind]
    rfl
  have hdrop : (stem ++ '.' :: ext).drop (stem.length + 1) = ext := by
    rw [← List.drop_drop, List.drop_left]
    rfl
  unfold extension?
  rw [hstem]
  simp only [List.length_cons, List.length_reverse, hdrop]
  cases stem with
  | nil => simp
  | cons c stem => simp

theorem namesScore_iff : namesScore name = true ↔ IsScoreName name := by
  constructor
  · intro h
    obtain ⟨ext, hext, hletters⟩ := (Option.any_eq_true _ _).1 h
    by_cases hdot : '.' ∈ name
    · obtain ⟨stem, behind, rfl, hbehind⟩ := exists_lastDot hdot
      rw [extension?_append_dot hbehind] at hext
      split at hext
      · cases hext
      · rename_i hcut
        cases hext
        rw [not_or] at hcut
        exact ⟨stem, ext, hcut.1, rfl, hbehind, by simpa [sameLetters] using hletters⟩
    · rw [extension?_of_not_mem hdot] at hext
      cases hext
  · rintro ⟨stem, ext, hstem, rfl, hext, hletters⟩
    have habove : isAbove (stem ++ '.' :: ext) = false := by
      -- a name of two dots has nothing behind the second one
      rw [Bool.eq_false_iff]
      intro h
      have hlength := congrArg List.length (beq_iff_eq.1 h)
      have hthree := congrArg List.length hletters
      simp only [List.length_append, List.length_cons, List.length_map, List.length_nil]
        at hlength hthree
      omega
    unfold namesScore
    rw [extension?_append_dot hext, if_neg (by simp [hstem, habove])]
    simp [sameLetters, hletters]

end Path

/-! ## The least of some names -/

variable {names others : List (List Char)} {name : List Char}

theorem leastName?_eq_none_iff : leastName? names = none ↔ names = [] := by
  cases names with
  | nil => simp [leastName?]
  | cons name rest =>
    simp only [leastName?]
    split
    · split <;> simp
    · simp

/-- The least name is one of the names, and none of them comes before it. -/
theorem leastName?_spec (h : leastName? names = some name) :
    name ∈ names ∧ ∀ other ∈ names, ¬ other < name := by
  induction names generalizing name with
  | nil => cases h
  | cons first rest ih =>
    simp only [leastName?] at h
    split at h
    · rename_i least hleast
      obtain ⟨hmem, hfirst⟩ := ih hleast
      split at h
      -- the first name comes before the least of the others, or it does not
      · rename_i hlt
        cases h
        refine ⟨List.mem_cons_of_mem first hmem, ?_⟩
        intro other hother
        rcases List.mem_cons.1 hother with rfl | hother
        · exact List.lt_asymm hlt
        · exact hfirst other hother
      · rename_i hnot
        cases h
        refine ⟨List.mem_cons_self, ?_⟩
        intro other hother
        rcases List.mem_cons.1 hother with rfl | hother
        · exact List.lt_irrefl _
        · have hle := List.not_lt.1 (hfirst other hother)
          exact List.not_lt.2 (List.le_trans (List.not_lt.1 hnot) hle)
    · rename_i hnone
      cases h
      rw [leastName?_eq_none_iff.1 hnone]
      simp

theorem leastName?_eq_some_iff :
    leastName? names = some name ↔ name ∈ names ∧ ∀ other ∈ names, ¬ other < name := by
  refine ⟨leastName?_spec, ?_⟩
  rintro ⟨hmem, hfirst⟩
  cases hleast : leastName? names with
  | none =>
    rw [leastName?_eq_none_iff.1 hleast] at hmem
    cases hmem
  | some least =>
    obtain ⟨hmemLeast, hfirstLeast⟩ := leastName?_spec hleast
    rw [List.le_antisymm (List.not_lt.1 (hfirstLeast name hmem))
      (List.not_lt.1 (hfirst least hmemLeast))]

/-- The order in which names are given does not matter, nor that one is given twice. -/
theorem leastName?_congr (h : ∀ name, name ∈ names ↔ name ∈ others) :
    leastName? names = leastName? others := by
  ext name
  simp only [leastName?_eq_some_iff, h]

/-! ## The score of a directory -/

/-- An entry is a score. -/
structure Entry.IsScore (e : Entry) : Prop where
  /-- It is a regular file, not a directory. -/
  isFile : e.isFile = true
  /-- It is named like a score. -/
  named : Path.IsScoreName e.name

theorem mem_scoreNames {entries : List Entry} :
    name ∈ scoreNames entries ↔ ∃ e ∈ entries, e.IsScore ∧ e.name = name := by
  have hscore : ∀ e : Entry, (e.isFile && Path.namesScore e.name) = true ↔ e.IsScore := by
    intro e
    rw [Bool.and_eq_true, Path.namesScore_iff]
    exact ⟨fun h => ⟨h.1, h.2⟩, fun h => ⟨h.isFile, h.named⟩⟩
  simp only [scoreNames, List.mem_map, List.mem_filter, hscore, and_assoc]

/-- **The first score**: whatever a directory holds and in whatever order it lists it, the path that
    is found is that of the score whose name comes first in the order of bytes. Nothing is found
    exactly if none of the entries is a score. A directory that cannot be listed gives its
    failure. -/
theorem finds_first_score {m : Type → Type} [Monad m] [LawfulMonad m] (files : FileAccess m)
    (directory : List Char) : ∃ found : List Entry → Option (List Char),
      files.findScore directory = (fun answer => answer.map found) <$> files.entries directory ∧
        ∀ entries : List Entry,
          (∀ listing : List Entry, listing.Perm entries → found listing = found entries) ∧
          (∀ path, found entries = some path ↔ ∃ e ∈ entries, e.IsScore ∧
            path = Path.join directory e.name ∧
              ∀ other ∈ entries, other.IsScore → ¬ bytes other.name < bytes e.name) ∧
          (found entries = none ↔ ∀ e ∈ entries, ¬ e.IsScore) := by
  refine ⟨fun entries => (firstScore? entries).map (Path.join directory), ?_, ?_⟩
  · rw [FileAccess.findScore, map_eq_pure_bind]
    congr 1
    funext answer
    cases answer with
    | ok entries => rfl
    | error failure => rfl
  · intro entries
    refine ⟨?_, ?_, ?_⟩
    · intro listing h
      -- only which names there are decides
      have hnames : leastName? (scoreNames listing) = leastName? (scoreNames entries) := by
        refine leastName?_congr fun name => ?_
        simp only [mem_scoreNames, h.mem_iff]
      simp only [firstScore?, hnames]
    · intro path
      simp only [firstScore?, Option.map_eq_some_iff, leastName?_eq_some_iff, mem_scoreNames]
      constructor
      · rintro ⟨_, ⟨⟨e, he, hscore, rfl⟩, hleast⟩, rfl⟩
        refine ⟨e, he, hscore, rfl, ?_⟩
        intro other hother hisScore
        exact mt bytes_lt_iff.1 (hleast other.name ⟨other, hother, hisScore, rfl⟩)
      · rintro ⟨e, he, hscore, rfl, hleast⟩
        refine ⟨e.name, ⟨⟨e, he, hscore, rfl⟩, ?_⟩, rfl⟩
        rintro _ ⟨other, hother, hisScore, rfl⟩
        exact mt bytes_lt_iff.2 (hleast other hother hisScore)
    · simp only [firstScore?, Option.map_eq_none_iff, leastName?_eq_none_iff,
        List.eq_nil_iff_forall_not_mem, mem_scoreNames]
      constructor
      · intro h e he hscore
        exact h e.name ⟨e, he, hscore, rfl⟩
      · rintro h name ⟨e, he, hscore, -⟩
        exact h e he hscore

/-- A directory named like a score, a name that is an extension only and a later name are passed
    over. -/
theorem finds_first_score_capitals :
    ∃ found : List Entry → Option (List Char),
      FileTree.access.findScore "music".toList =
          (fun answer => answer.map found) <$> FileTree.access.entries "music".toList ∧
        found [⟨"sonata.pdf".toList, true⟩, ⟨"archive.pdf".toList, false⟩, ⟨".pdf".toList, true⟩,
          ⟨"etude.PDF".toList, true⟩] = some "music/etude.PDF".toList := by
  obtain ⟨found, hfound, hall⟩ := finds_first_score FileTree.access "music".toList
  refine ⟨found, hfound,
    ((hall _).2.1 _).2 ⟨⟨"etude.PDF".toList, true⟩, by simp, ?_, by decide, ?_⟩⟩
  · exact ⟨rfl, Path.namesScore_iff.1 (by decide)⟩
  · intro other hother hscore
    simp only [List.mem_cons, List.not_mem_nil, or_false] at hother
    rcases hother with rfl | rfl | rfl | rfl
    · decide
    · cases hscore.isFile
    · cases Path.namesScore_iff.2 hscore.named
    · exact List.lt_irrefl _

end Rehearsal
