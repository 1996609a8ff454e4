import Rehearsal.Proofs.Pattern.Readings
import Rehearsal.Proofs.Text.Words
import Rehearsal.Recognition.Rules

/-! # The same values from either text

  The rules read values out of the normalised utterance, the statistical model leaves the
  utterance as it stands. The normalised utterance is the utterance itself in another spelling,
  so every finder reads the same out of both, up to the two letters that lower case turns into
  characters of a word: `knownForm` has to put their lower-case forms in their place.

  Main statement: `fill_eq_recognise`.
-/

namespace Rehearsal

open Text

/-! ## Normalised text is respelled text -/

/-- A curly apostrophe made straight. -/
def straight (c : Char) : Char := if c = '\u2019' || c = '\u2018' then '\'' else c

theorem traits_straight (c : Char) : traits (straight c) = traits c := by
  unfold straight
  split
  · rename_i h
    rw [Bool.or_eq_true, decide_eq_true_eq, decide_eq_true_eq] at h
    rcases h with rfl | rfl
    · decide +kernel
    · decide +kernel
  · rfl

theorem isBlank_knownForm (c : Char) : isBlank (knownForm c) = isBlank c := by
  unfold knownForm
  split
  · rename_i h
    rw [h]
    decide
  · split
    · rename_i h
      rw [h]
      decide
    · rfl

theorem trimStart_map_knownForm (cs : List Char) :
    trimStart (cs.map knownForm) = (trimStart cs).map knownForm := by
  have hblank : isBlank ∘ knownForm = isBlank := funext isBlank_knownForm
  rw [trimStart, List.dropWhile_map, hblank, trimStart]

theorem traits_sigma (final : Bool) :
    traits (knownForm 'Σ') = traits (straight (if final then 'ς' else 'σ')) := by
  cases final
  · decide +kernel
  · decide +kernel

theorem respelled_lowercase {blank : List Char} (hblank : ∀ c ∈ blank, isBlank c = true)
    (cs : List Char) (afterCased : Bool) :
    Respelled ((cs ++ blank).map knownForm) ((lowercaseFrom afterCased cs).map straight) := by
  induction cs generalizing afterCased with
  | nil =>
    refine .blanks ?_ (fun c hc => absurd hc List.not_mem_nil)
    intro c hc
    obtain ⟨d, hd, rfl⟩ := List.mem_map.1 hc
    rw [isBlank_knownForm]
    exact hblank d hd
  | cons c cs ih =>
    rw [lowercaseFrom, List.cons_append, List.map_cons]
    -- the sigma depends on its neighbours, the capital with a dot becomes two characters
    by_cases hsigma : c = 'Σ'
    · subst hsigma
      rw [if_pos rfl]
      exact .cons (traits_sigma _) (ih _)
    · rw [if_neg hsigma]
      by_cases hdotted : c = '\u0130'
      · subst hdotted
        exact .dotted (ih _)
      · obtain ⟨d, hd, htraits⟩ := traits_lowerChar hdotted
        rw [hd]
        exact .cons (htraits.trans (traits_straight d).symm) (ih _)

/-- The normalised text is the text in another spelling, but for white space in front. -/
theorem respelled_normalize (u : List Char) :
    Respelled (trimStart (u.map knownForm)) (normalize u) := by
  obtain ⟨blank, hsplit, hblank⟩ := exists_trimEnd_append (trimStart u)
  rw [trimStart_map_knownForm, hsplit]
  exact respelled_lowercase hblank (trim u) false

/-! ## Values depend on traits -/

section Values

variable {ms ns : List Char}

theorem eq_of_digits (h : ms.map traits = ns.map traits) (hdigits : ms.all Char.isDigit = true) :
    ms = ns := by
  induction ms generalizing ns with
  | nil => exact (List.map_eq_nil_iff.1 h.symm).symm
  | cons c ms ih =>
    cases ns with
    | nil => cases h
    | cons d ns =>
      obtain ⟨hcd, hrest⟩ := List.cons.inj h
      rw [List.all_cons, Bool.and_eq_true] at hdigits
      -- the traits of a digit include the digit itself
      have hc : (traits c).value = some c := Option.guard_eq_some_iff.2 ⟨rfl, hdigits.1⟩
      rw [hcd] at hc
      rw [(Option.guard_eq_some_iff.1 hc).1, ih hrest hdigits.2]

theorem value?_congr (h : ms.map traits = ns.map traits) : Slots.value? ms = Slots.value? ns := by
  -- digits with a value are their own trait, so the two rows are equal or neither has a value
  by_cases hms : ms.all Char.isDigit = true
  · rw [eq_of_digits h hms]
  · by_cases hns : ns.all Char.isDigit = true
    · rw [eq_of_digits h.symm hns]
    · rw [Slots.value?, Slots.value?, if_neg hms, if_neg hns]

theorem dropWhile_congr (h : ms.map traits = ns.map traits) :
    (ms.dropWhile isBlank).map traits = (ns.dropWhile isBlank).map traits := by
  have hdrop : ∀ cs : List Char,
      (cs.dropWhile isBlank).map traits = (cs.map traits).dropWhile Traits.blank := by
    intro cs
    rw [List.dropWhile_map]
    rfl
  rw [hdrop, hdrop, h]

theorem reverse_congr (h : ms.map traits = ns.map traits) :
    ms.reverse.map traits = ns.reverse.map traits := by
  rw [List.map_reverse, List.map_reverse, h]

theorem trim_congr (h : ms.map traits = ns.map traits) :
    (trim ms).map traits = (trim ns).map traits :=
  reverse_congr (dropWhile_congr (reverse_congr (dropWhile_congr h)))

/-- A letter in lower case other than `k` is the trait of itself and its capital. -/
theorem toLower_eq_iff {x : Char} (hx : (x.isLower && x != 'k') = true) (c : Char) :
    x.toLower = c.toLower ↔ some x = (traits c).letter := by
  have hlower : x.toLower = x :=
    Char.toLower_eq_of_not_isUpper (Char.not_isUpper_of_isLower (Bool.and_eq_true_iff.1 hx).1)
  have hguard : (traits c).letter = some x ↔
      c.toLower = x ∧ (c.toLower.isLower && c.toLower != 'k') = true :=
    Option.guard_eq_some_iff (p := fun x : Char => x.isLower && x != 'k')
  rw [hlower, eq_comm (a := some x), hguard]
  constructor
  · rintro rfl
    exact ⟨rfl, hx⟩
  · exact fun h => h.1.symm

/-- A word in lower case without a `k` is compared by the letters of the other one. -/
theorem sameLetters_iff {name : List Char}
    (hname : (name.all fun x => x.isLower && x != 'k') = true) (cs : List Char) :
    sameLetters name cs = true ↔ name.map some = cs.map fun c => (traits c).letter := by
  rw [sameLetters, beq_iff_eq]
  induction name generalizing cs with
  | nil => cases cs <;> simp
  | cons x name ih =>
    rw [List.all_cons, Bool.and_eq_true] at hname
    cases cs with
    | nil => simp
    | cons c cs =>
      rw [List.map_cons, List.map_cons, List.map_cons, List.map_cons, List.cons.injEq,
        List.cons.injEq, toLower_eq_iff hname.1, ih hname.2]

theorem name_all (s : Subdivision) : (s.name.toList.all fun x => x.isLower && x != 'k') = true := by
  cases s <;> decide +kernel

theorem ofName?_congr (h : ms.map traits = ns.map traits) :
    Subdivision.ofName? ms = Subdivision.ofName? ns := by
  have hletters : (trim ms).map (fun c => (traits c).letter) =
      (trim ns).map fun c => (traits c).letter := by
    have htraits := congrArg (List.map Traits.letter) (trim_congr h)
    rwa [List.map_map, List.map_map] at htraits
  unfold Subdivision.ofName?
  congr 1
  funext s
  rw [Bool.eq_iff_iff, sameLetters_iff (name_all s), sameLetters_iff (name_all s), hletters]

end Values

/-! ## The values of an utterance -/

namespace Slots

/-- What a finder reads out of two texts is valued in the same way if it has the same traits. -/
theorem bind_find?_congr {f : Finder} {u v : List Char}
    (hfind : (f.find? u).map (List.map traits) = (f.find? v).map (List.map traits)) {α : Type}
    {value : List Char → Option α}
    (hvalue : ∀ ms ns, ms.map traits = ns.map traits → value ms = value ns) :
    (f.find? u).bind value = (f.find? v).bind value := by
  cases hleft : f.find? u with
  | none =>
    rw [hleft, Option.map_none] at hfind
    rw [Option.map_eq_none_iff.1 hfind.symm]
  | some m =>
    rw [hleft, Option.map_some] at hfind
    obtain ⟨n, hn, hmn⟩ := Option.map_eq_some_iff.1 hfind.symm
    rw [hn, Option.bind_some, Option.bind_some, hvalue m n hmn.symm]

/-- Two texts have the same values for every kind if finders read stretches with the same traits
    out of both. -/
theorem fill_congr {u v : List Char} (h : ∀ f : Finder, f.byTraits = true →
    (f.find? u).map (List.map traits) = (f.find? v).map (List.map traits)) (kind : Kind) :
    fill kind u = fill kind v := by
  -- each value is that of a finder, and its text is read by traits alone
  have hnumber : number u = number v :=
    bind_find?_congr (h _ (by decide +kernel)) fun _ _ => value?_congr
  have hpage : page u = page v := by
    rw [page, page, hnumber]
    rw [bind_find?_congr (h _ (by decide +kernel)) fun _ _ => value?_congr]
  have hbars : bars u = bars v :=
    bind_find?_congr (h _ (by decide +kernel)) fun _ _ => value?_congr
  have hsubdivision : subdivision u = subdivision v :=
    bind_find?_congr (h _ (by decide +kernel)) fun _ _ => ofName?_congr
  cases kind with
  | setTempo => exact congrArg Intent.setTempo hnumber
  | increaseTempo => exact congrArg (Intent.adjustTempo · .up) hnumber
  | decreaseTempo => exact congrArg (Intent.adjustTempo · .down) hnumber
  | setSubdivision => exact congrArg Intent.setSubdivision hsubdivision
  | gotoPage => exact congrArg Intent.gotoPage hpage
  | schedulePageTurn => exact congrArg Intent.schedulePageTurn hbars
  | _ => rfl

theorem fill_normalize (kind : Kind) (u : List Char) :
    fill kind (u.map knownForm) = fill kind (normalize u) :=
  fill_congr (fun _ hf => Finder.find?_respelled hf (respelled_normalize u)) kind

end Slots

theorem Rule.fill_kind_recognise (text : List Char) :
    Slots.fill (recognise text).kind text = recognise text := by
  unfold recognise
  split
  · rw [Slots.kind_fill]
  · rfl

/-- **The same values from either text**: whatever the rules recognise in an utterance, its values
    are those that the utterance itself has for its kind, once two letters are replaced by their
    lower-case forms. So the values of the utterance as it stands are the same exactly if
    replacing the two letters changes none of them, and in particular if it has neither. -/
theorem fill_eq_recognise {u : List Char} {intent : Intent}
    (h : Rule.recognise (normalize u) = intent) :
    Slots.fill intent.kind (u.map knownForm) = intent ∧
      (Slots.fill intent.kind u = intent ↔
        Slots.fill intent.kind u = Slots.fill intent.kind (u.map knownForm)) ∧
      ((∀ c ∈ u, c ≠ '\uA7D2' ∧ c ≠ '\uA7D4') → Slots.fill intent.kind u = intent) := by
  have hknown : Slots.fill intent.kind (u.map knownForm) = intent := by
    rw [Slots.fill_normalize, ← h]
    exact Rule.fill_kind_recognise (normalize u)
  refine ⟨hknown, by rw [hknown], ?_⟩
  intro hu
  -- the two letters are the only ones with another known form
  have hmap : u.map knownForm = u := by
    refine (List.map_congr_left ?_).trans u.map_id
    intro c hc
    rw [knownForm, if_neg (hu c hc).1, if_neg (hu c hc).2]
    rfl
  rwa [hmap] at hknown

/-- Other letters do no harm, here the capital with a dot and the kelvin sign. -/
theorem fill_eq_recognise_other_letters :
    Rule.recognise (normalize "SET TEMPO TO 90 \u0130\u212A".toList) = .setTempo (some 90) ∧
      Slots.fill .setTempo "SET TEMPO TO 90 \u0130\u212A".toList = .setTempo (some 90) := by
  have hrule : Rule.recognise (normalize "SET TEMPO TO 90 \u0130\u212A".toList) =
      .setTempo (some 90) := by
    decide +kernel
  have hall : ("SET TEMPO TO 90 \u0130\u212A".toList.all fun c =>
      c != '\uA7D2' && c != '\uA7D4') = true := by
    decide +kernel
  refine ⟨hrule, (fill_eq_recognise hrule).2.2 ?_⟩
  intro c hc
  have hne := List.all_eq_true.1 hall c hc
  rwa [Bool.and_eq_true, bne_iff_ne, bne_iff_ne] at hne

/-- With one of the two letters next to a number the values differ: the rules read the tempo, the
    utterance itself has another number before it. -/
theorem fill_ne_recognise :
    Rule.recognise (normalize "5\uA7D2 tempo 120".toList) = .setTempo (some 120) ∧
      Slots.fill .setTempo "5\uA7D2 tempo 120".toList = .setTempo (some 5) := by
  decide +kernel

end Rehearsal
