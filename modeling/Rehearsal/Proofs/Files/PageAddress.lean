import Mathlib.Data.List.Basic
import Rehearsal.Files.Path
import Rehearsal.Proofs.Text.Words

/-! # The address of a page, read back

  A viewer gets a page of a score as an address. Whoever reads the address takes what stands between
  `file://` and the first `#` for the path, and what follows that `#` for the fragment.

  The path that an address names is the plain form of the one it is made from. It leads through the
  same directories to the same name (`steps_plain`), and making it plain once more changes nothing
  (`plain_plain`).

  Nothing in an address is escaped. So a `#` in the path is taken for the one in front of the page,
  and what is read is a shorter path with a longer fragment. This is the only character that does
  so: every path without it is read back, and the page with it.

  Main statement: `address_reads_back_iff`.
-/

namespace Rehearsal.Path

open Text

variable {path : List Char} {c : Char} {ns : List (List Char)}

/-! ## The steps of a path -/

/-- The names of a path that lead somewhere else. -/
def steps (path : List Char) : List (List Char) := (names path).filter fun name => !isHere name

theorem names_eq_splitOn (path : List Char) : names path = path.splitOn '/' := by
  unfold names
  rw [pieces_eq_splitOnP, List.splitOn_eq_splitOnP]

@[simp] theorem steps_nil : steps [] = [] := rfl

theorem steps_append_slash (as bs : List Char) :
    steps (as ++ '/' :: bs) = steps as ++ steps bs := by
  unfold steps
  rw [names_eq_splitOn, names_eq_splitOn, names_eq_splitOn, List.splitOn_append_cons_self,
    List.filter_append]

@[simp] theorem steps_slash (cs : List Char) : steps ('/' :: cs) = steps cs :=
  steps_append_slash [] cs

/-- The names that can be steps: there is no slash in them, and they lead somewhere else. -/
def IsStep (name : List Char) : Prop := '/' ∉ name ∧ isHere name = false

theorem IsStep.ne_nil {name : List Char} (h : IsStep name) : name ≠ [] := by
  rintro rfl
  cases h.2

theorem isStep_of_mem {name : List Char} (h : name ∈ steps path) : IsStep name := by
  obtain ⟨hname, hhere⟩ := List.mem_filter.1 h
  refine ⟨?_, by simpa using hhere⟩
  intro hslash
  have hno := (mem_pieces hname).2 '/' hslash
  cases hno

theorem steps_intercalate (h : ∀ n ∈ ns, IsStep n) : steps (['/'].intercalate ns) = ns := by
  cases hns : ns with
  | nil => rfl
  | cons n rest =>
    rw [← hns]
    unfold steps
    rw [names_eq_splitOn, List.splitOn_intercalate '/' (fun n hn => (h n hn).1) (by simp [hns])]
    exact List.filter_eq_self.2 fun n hn => by simp [(h n hn).2]

theorem exists_mem_pieces {p : Char → Bool} {cs : List Char} (hc : c ∈ cs) (hp : p c = false) :
    ∃ w ∈ pieces p cs, c ∈ w := by
  induction cs with
  | nil => cases hc
  | cons d cs ih =>
    unfold pieces
    cases hpieces : pieces p cs with
    | nil => exact absurd hpieces (pieces_ne_nil p cs)
    | cons first rest =>
      dsimp only
      rw [hpieces] at ih
      rcases List.mem_cons.1 hc with rfl | hc
      · simp [hp]
      · obtain ⟨w, hw, hcw⟩ := ih hc
        -- `d` ends a piece, or it is put in front of the first one
        by_cases hd : p d = true
        · rw [if_pos hd]
          exact ⟨w, List.mem_cons_of_mem _ hw, hcw⟩
        · rw [if_neg hd]
          rcases List.mem_cons.1 hw with rfl | hw
          · exact ⟨d :: w, List.mem_cons_self, List.mem_cons_of_mem d hcw⟩
          · exact ⟨w, List.mem_cons_of_mem _ hw, hcw⟩

/-- A character other than the slash and the dot is in a path if it is in one of the steps. -/
theorem mem_iff_steps (hslash : c ≠ '/') (hdot : c ≠ '.') :
    c ∈ path ↔ ∃ name ∈ steps path, c ∈ name := by
  constructor
  · intro hc
    obtain ⟨name, hname, hmem⟩ := exists_mem_pieces (p := (· == '/')) hc (by simpa using hslash)
    refine ⟨name, List.mem_filter.2 ⟨hname, ?_⟩, hmem⟩
    -- a name that leads nowhere else is empty or a dot
    unfold isHere
    have hempty : name ≠ [] := List.ne_nil_of_mem hmem
    have hone : name ≠ ['.'] := by
      rintro rfl
      exact hdot (List.mem_singleton.1 hmem)
    simp [hempty, hone]
  · rintro ⟨name, hname, hc⟩
    exact (mem_pieces (List.mem_filter.1 hname).1).1.subset hc

/-! ## The plain form -/

/-- What stands behind the root in the plain form of a path. -/
def behindRoot (path : List Char) : List Char :=
  ['/'].intercalate (steps path) ++
    if path.getLast? = some '/' && !(steps path).isEmpty then ['/'] else []

theorem plain_eq (h : path.head? = some '/') : plain path = rootOf path ++ behindRoot path := by
  unfold plain behindRoot
  rw [if_pos h, List.append_assoc]
  rfl

theorem behindRoot_eq_nil (h : steps path = []) : behindRoot path = [] := by
  simp [behindRoot, h]

theorem rootOf_cases (path : List Char) : rootOf path = ['/', '/'] ∨ rootOf path = ['/'] := by
  unfold rootOf
  split
  · exact .inl rfl
  · exact .inr rfl

theorem steps_rootOf_append (path cs : List Char) : steps (rootOf path ++ cs) = steps cs := by
  rcases rootOf_cases path with h | h
  · rw [h]
    simp
  · rw [h]
    simp

/-- The plain form of a path from the root has the same steps. -/
theorem steps_plain (h : path.head? = some '/') : steps (plain path) = steps path := by
  have hbody : steps (['/'].intercalate (steps path)) = steps path :=
    steps_intercalate fun n hn => isStep_of_mem hn
  rw [plain_eq h, steps_rootOf_append]
  unfold behindRoot
  split
  · rw [steps_append_slash, hbody, steps_nil, List.append_nil]
  · rw [List.append_nil, hbody]

theorem intercalate_ne_nil (hne : ns ≠ []) (h : ∀ n ∈ ns, IsStep n) :
    ['/'].intercalate ns ≠ [] := by
  intro hnil
  have hsteps := steps_intercalate h
  rw [hnil, steps_nil] at hsteps
  exact hne hsteps.symm

theorem head?_intercalate (h : ∀ n ∈ ns, IsStep n) : (['/'].intercalate ns).head? ≠ some '/' := by
  intro hhead
  cases ns with
  | nil => cases hhead
  | cons n ns =>
    have hstep : IsStep n := h n List.mem_cons_self
    -- a step is not empty, so the whole begins as its first step does
    have hfirst : (['/'].intercalate (n :: ns)).head? = n.head? := by
      cases ns with
      | nil => simp
      | cons m ns =>
        rw [List.intercalate_cons_cons, List.append_assoc,
          List.head?_append_of_ne_nil _ hstep.ne_nil]
    rw [hfirst] at hhead
    exact hstep.1 (List.mem_of_mem_head? hhead)

theorem getLast?_intercalate (h : ∀ n ∈ ns, IsStep n) :
    (['/'].intercalate ns).getLast? ≠ some '/' := by
  induction ns with
  | nil => simp
  | cons n ns ih =>
    cases ns with
    | nil =>
      intro hlast
      rw [List.intercalate_singleton] at hlast
      exact (h n List.mem_cons_self).1 (List.mem_of_getLast? hlast)
    | cons m ns =>
      have hrest : ∀ k ∈ m :: ns, IsStep k := fun k hk => h k (List.mem_cons_of_mem n hk)
      -- the last character is that of the last step
      have hne : ['/'].intercalate (m :: ns) ≠ [] := intercalate_ne_nil (by simp) hrest
      rw [List.intercalate_cons_cons, List.getLast?_append_of_ne_nil _ hne]
      exact ih hrest

theorem head?_behindRoot (path : List Char) : (behindRoot path).head? ≠ some '/' := by
  by_cases hsteps : steps path = []
  · rw [behindRoot_eq_nil hsteps]
    simp
  · have hne := intercalate_ne_nil hsteps fun n hn => isStep_of_mem hn
    unfold behindRoot
    rw [List.head?_append_of_ne_nil _ hne]
    exact head?_intercalate fun n hn => isStep_of_mem hn

theorem rootOf_plain (h : path.head? = some '/') : rootOf (plain path) = rootOf path := by
  have hslashes : (plain path).takeWhile (· == '/') = rootOf path := by
    have hroot : ∀ c ∈ rootOf path, (c == '/') = true := by
      rcases rootOf_cases path with hroot | hroot
      · simp [hroot]
      · simp [hroot]
    -- behind the root no slash comes first, so just the slashes of the root lead the path
    have hbehind : (behindRoot path).takeWhile (· == '/') = [] := by
      cases hcs : behindRoot path with
      | nil => rfl
      | cons c cs =>
        have hc : c ≠ '/' := by simpa [hcs] using head?_behindRoot path
        simp [hc]
    rw [plain_eq h, List.takeWhile_append_of_pos hroot, hbehind, List.append_nil]
  conv_lhs => unfold rootOf
  rw [hslashes]
  rcases rootOf_cases path with hroot | hroot
  · simp [hroot]
  · simp [hroot]

/-- The plain form ends with a slash behind its last step exactly if the path does. -/
theorem getLast?_plain (h : path.head? = some '/') (hne : steps path ≠ []) :
    (plain path).getLast? = some '/' ↔ path.getLast? = some '/' := by
  have hsteps : ∀ n ∈ steps path, IsStep n := fun n hn => isStep_of_mem hn
  have hbody := intercalate_ne_nil hne hsteps
  rw [plain_eq h]
  unfold behindRoot
  by_cases hlast : path.getLast? = some '/'
  · simp [hlast, hne]
  · simp only [hlast, decide_false, Bool.false_and, Bool.false_eq_true, if_false, List.append_nil,
      iff_false]
    rw [List.getLast?_append_of_ne_nil _ hbody]
    exact getLast?_intercalate hsteps

/-- The plain form is plain already. -/
theorem plain_plain (h : path.head? = some '/') : plain (plain path) = plain path := by
  have hroot : (plain path).head? = some '/' := by
    rw [plain_eq h]
    rcases rootOf_cases path with hroot | hroot
    · rw [hroot]
      rfl
    · rw [hroot]
      rfl
  have hbehind : behindRoot (plain path) = behindRoot path := by
    -- a path without steps keeps nothing behind its root; any other keeps its steps and whether it
    -- ends in a slash
    by_cases hne : steps path = []
    · rw [behindRoot_eq_nil hne, behindRoot_eq_nil (by rw [steps_plain h, hne])]
    · unfold behindRoot
      rw [steps_plain h]
      simp only [getLast?_plain h hne]
  rw [plain_eq hroot, rootOf_plain h, hbehind, ← plain_eq h]

/-! ## Reading an address -/

/-- What stands before the first `#` of a text and what follows it, if there is a `#`. -/
def cutAtMark? (text : List Char) : Option (List Char × List Char) :=
  match text.dropWhile (· != '#') with
  | [] => none
  | _ :: fragment => some (text.takeWhile (· != '#'), fragment)

/-- The path and the fragment of the address of a file. -/
def readAddress? (address : List Char) : Option (List Char × List Char) :=
  ("file://".toList.isPrefixOf? address).bind cutAtMark?

def pageFragment (page : Nat) : List Char := "page=".toList ++ (toString page).toList

theorem cutAtMark?_append {front : List Char} (h : '#' ∉ front) (back : List Char) :
    cutAtMark? (front ++ '#' :: back) = some (front, back) := by
  have hfront : ∀ c ∈ front, (c != '#') = true := by
    intro c hc
    rw [bne_iff_ne]
    rintro rfl
    exact h hc
  unfold cutAtMark?
  rw [List.dropWhile_append_of_pos hfront, List.takeWhile_append_of_pos hfront]
  simp

theorem readAddress?_pageAddress (path : List Char) (page : Nat) :
    readAddress? (pageAddress path page) = cutAtMark? (plain path ++ '#' :: pageFragment page) := by
  have hstrip : "file://".toList.isPrefixOf? (pageAddress path page) =
      some (plain path ++ '#' :: pageFragment page) := by
    have hmark : "#page=".toList = '#' :: "page=".toList := by decide
    rw [List.isPrefixOf?_eq_some_iff_append_eq]
    unfold pageAddress pageFragment
    rw [hmark, List.append_assoc, List.append_assoc, List.cons_append]
  unfold readAddress?
  rw [hstrip, Option.bind_some]

theorem mark_mem_plain (h : path.head? = some '/') : '#' ∈ plain path ↔ '#' ∈ path := by
  rw [mem_iff_steps (by decide) (by decide), steps_plain h,
    ← mem_iff_steps (by decide) (by decide)]

/-- **Addresses**: take any path from the root and any page. The address of the page, read back,
    gives the plain form of the path and the page exactly if there is no `#` in the path. If there
    is one, then what stands before the first `#` is taken for the path, and all the rest for the
    fragment. The plain form has the steps of the path, and is its own plain form. -/
theorem address_reads_back_iff (h : path.head? = some '/') (page : Nat) :
    (readAddress? (pageAddress path page) = some (plain path, pageFragment page) ↔ '#' ∉ path) ∧
      (∀ front back, plain path = front ++ '#' :: back → '#' ∉ front →
        readAddress? (pageAddress path page) = some (front, back ++ '#' :: pageFragment page)) ∧
      steps (plain path) = steps path ∧ plain (plain path) = plain path := by
  have hcut : ∀ front back, plain path = front ++ '#' :: back → '#' ∉ front →
      readAddress? (pageAddress path page) = some (front, back ++ '#' :: pageFragment page) := by
    intro front back hsplit hfront
    rw [readAddress?_pageAddress, hsplit, List.append_assoc, List.cons_append,
      cutAtMark?_append hfront]
  refine ⟨⟨?_, ?_⟩, hcut, steps_plain h, plain_plain h⟩
  · intro hread hmark
    obtain ⟨front, back, hsplit, hfront⟩ := List.eq_append_cons_of_mem ((mark_mem_plain h).2 hmark)
    rw [hcut front back hsplit hfront] at hread
    -- what is read is shorter than the plain form
    have hshort : front = plain path := congrArg Prod.fst (Option.some.inj hread)
    have hlength := congrArg List.length hsplit
    rw [← hshort, List.length_append, List.length_cons] at hlength
    omega
  · intro hmark
    rw [readAddress?_pageAddress, cutAtMark?_append]
    rwa [mark_mem_plain h]

/-- A path with superfluous parts, and with spaces in a name. -/
theorem address_reads_back_iff_etude :
    readAddress? (pageAddress "/music/.//etude no 1.pdf".toList 4) =
      some ("/music/etude no 1.pdf".toList, pageFragment 4) := by
  have hroot : "/music/.//etude no 1.pdf".toList.head? = some '/' := rfl
  have hplain : plain "/music/.//etude no 1.pdf".toList = "/music/etude no 1.pdf".toList := by
    decide
  obtain ⟨hread, -⟩ := address_reads_back_iff hroot 4
  rw [hplain] at hread
  exact hread.2 (by decide)

/-- A `#` in a name hides the rest of the name and the page: what is read is another file. -/
theorem address_cut_in_name :
    plain "/music/a#b.pdf".toList = "/music/a#b.pdf".toList ∧
      readAddress? (pageAddress "/music/a#b.pdf".toList 4) =
        some ("/music/a".toList, "b.pdf#page=4".toList) ∧
      readAddress? (pageAddress "/music/a#b.pdf".toList 4) ≠
        some ("/music/a#b.pdf".toList, "page=4".toList) := by
  decide

end Rehearsal.Path
