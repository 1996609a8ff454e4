import Mathlib.Data.List.Basic
import Rehearsal.Proofs.Recognition.KnownTerms

/-! # Every access finds its place

  The definitions of the model pass over what is missing: a column without a weight weighs nothing,
  an entry outside a row is left out of a sum, a kind that is not listed gets the number zero. Here
  training and prediction are written once more, place by place, with every look-up in a list or an
  array open to fail (`Model.train?`, `Model.predict?`). They do not fail, and they give what the
  definitions of the model give.

  What carries the proof is the shape of the parameters. It is the same before and after every
  phrase and every step, and the columns of a vector and the numbers of the kinds fit into it.

  Main statement: `accesses_in_range`.
-/

namespace Rehearsal

/-! ## Loops over places -/

section Loops

variable {α β : Type} {xs : Array α} {ys : Array β} {i n : Nat} {x y : α} {f : α → β → α}

/-- An array with the entry at one place changed. There is no result without such an entry. -/
def changeAt? (xs : Array α) (i : Nat) (change : α → Option α) : Option (Array α) := do
  let x ← xs[i]?
  let y ← change x
  return xs.setIfInBounds i y

theorem changeAt?_eq_some {change : α → Option α} (hx : xs[i]? = some x) (hy : change x = some y) :
    changeAt? xs i change = some (xs.setIfInBounds i y) := by
  simp [changeAt?, hx, hy]

theorem changeAt?_of_lt (h : i < xs.size) (g : α → α) :
    changeAt? xs i (fun x => some (g x)) = some (xs.modify i g) := by
  have hset : xs.setIfInBounds i (g xs[i]) = xs.modify i g := by
    ext j
    · simp
    · grind
  rw [← hset]
  exact changeAt?_eq_some (Array.getElem?_eq_getElem h) rfl

/-- Changes at one place are one change at this place. -/
theorem foldlM_changeAt? {l : List β} {change : β → α → Option α} (hx : xs[i]? = some x)
    (hy : l.foldlM (fun x b => change b x) x = some y) :
    l.foldlM (fun xs b => changeAt? xs i (change b)) xs = some (xs.setIfInBounds i y) := by
  have hi : i < xs.size := (Array.getElem?_eq_some_iff.1 hx).1
  induction l generalizing xs x with
  | nil =>
    cases hy
    have hself : xs.setIfInBounds i y = xs := by
      ext j
      · simp
      · grind
    rw [hself]
    rfl
  | cons b l ih =>
    rw [List.foldlM_cons] at hy ⊢
    obtain ⟨z, hz, hrest⟩ := Option.bind_eq_some_iff.1 hy
    -- the next change finds what this one left
    have hz' : (xs.setIfInBounds i z)[i]? = some z := by simp [hi]
    have hstep := ih hz' hrest (by simpa using hi)
    rw [Array.setIfInBounds_setIfInBounds] at hstep
    rw [changeAt?_eq_some hx hz]
    exact hstep

/-- A loop over the places below `k` that leads from one state to the next. -/
theorem foldlM_range (step : β → Nat → Option β) (state : Nat → β) {k : Nat}
    (h : ∀ n < k, step (state n) n = some (state (n + 1))) :
    (List.range k).foldlM step (state 0) = some (state k) := by
  induction k with
  | zero => rfl
  | succ k ih =>
    rw [List.range_succ, List.foldlM_append, ih fun n hn => h n (Nat.lt_succ_of_lt hn)]
    simp [h k (Nat.lt_succ_self k)]

/-- Two arrays combined at the places below `n`, with the first one left as it is behind them. -/
def zipBelow (n : Nat) (f : α → β → α) (xs : Array α) (ys : Array β) : Array α :=
  xs.mapIdx fun i x => if i < n then (ys[i]?.map (f x)).getD x else x

theorem zipBelow_zero : zipBelow 0 f xs ys = xs := by
  ext i
  · simp [zipBelow]
  · simp [zipBelow]

theorem getElem?_zipBelow : (zipBelow n f xs ys)[i]? =
    xs[i]?.map fun x => if i < n then (ys[i]?.map (f x)).getD x else x := by
  rw [zipBelow, Array.getElem?_mapIdx]

theorem zipBelow_size (h : xs.size = n) (hsize : ys.size = n) :
    zipBelow n f xs ys = Array.zipWith f xs ys := by
  ext i hi
  · simp [zipBelow, h, hsize]
  · have hn : i < n := by simpa [zipBelow, h] using hi
    simp [zipBelow, hn, hsize]

theorem getElem?_zipBelow_self : (zipBelow n f xs ys)[n]? = xs[n]? := by
  simp [getElem?_zipBelow]

/-- The next entry combined. -/
theorem set_zipBelow {z : β} (hx : xs[n]? = some x) (hz : ys[n]? = some z) :
    (zipBelow n f xs ys).setIfInBounds n (f x z) = zipBelow (n + 1) f xs ys := by
  apply Array.ext_getElem?
  intro i
  rw [Array.getElem?_setIfInBounds, getElem?_zipBelow, getElem?_zipBelow]
  by_cases hi : n = i
  · subst hi
    have hn : n < (zipBelow n f xs ys).size :=
      (Array.getElem?_eq_some_iff.1 (getElem?_zipBelow_self.trans hx)).1
    simp [hn, hx, hz]
  · have hlt : i < n ↔ i < n + 1 := by omega
    simp [hi, hlt]

theorem changeAt?_zipBelow {change : α → Option α} {z : β} (hx : xs[n]? = some x)
    (hz : ys[n]? = some z) (hchange : change x = some (f x z)) :
    changeAt? (zipBelow n f xs ys) n change = some (zipBelow (n + 1) f xs ys) := by
  rw [changeAt?_eq_some (getElem?_zipBelow_self.trans hx) hchange, set_zipBelow hx hz]

theorem mapM_eq_some {l : List α} {g : α → Option β} {h : α → β} (hg : ∀ a ∈ l, g a = some (h a)) :
    l.mapM g = some (l.map h) := by
  induction l with
  | nil => rfl
  | cons a l ih =>
    obtain ⟨ha, hl⟩ := List.forall_mem_cons.1 hg
    rw [List.mapM_cons, ha, ih hl]
    rfl

end Loops

/-! ## Vectors -/

def FeatureVector.Below (columns : Nat) (x : FeatureVector) : Prop := ∀ entry ∈ x, entry.1 < columns

namespace Features

/-- The vector of a phrase, the weight of each column looked up. -/
def vector? (f : Features) (phrase : List Char) : Option FeatureVector := do
  let counts ← (f.columns phrase).mapM fun (column, n) => do
    let weight ← f.weights[column]?
    return (column, n.toFloat * weight)
  return FeatureVector.unit counts

theorem vector_below (phrases : List (List Char)) (phrase : List Char) :
    ((ofPhrases phrases).vector phrase).Below (ofPhrases phrases).size := by
  intro entry hentry
  have hcolumn : entry.1 ∈ ((ofPhrases phrases).vector phrase).map (·.1) :=
    List.mem_map_of_mem hentry
  obtain ⟨term, -, hterm⟩ := mem_vector_columns.1 hcolumn
  exact column?_lt hterm

theorem columns_below (phrases : List (List Char)) (phrase : List Char) :
    ∀ entry ∈ (ofPhrases phrases).columns phrase, entry.1 < (ofPhrases phrases).size := by
  intro entry hentry
  have hcolumn : entry.1 ∈ ((ofPhrases phrases).columns phrase).things :=
    List.mem_map_of_mem hentry
  rw [← vector_columns] at hcolumn
  obtain ⟨found, hfound, heq⟩ := List.mem_map.1 hcolumn
  exact heq ▸ vector_below phrases phrase found hfound

theorem vector?_ofPhrases (phrases : List (List Char)) (phrase : List Char) :
    (ofPhrases phrases).vector? phrase = some ((ofPhrases phrases).vector phrase) := by
  have hcounts : ((ofPhrases phrases).columns phrase).mapM (fun (column, n) => do
      let weight ← (ofPhrases phrases).weights[column]?
      return (column, n.toFloat * weight)) = some ((ofPhrases phrases).counts phrase) := by
    refine mapM_eq_some ?_
    rintro ⟨column, n⟩ hentry
    -- there is a weight for every column
    have hlt : column < (ofPhrases phrases).weights.size := columns_below phrases phrase _ hentry
    dsimp only
    rw [Array.getD_eq_getD_getElem?, Array.getElem?_eq_getElem hlt]
    rfl
  rw [vector?, hcounts]
  rfl

end Features

namespace Parameters

variable {kinds columns : Nat} {p gradient : Parameters} {x : FeatureVector} {row : Array Float}

/-! ## Probabilities -/

/-- The product of a row with a vector, each column looked up in the row. -/
def dot? (row : Array Float) (x : FeatureVector) : Option Float :=
  x.foldlM (fun sum entry => do
    let w ← row[entry.1]?
    return sum + w * entry.2) 0.0

/-- The score of each kind, from rows and numbers side by side. -/
def scores? (p : Parameters) (x : FeatureVector) : Option (Array Float) := do
  let scores ← (p.rows.zip p.bias).toList.mapM fun (row, b) => do
    let product ← dot? row x
    return b + product
  return scores.toArray

theorem dot?_eq (h : x.Below row.size) : dot? row x = some (dot row x) := by
  have hfrom : ∀ sum : Float, x.foldlM (fun sum entry => do
      let w ← row[entry.1]?
      return sum + w * entry.2) sum =
        some (x.foldl (fun sum entry => sum + row.getD entry.1 0.0 * entry.2) sum) := by
    -- over the entries, for any sum so far
    induction x with
    | nil => exact fun _ => rfl
    | cons entry x ih =>
      intro sum
      obtain ⟨hentry, hx⟩ := List.forall_mem_cons.1 h
      rw [List.foldlM_cons, List.foldl_cons, Array.getD_eq_getD_getElem?,
        Array.getElem?_eq_getElem hentry]
      exact ih hx _
  exact hfrom 0.0

theorem Shaped.scores?_eq (h : p.Shaped kinds columns) (hx : x.Below columns) :
    p.scores? x = some (p.scores x) := by
  have hscores : (p.rows.zip p.bias).toList.mapM (fun (row, b) => do
      let product ← dot? row x
      return b + product) =
        some ((p.rows.zip p.bias).toList.map fun (row, b) => b + dot row x) := by
    refine mapM_eq_some ?_
    rintro ⟨row, b⟩ hpair
    rw [Array.toList_zip] at hpair
    -- every row is as long as there are columns
    have hrow : row.size = columns := h.row row (Array.mem_toList_iff.1 (List.of_mem_zip hpair).1)
    dsimp only
    rw [dot?_eq (hrow.symm ▸ hx)]
    rfl
  have hzip : ((p.rows.zip p.bias).toList.map fun (row, b) => b + dot row x).toArray =
      p.scores x := by
    rw [← Array.toList_inj, scores, Array.toList_zipWith, Array.toList_zip, List.map_zip_eq_zipWith]
    rfl
  rw [scores?, hscores, ← hzip]
  rfl

/-! ## Gradients -/

/-- How far the probability of one kind is from naming the target. -/
def errorAt? (probabilities : Array Float) (target kind : Nat) : Option Float := do
  let probability ← probabilities[kind]?
  return probability - (if kind = target then 1.0 else 0.0)

/-- The share of one phrase and one kind in a gradient: the number of the kind and each column of
    its row. -/
def addError? (probabilities : Array Float) (x : FeatureVector) (target : Nat)
    (gradient : Parameters) (kind : Nat) : Option Parameters := do
  let error ← errorAt? probabilities target kind
  let bias ← changeAt? gradient.bias kind fun b => some (b + error)
  let rows ← x.foldlM (fun rows entry => changeAt? rows kind fun row =>
    changeAt? row entry.1 fun old => some (old + error * entry.2)) gradient.rows
  return ⟨rows, bias⟩

/-- A gradient with the share of one phrase added, kind by kind. -/
def accumulate? (p gradient : Parameters) (x : FeatureVector) (target : Nat) :
    Option Parameters := do
  let scores ← p.scores? x
  let probabilities := softmax scores
  (List.range probabilities.size).foldlM (addError? probabilities x target) gradient

theorem foldlM_addScaled (h : x.Below row.size) (factor : Float) :
    x.foldlM (fun row entry => changeAt? row entry.1 fun old => some (old + factor * entry.2)) row =
      some (addScaled row factor x) := by
  induction x generalizing row with
  | nil => rfl
  | cons entry x ih =>
    obtain ⟨hentry, hx⟩ := List.forall_mem_cons.1 h
    rw [List.foldlM_cons, changeAt?_of_lt hentry]
    exact ih (by rwa [Array.size_modify])

theorem errorAt?_eq (p : Parameters) (x : FeatureVector) (target kind : Nat) :
    errorAt? (p.probabilities x) target kind = (p.errors x target)[kind]? := by
  rw [errors, Array.getElem?_mapIdx]
  cases h : (p.probabilities x)[kind]?
  all_goals simp [errorAt?, h]

/-- The share of one kind in a gradient that has the shares of the kinds below it. -/
theorem Shaped.addError?_eq (hp : p.Shaped kinds columns) (hg : gradient.Shaped kinds columns)
    (hx : x.Below columns) (target : Nat) {n : Nat} (hn : n < kinds) :
    addError? (p.probabilities x) x target
      ⟨zipBelow n (fun row e => addScaled row e x) gradient.rows (p.errors x target),
        zipBelow n (fun b e => b + e) gradient.bias (p.errors x target)⟩ n =
      some ⟨zipBelow (n + 1) (fun row e => addScaled row e x) gradient.rows (p.errors x target),
        zipBelow (n + 1) (fun b e => b + e) gradient.bias (p.errors x target)⟩ := by
  obtain ⟨error, herror⟩ : ∃ error, (p.errors x target)[n]? = some error :=
    ⟨_, Array.getElem?_eq_getElem (by rwa [hp.size_errors])⟩
  have hb : n < gradient.bias.size := by rwa [hg.bias]
  have hr : n < gradient.rows.size := by rwa [hg.rows]
  have hrow : x.Below gradient.rows[n].size := by rwa [hg.row _ (Array.getElem_mem hr)]
  have hbias : changeAt? (zipBelow n (fun b e => b + e) gradient.bias (p.errors x target)) n
      (fun b => some (b + error)) = _ :=
    changeAt?_zipBelow (Array.getElem?_eq_getElem hb) herror rfl
  -- the rows from `n` on are as they were, so the columns are added to a row of the gradient
  have hrows : x.foldlM (fun rows entry => changeAt? rows n fun row =>
      changeAt? row entry.1 fun old => some (old + error * entry.2))
      (zipBelow n (fun row e => addScaled row e x) gradient.rows (p.errors x target)) = _ :=
    foldlM_changeAt? (getElem?_zipBelow_self.trans (Array.getElem?_eq_getElem hr))
      (foldlM_addScaled hrow error)
  have hset := set_zipBelow (f := fun row e => addScaled row e x)
    (Array.getElem?_eq_getElem hr) herror
  rw [hset] at hrows
  simp only [addError?, errorAt?_eq, herror, Option.bind_eq_bind, Option.bind_some, hbias, hrows]
  rfl

theorem Shaped.accumulate?_eq (hp : p.Shaped kinds columns) (hg : gradient.Shaped kinds columns)
    (hx : x.Below columns) (target : Nat) :
    p.accumulate? gradient x target = some (p.accumulate gradient x target) := by
  have hloop := foldlM_range (addError? (p.probabilities x) x target) _
    fun n hn => hp.addError?_eq hg hx target hn
  rw [zipBelow_zero, zipBelow_zero, zipBelow_size hg.rows (hp.size_errors x target),
    zipBelow_size hg.bias (hp.size_errors x target)] at hloop
  rw [accumulate?, hp.scores?_eq hx]
  have hsize := hp.size_probabilities x
  rw [probabilities] at hsize hloop
  simp only [Option.bind_eq_bind, Option.bind_some, hsize]
  exact hloop

/-! ## Steps -/

/-- A weight after one step down a gradient of so many phrases. -/
def lowered (phrases w g : Float) : Float := w - stepSize * (g / phrases + decay * w)

/-- One column of the row of one kind, one step down a gradient. -/
def lowerAt? (gradient : Parameters) (phrases : Float) (kind : Nat) (row : Array Float)
    (column : Nat) : Option (Array Float) := do
  let slopes ← gradient.rows[kind]?
  let g ← slopes[column]?
  changeAt? row column fun w => some (lowered phrases w g)

/-- One step down a gradient for one kind: its number and each column of its row. -/
def descendAt? (gradient : Parameters) (phrases : Float) (columns : Nat) (p : Parameters)
    (kind : Nat) : Option Parameters := do
  let slope ← gradient.bias[kind]?
  let bias ← changeAt? p.bias kind fun b => some (b - stepSize * slope / phrases)
  let rows ← (List.range columns).foldlM (fun rows column => changeAt? rows kind fun row =>
    lowerAt? gradient phrases kind row column) p.rows
  return ⟨rows, bias⟩

/-- One pass over all phrases and the step that follows from it, phrase by phrase and then kind by
    kind. -/
def pass? (kinds columns : Nat) (data : List (FeatureVector × Nat)) (p : Parameters) :
    Option Parameters := do
  let gradient ← data.foldlM (fun g entry => p.accumulate? g entry.1 entry.2) (zero kinds columns)
  (List.range kinds).foldlM (descendAt? gradient data.length.toFloat columns) p

theorem foldlM_lowerAt? {phrases : Float} {kind : Nat} {slopes : Array Float}
    (hslopes : gradient.rows[kind]? = some slopes) (hrow : row.size = columns)
    (hsize : slopes.size = columns) :
    (List.range columns).foldlM (lowerAt? gradient phrases kind) row =
      some (Array.zipWith (lowered phrases) row slopes) := by
  have hstep : ∀ n < columns, lowerAt? gradient phrases kind
      (zipBelow n (lowered phrases) row slopes) n =
        some (zipBelow (n + 1) (lowered phrases) row slopes) := by
    intro n hn
    have hg : slopes[n]? = some slopes[n] := Array.getElem?_eq_getElem (by omega)
    simp only [lowerAt?, hslopes, hg, Option.bind_eq_bind, Option.bind_some]
    exact changeAt?_zipBelow (Array.getElem?_eq_getElem (by omega)) hg rfl
  have hloop := foldlM_range _ _ hstep
  rwa [zipBelow_zero, zipBelow_size hrow hsize] at hloop

/-- The step for one kind, when it is made for the kinds below it. -/
theorem Shaped.descendAt?_eq (hp : p.Shaped kinds columns) (hg : gradient.Shaped kinds columns)
    (phrases : Float) {n : Nat} (hn : n < kinds) :
    descendAt? gradient phrases columns
      ⟨zipBelow n (Array.zipWith (lowered phrases)) p.rows gradient.rows,
        zipBelow n (fun b g => b - stepSize * g / phrases) p.bias gradient.bias⟩ n =
      some ⟨zipBelow (n + 1) (Array.zipWith (lowered phrases)) p.rows gradient.rows,
        zipBelow (n + 1) (fun b g => b - stepSize * g / phrases) p.bias gradient.bias⟩ := by
  have hb : n < gradient.bias.size := by rwa [hg.bias]
  have hslope : gradient.bias[n]? = some _ := Array.getElem?_eq_getElem hb
  have hslopes : gradient.rows[n]? = some _ := Array.getElem?_eq_getElem (by rwa [hg.rows])
  have hrow : p.rows[n]? = some _ := Array.getElem?_eq_getElem (by rwa [hp.rows])
  have hbias : changeAt? (zipBelow n (fun b g => b - stepSize * g / phrases) p.bias gradient.bias) n
      (fun b => some (b - stepSize * gradient.bias[n] / phrases)) = _ :=
    changeAt?_zipBelow (Array.getElem?_eq_getElem (by rwa [hp.bias])) hslope rfl
  -- row `n` is lowered for the first time here
  have hrows : (List.range columns).foldlM (fun rows column => changeAt? rows n fun row =>
      lowerAt? gradient phrases n row column)
      (zipBelow n (Array.zipWith (lowered phrases)) p.rows gradient.rows) = _ :=
    foldlM_changeAt? (getElem?_zipBelow_self.trans hrow)
      (foldlM_lowerAt? hslopes (hp.row _ (Array.getElem_mem _)) (hg.row _ (Array.getElem_mem _)))
  have hset := set_zipBelow (f := Array.zipWith (lowered phrases)) hrow hslopes
  rw [hset] at hrows
  simp only [descendAt?, hslope, Option.bind_eq_bind, Option.bind_some, hbias, hrows]
  rfl

theorem Shaped.foldlM_descendAt? (hp : p.Shaped kinds columns) (hg : gradient.Shaped kinds columns)
    (phrases : Float) :
    (List.range kinds).foldlM (descendAt? gradient phrases columns) p =
      some (p.descend gradient phrases) := by
  have hloop := foldlM_range (descendAt? gradient phrases columns) _
    fun n hn => hp.descendAt?_eq hg phrases hn
  rwa [zipBelow_zero, zipBelow_zero, zipBelow_size hp.rows hg.rows,
    zipBelow_size hp.bias hg.bias] at hloop

/-- A gradient of phrases whose vectors fit into it. -/
theorem Shaped.foldlM_accumulate? (hp : p.Shaped kinds columns) {data : List (FeatureVector × Nat)}
    (hdata : ∀ entry ∈ data, entry.1.Below columns) :
    data.foldlM (fun g entry => p.accumulate? g entry.1 entry.2) (zero kinds columns) =
      some (p.gradientOf kinds columns data) := by
  -- the shape of the gradient carries the induction: each phrase finds it as the last one did
  have hfrom : ∀ g : Parameters, g.Shaped kinds columns →
      data.foldlM (fun g entry => p.accumulate? g entry.1 entry.2) g =
        some (data.foldl (fun g entry => p.accumulate g entry.1 entry.2) g) := by
    induction data with
    | nil => exact fun _ _ => rfl
    | cons entry data ih =>
      intro g hg
      obtain ⟨hentry, hrest⟩ := List.forall_mem_cons.1 hdata
      rw [List.foldlM_cons, hp.accumulate?_eq hg hentry]
      exact ih hrest _ (hp.accumulate hg entry.1 entry.2)
  exact hfrom _ (shaped_zero kinds columns)

theorem Shaped.pass?_eq (hp : p.Shaped kinds columns) {data : List (FeatureVector × Nat)}
    (hdata : ∀ entry ∈ data, entry.1.Below columns) :
    pass? kinds columns data p = some (Parameters.pass kinds columns data p) := by
  rw [pass?, hp.foldlM_accumulate? hdata]
  exact hp.foldlM_descendAt? (hp.gradientOf data) _

end Parameters

/-! ## Training and prediction -/

namespace Model

/-- The parameters after so many passes, every access open to fail. -/
def descent? (kinds columns : Nat) (data : List (FeatureVector × Nat)) : Nat → Option Parameters
  | 0 => some (.zero kinds columns)
  | n + 1 => do Parameters.pass? kinds columns data (← descent? kinds columns data n)

/-- The samples as vectors with the numbers of their kinds. A kind that is not listed has none. -/
def dataOf? (features : Features) (classes : List Kind) (samples : List Sample) :
    Option (List (FeatureVector × Nat)) :=
  samples.mapM fun s => do
    let x ← features.vector? s.phrase
    let target ← classes.idxOf? s.kind
    return (x, target)

/-- Training with every access open to fail. -/
def train? (samples : List Sample) : Option Model := do
  let features := Features.ofPhrases (samples.map (·.phrase))
  let classes := classesOf samples
  let data ← dataOf? features classes samples
  let steps := if samples.isEmpty then 0 else passes
  let parameters ← descent? classes.length features.size data steps
  return { features, classes, parameters }

/-- The kind of the greatest probability, found by its number and then looked up. -/
def kindOf? (classes : List Kind) (probabilities : List Float) : Option (Option (Kind × Float)) :=
  match mostProbable ((List.range probabilities.length).zip probabilities) with
  | none => some none
  | some (number, probability) => do
    let kind ← classes[number]?
    return some (kind, probability)

/-- Prediction with every access open to fail. -/
def predict? (m : Model) (phrase : List Char) : Option (Option (Kind × Float)) := do
  let x ← m.features.vector? phrase
  if x.isEmpty || m.classes.isEmpty then
    return none
  let scores ← m.parameters.scores? x
  kindOf? m.classes (Parameters.softmax scores).toList

variable {samples : List Sample} {kind : Kind}

theorem idxOf?_classesOf (h : kind ∈ classesOf samples) :
    ∃ number, (classesOf samples).idxOf? kind = some number ∧
      (classesOf samples)[number]? = some kind := by
  obtain ⟨number, hnumber⟩ := Option.isSome_iff_exists.1 (List.isSome_idxOf?.2 h)
  obtain ⟨hlt, hat, -⟩ := List.idxOf?_eq_some_iff.1 hnumber
  exact ⟨number, hnumber, List.getElem?_eq_some_iff.2 ⟨hlt, hat⟩⟩

/-- The number that training uses for a sample is the place of its kind. -/
theorem dataOf_numbers (features : Features) (samples : List Sample) :
    (dataOf features (classesOf samples) samples).map (fun entry => some entry.2) =
        samples.map (fun s => (classesOf samples).idxOf? s.kind) ∧
      (dataOf features (classesOf samples) samples).map
          (fun entry => (classesOf samples)[entry.2]?) =
        samples.map fun s => some s.kind := by
  have hnumber (s : Sample) (hs : s ∈ samples) := idxOf?_classesOf (mem_classesOf.2 ⟨s, hs, rfl⟩)
  unfold dataOf
  rw [List.map_map, List.map_map]
  constructor
  all_goals
    refine List.map_congr_left fun s hs => ?_
    obtain ⟨number, hidx, hat⟩ := hnumber s hs
    simp [hidx, hat]

/-! ### Training -/

theorem dataOf_below (phrases : List (List Char)) (classes : List Kind) (samples : List Sample) :
    ∀ entry ∈ dataOf (.ofPhrases phrases) classes samples,
      entry.1.Below (Features.ofPhrases phrases).size := by
  intro entry hentry
  obtain ⟨s, -, rfl⟩ := List.mem_map.1 hentry
  exact Features.vector_below phrases s.phrase

theorem descent?_eq {kinds columns : Nat} {data : List (FeatureVector × Nat)}
    (hdata : ∀ entry ∈ data, entry.1.Below columns) (n : Nat) :
    descent? kinds columns data n = some (descent kinds columns data n) := by
  induction n with
  | zero => rfl
  | succ n ih =>
    rw [descent?, ih]
    exact (shaped_descent kinds columns data n).pass?_eq hdata

theorem dataOf?_eq (phrases : List (List Char)) (samples : List Sample) :
    dataOf? (.ofPhrases phrases) (classesOf samples) samples =
      some (dataOf (.ofPhrases phrases) (classesOf samples) samples) := by
  refine mapM_eq_some fun s hs => ?_
  obtain ⟨number, hidx, -⟩ := idxOf?_classesOf (mem_classesOf.2 ⟨s, hs, rfl⟩)
  simp [Features.vector?_ofPhrases, hidx]

theorem train?_eq (samples : List Sample) : train? samples = some (train samples) := by
  unfold train?
  dsimp only
  rw [dataOf?_eq, Option.bind_eq_bind, Option.bind_some, descent?_eq (dataOf_below _ _ _)]
  rfl

/-! ### Prediction -/

/-- The search for the greatest number looks at the numbers only. -/
theorem mostProbable_map {α β : Type} (g : α → β) (pairs : List (α × Float)) :
    mostProbable (pairs.map (Prod.map g id)) = (mostProbable pairs).map (Prod.map g id) := by
  cases pairs with
  | nil => rfl
  | cons first rest =>
    refine congrArg some ?_
    induction rest generalizing first with
    | nil => rfl
    | cons p rest ih =>
      rw [List.map_cons, List.foldl_cons, List.foldl_cons, ← ih]
      congr 1
      split_ifs <;> simp_all

theorem zip_numbers {classes : List Kind} {probabilities : List Float}
    (h : probabilities.length = classes.length) :
    ((List.range probabilities.length).zip probabilities).map (Prod.map (classes[·]?) id) =
      (classes.zip probabilities).map (Prod.map some id) := by
  apply List.ext_getElem
  · simp [h]
  · intro i hi hi'
    simp only [List.length_map, List.length_zip, List.length_range] at hi
    have hclass : i < classes.length := by omega
    simp [hclass]

/-- The kind that is looked up is the one beside the greatest probability. -/
theorem kindOf?_eq {classes : List Kind} {probabilities : List Float}
    (h : probabilities.length = classes.length) :
    kindOf? classes probabilities = some (mostProbable (classes.zip probabilities)) := by
  -- numbering the kinds does not change which of them is the most probable
  have hfound : (mostProbable ((List.range probabilities.length).zip probabilities)).map
        (Prod.map (classes[·]?) id) =
      (mostProbable (classes.zip probabilities)).map (Prod.map some id) := by
    rw [← mostProbable_map, zip_numbers h, mostProbable_map]
  unfold kindOf?
  split
  · rename_i hnone
    rw [hnone, Option.map_none, eq_comm, Option.map_eq_none_iff] at hfound
    rw [hfound]
  · rename_i number probability hsome
    rw [hsome, Option.map_some, eq_comm, Option.map_eq_some_iff] at hfound
    obtain ⟨⟨kind, _⟩, hbest, hpair⟩ := hfound
    obtain ⟨hkind, rfl⟩ := Prod.mk.inj hpair
    have hat : classes[number]? = some kind := hkind.symm
    rw [hbest, hat]
    rfl

theorem predict?_eq {m : Model} {phrases : List (List Char)}
    (hfeatures : m.features = .ofPhrases phrases)
    (hshape : m.parameters.Shaped m.classes.length m.features.size) (phrase : List Char) :
    m.predict? phrase = some (m.predict phrase) := by
  have hvector : m.features.vector? phrase = some (m.features.vector phrase) := by
    rw [hfeatures, Features.vector?_ofPhrases]
  have hbelow : (m.features.vector phrase).Below m.features.size := by
    rw [hfeatures]
    exact Features.vector_below phrases phrase
  rw [predict?, hvector, Option.bind_eq_bind, Option.bind_some, predict]
  cases hx : m.features.vector phrase with
  | nil => rfl
  | cons entry rest =>
    rw [hx] at hbelow
    cases hclasses : m.classes with
    -- without kinds nothing is looked up, and there is nothing to choose from
    | nil => rfl
    | cons kind kinds =>
      have hsize := hshape.size_probabilities (entry :: rest)
      rw [hclasses, ← Array.length_toList] at hsize
      rw [hshape.scores?_eq hbelow]
      exact kindOf?_eq hsize

/-- **Accesses are in range and labels are right**, whatever the samples and the phrase.

    The columns of a vector increase and lie below the number of weights, which is the number of
    known terms. After every pass the parameters have one row and one number for each kind and rows
    with one entry for each column, and so has the gradient in every pass after each of its phrases.
    The kinds are those of the samples, in increasing order and each once. The number of a sample is
    the place of its kind, and there its kind is found.

    Training and prediction with every access open to fail do not fail, and give the same model and
    the same answer. -/
theorem accesses_in_range (samples : List Sample) :
    let m := train samples
    let kinds := m.classes.length
    let columns := m.features.weights.size
    let data := dataOf m.features m.classes samples
    (columns = m.features.vocabulary.length ∧
      ∀ phrase, ((m.features.vector phrase).map (·.1)).Pairwise (· < ·) ∧
        (m.features.vector phrase).Below columns) ∧
    (m.parameters.Shaped kinds columns ∧
      ∀ n, (descent kinds columns data n).Shaped kinds columns ∧
        ∀ seen, ((descent kinds columns data n).gradientOf kinds columns (data.take seen)).Shaped
          kinds columns) ∧
    (m.classes.Pairwise (· < ·) ∧ ∀ kind, kind ∈ m.classes ↔ ∃ s ∈ samples, s.kind = kind) ∧
    (data.map (fun entry => some entry.2) = samples.map (fun s => m.classes.idxOf? s.kind) ∧
      data.map (fun entry => m.classes[entry.2]?) = samples.map fun s => some s.kind) ∧
    train? samples = some m ∧ ∀ phrase, m.predict? phrase = some (m.predict phrase) := by
  intro m kinds columns data
  have hshape (n : Nat) : (descent kinds columns data n).Shaped kinds columns :=
    shaped_descent kinds columns data n
  refine ⟨⟨Features.size_ofPhrases _, fun phrase => ⟨Features.vector_increasing _ phrase,
    Features.vector_below _ phrase⟩⟩, ⟨hshape _, fun n => ⟨hshape n, fun seen => ?_⟩⟩,
    ⟨distinct_increasing _, fun kind => mem_classesOf⟩, dataOf_numbers _ samples, train?_eq samples,
    predict?_eq rfl (hshape _)⟩
  exact (hshape n).gradientOf (data.take seen)

end Model

end Rehearsal
