import Rehearsal.Toml.Lexical

/-! # What readers take

  A reader is a function of the text, and what it does to a text follows from what its parts do:
  one lemma for each way of putting readers together. With them a reader is carried out on a text
  that is known in front and open behind.

  The converse is not needed in full: of what a reader gives on an unknown text only properties are
  asked for, and these too follow from its parts (`Yields`).

  Main statement: `many_flatten`, a row of pieces each of which is taken by a reader is taken by
  many of it.
-/

namespace Rehearsal.Toml.Reader

variable {α β : Type} {r q : Reader α} {s rest : List Char} {v : α}

/-! ## Putting readers together -/

theorem get_apply (s : List Char) : (get : Reader (List Char)) s = some (s, s) := rfl

theorem bind_apply (r : Reader α) (f : α → Reader β) (s : List Char) :
    (r >>= f) s = (r s).bind fun x => f x.1 x.2 := rfl

theorem map_apply (f : α → β) (r : Reader α) (s : List Char) :
    (f <$> r) s = (r s).map fun x => (f x.1, x.2) := by
  show ((r s).bind fun x => some (f x.1, x.2)) = _
  cases r s <;> rfl

theorem bind_of_some (h : r s = some (v, rest)) (f : α → Reader β) : (r >>= f) s = f v rest := by
  rw [bind_apply, h]
  rfl

theorem bind_of_none (h : r s = none) (f : α → Reader β) : (r >>= f) s = none := by
  rw [bind_apply, h]
  rfl

theorem orElse_of_some {x : α × List Char} (h : r s = some x) (q : Reader α) :
    (r <|> q) s = some x := by
  show (r s <|> q s) = _
  rw [h]
  rfl

theorem orElse_of_none (h : r s = none) (q : Reader α) : (r <|> q) s = q s := by
  show (r s <|> q s) = _
  rw [h]
  rfl

theorem optional_of_some (h : r s = some (v, rest)) : optional r s = some (some v, rest) := by
  refine orElse_of_some ?_ _
  rw [map_apply, h]
  rfl

theorem optional_of_none (h : r s = none) : optional r s = some (none, s) := by
  refine (orElse_of_none ?_ _).trans rfl
  rw [map_apply, h]
  rfl

/-! ## Single characters -/

variable {c d : Char} {p : Char → Bool}

theorem one_of_pos (h : p c = true) (s : List Char) : one p (c :: s) = some (c, s) := if_pos h

theorem one_of_neg (h : p c = false) (s : List Char) : one p (c :: s) = none :=
  if_neg (Bool.eq_false_iff.1 h)

theorem char_cons (c : Char) (s : List Char) : char c (c :: s) = some ((), s) :=
  bind_of_some (one_of_pos (p := (· == c)) (beq_self_eq_true c) s) _

theorem char_of_ne (h : d ≠ c) (s : List Char) : char c (d :: s) = none :=
  bind_of_none (one_of_neg (p := (· == c)) (beq_false_of_ne h) s) _

theorem exactly_of_ne (h : d ≠ c) (t s : List Char) : exactly (c :: t) (d :: s) = none :=
  bind_of_none (char_of_ne h s) _

/-! ## Runs of characters -/

/-- The text does not go on with a character of the class. -/
def Ends (p : Char → Bool) (s : List Char) : Prop := s.head?.all (fun c => !p c) = true

theorem ends_cons_iff : Ends p (c :: s) ↔ p c = false := by
  simp [Ends]

theorem run_append {xs : List Char} (hxs : ∀ x ∈ xs, p x = true) (h : Ends p rest) :
    run p (xs ++ rest) = some (xs, rest) := by
  have htake : rest.takeWhile p = [] ∧ rest.dropWhile p = rest := by
    cases rest with
    | nil => exact ⟨rfl, rfl⟩
    | cons c rest =>
      rw [ends_cons_iff] at h
      simp [h]
  unfold run
  rw [List.takeWhile_append_of_pos hxs, List.dropWhile_append_of_pos hxs, htake.1, htake.2,
    List.append_nil]

theorem run1_append {xs : List Char} (hne : xs ≠ []) (hxs : ∀ x ∈ xs, p x = true)
    (h : Ends p rest) : run1 p (xs ++ rest) = some (xs, rest) := by
  refine (bind_of_some (run_append hxs h) _).trans ?_
  rw [if_neg (by simpa using hne)]
  rfl

/-! ## Repetition -/

/-- As many pieces are taken as there are, if there is fuel for them. -/
theorem upTo_flatten {items : List (List Char × α)}
    (htakes : ∀ item ∈ items, ∀ rest, r (item.1 ++ rest) = some (item.2, rest))
    (hstops : r rest = none) {fuel : Nat} (hfuel : items.length ≤ fuel) :
    upTo r fuel ((items.map (·.1)).flatten ++ rest) = some (items.map (·.2), rest) := by
  induction items generalizing fuel with
  | nil =>
    cases fuel with
    | zero => rfl
    | succ fuel => exact orElse_of_none (bind_of_none hstops _) _
  | cons item items ih =>
    cases fuel with
    | zero => cases hfuel
    | succ fuel =>
      have hfirst := htakes item List.mem_cons_self
      have hlater := ih (fun other hother => htakes other (List.mem_cons_of_mem _ hother))
        (Nat.le_of_succ_le_succ hfuel)
      rw [List.map_cons, List.flatten_cons, List.append_assoc]
      exact orElse_of_some ((bind_of_some (hfirst _) _).trans (bind_of_some hlater _)) _

/-- A row of pieces, each of which is taken by a reader whatever follows it, is taken by many of
    it, up to where it stops. -/
theorem many_flatten (items : List (List Char × α))
    (htakes : ∀ item ∈ items, ∀ rest, r (item.1 ++ rest) = some (item.2, rest))
    (hne : ∀ item ∈ items, item.1 ≠ []) (hstops : r rest = none) :
    many r ((items.map (·.1)).flatten ++ rest) = some (items.map (·.2), rest) := by
  refine upTo_flatten htakes hstops ?_
  -- there is a character for every piece
  rw [List.length_append, List.length_flatten, List.map_map]
  refine Nat.le_add_right_of_le ?_
  induction items with
  | nil => exact Nat.zero_le _
  | cons item items ih =>
    have hfirst := List.length_pos_iff.2 (hne item List.mem_cons_self)
    have hlater := ih (fun other hother => htakes other (List.mem_cons_of_mem _ hother))
      (fun other hother => hne other (List.mem_cons_of_mem _ hother))
    simp only [List.map_cons, List.sum_cons, List.length_cons, Function.comp_apply]
    omega

/-- A run of characters is taken one by one. -/
theorem many_of_chars {r : Reader Char} {xs : List Char}
    (htakes : ∀ x ∈ xs, ∀ rest, r (x :: rest) = some (x, rest)) (hstops : r rest = none) :
    many r (xs ++ rest) = some (xs, rest) := by
  have hpieces : ((xs.map fun x => ([x], x)).map (·.1)).flatten = xs := by
    clear htakes
    induction xs with
    | nil => rfl
    | cons x xs ih => exact congrArg (x :: ·) ih
  have hvalues : (xs.map fun x => ([x], x)).map (·.2) = xs := by
    rw [List.map_map]
    exact List.map_id xs
  have h := many_flatten (xs.map fun x => ([x], x)) (by simpa using htakes) (by simp) hstops
  rwa [hpieces, hvalues] at h

theorem many_of_none (h : r s = none) : many r s = some ([], s) :=
  many_flatten [] (List.forall_mem_nil _) (List.forall_mem_nil _) h

/-! ## What is given on any text -/

/-- Whatever a reader gives has a property. -/
def Yields (r : Reader α) (P : α → Prop) : Prop := ∀ s x, r s = some x → P x.1

variable {P : α → Prop} {Q : β → Prop}

theorem yields_any (r : Reader α) : Yields r fun _ => True := fun _ _ _ => trivial

theorem yields_failure : Yields (failure : Reader α) P := fun _ _ h => nomatch h

theorem yields_pure (h : P v) : Yields (pure v) P := by
  intro s x hx
  cases hx
  exact h

theorem yields_bind {f : α → Reader β} (hr : Yields r P) (hf : ∀ a, P a → Yields (f a) Q) :
    Yields (r >>= f) Q := by
  intro s x hx
  rw [bind_apply, Option.bind_eq_some_iff] at hx
  obtain ⟨y, hy, hx⟩ := hx
  exact hf y.1 (hr s y hy) y.2 x hx

theorem yields_map {f : α → β} (hr : Yields r P) (hf : ∀ a, P a → Q (f a)) :
    Yields (f <$> r) Q := by
  intro s x hx
  rw [map_apply, Option.map_eq_some_iff] at hx
  obtain ⟨y, hy, rfl⟩ := hx
  exact hf y.1 (hr s y hy)

theorem yields_orElse (hr : Yields r P) (hq : Yields q P) : Yields (r <|> q) P := by
  intro s x hx
  cases hrs : r s with
  | none => exact hq s x ((orElse_of_none hrs q).symm.trans hx)
  | some y =>
    obtain rfl := Option.some.inj ((orElse_of_some hrs q).symm.trans hx)
    exact hr s _ hrs

theorem yields_optional (hr : Yields r P) : Yields (optional r) fun o => ∀ a ∈ o, P a :=
  yields_orElse (yields_map hr fun _ ha => by rintro _ ⟨⟩; exact ha)
    (yields_pure fun _ ha => nomatch ha)

theorem yields_many (hr : Yields r P) : Yields (many r) fun l => ∀ a ∈ l, P a := by
  have hupTo : ∀ fuel, Yields (upTo r fuel) fun l => ∀ a ∈ l, P a := by
    intro fuel
    induction fuel with
    | zero => exact yields_pure (List.forall_mem_nil _)
    | succ fuel ih =>
      refine yields_orElse (yields_bind hr fun first hfirst => yields_bind ih fun later hlater =>
        yields_pure ?_) (yields_pure (List.forall_mem_nil _))
      exact List.forall_mem_cons.2 ⟨hfirst, hlater⟩
  exact yields_bind (yields_any _) fun s _ => hupTo s.length

theorem yields_separated {separator : Reader Unit} (hr : Yields r P) :
    Yields (separated r separator) fun l => ∀ a ∈ l, P a := by
  refine yields_bind hr fun first hfirst => ?_
  refine yields_bind (yields_many (yields_bind (yields_any _) fun _ _ => hr)) fun later hlater => ?_
  exact yields_pure (List.forall_mem_cons.2 ⟨hfirst, hlater⟩)

end Rehearsal.Toml.Reader
