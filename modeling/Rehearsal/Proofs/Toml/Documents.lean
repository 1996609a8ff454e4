import Rehearsal.Proofs.Toml.Lines

/-! # Documents read back

  The statements of a document are carried out one after another. A header with a new name opens an
  empty table at the end of the document, and each line below it, having a new key, comes to the end
  of that table; nothing that is there already changes.

  Main statement: `parse_documentText`.
-/

namespace Rehearsal.Toml

variable {before entries root : Entries} {key name : String}

/-! ## Tables -/

def Entries.Lacks (entries : Entries) (key : String) : Prop := key ∉ entries.map (·.1)

theorem Entries.alter_append (h : before.Lacks key) (entries : Entries)
    (change : Option Value → Option Value) :
    Entries.alter (before ++ entries) key change =
      (Entries.alter entries key change).map (before ++ ·) := by
  induction before with
  | nil => exact Option.map_id'.symm
  | cons e before ih =>
    rw [Entries.Lacks, List.map_cons, List.mem_cons, not_or] at h
    rw [List.cons_append, Entries.alter, if_neg (Ne.symm h.1), ih h.2, Option.map_map]
    rfl

theorem Entries.alter_of_lacks (h : entries.Lacks key) {change : Option Value → Option Value}
    {v : Value} (hv : change none = some v) :
    Entries.alter entries key change = some (entries ++ [(key, v)]) := by
  have hlast := Entries.alter_append h [] change
  rw [List.append_nil] at hlast
  rw [hlast, Entries.alter, hv]
  rfl

/-! ## Statements -/

theorem Progress.apply_header (h : root.Lacks name) (location : List String) :
    Progress.apply ⟨root, location⟩ (.header [] name) =
      some ⟨root ++ [(name, .table .header [])], [name]⟩ := by
  have hroot : openTable [] name .header root = some (root ++ [(name, .table .header [])]) :=
    Entries.alter_of_lacks h rfl
  unfold Progress.apply
  simp only [hroot]
  rfl

theorem Progress.apply_assign (hname : root.Lacks name) (hkey : entries.Lacks key) (v : Value) :
    Progress.apply ⟨root ++ [(name, .table .header entries)], [name]⟩ (.assign [] key v) =
      some ⟨root ++ [(name, .table .header (entries ++ [(key, v)]))], [name]⟩ := by
  have hinner : Toml.assign [] key v .header entries = some (entries ++ [(key, v)]) := by
    unfold Toml.assign along
    rw [if_neg (by decide)]
    exact Entries.alter_of_lacks hkey rfl
  unfold Progress.apply
  simp only [along, Entries.alter_append hname, Entries.alter, if_pos, enter, hinner]
  rfl

/-! ## Parts -/

namespace Part

/-- The assignments of a part, carried out behind those that were carried out before. -/
theorem foldlM_fields (hname : root.Lacks name) (fields : List Field)
    (hkeys : (entries.map (·.1) ++ fields.map (·.key)).Nodup) :
    (fields.map fun f => Statement.assign [] f.key f.value).foldlM Progress.apply
        ⟨root ++ [(name, .table .header entries)], [name]⟩ =
      some ⟨root ++ [(name, .table .header (entries ++ fields.map fun f => (f.key, f.value)))],
        [name]⟩ := by
  induction fields generalizing entries with
  | nil => simp
  | cons f fields ih =>
    have hfresh : entries.Lacks f.key := fun hmem =>
      List.disjoint_of_nodup_append hkeys hmem List.mem_cons_self
    have hnext : ((entries ++ [(f.key, f.value)]).map (·.1) ++ fields.map (·.key)).Nodup := by
      simpa using hkeys
    rw [List.map_cons, List.foldlM_cons, Progress.apply_assign hname hfresh]
    refine (ih hnext).trans ?_
    simp

theorem foldlM_statements (p : Part) (hname : root.Lacks p.name)
    (hkeys : (p.fields.map (·.key)).Nodup) (location : List String) :
    p.statements.foldlM Progress.apply ⟨root, location⟩ =
      some ⟨root ++ [(p.name, .table .header p.entries)], [p.name]⟩ := by
  rw [statements, List.foldlM_cons, Progress.apply_header hname]
  exact foldlM_fields hname p.fields hkeys

end Part

/-! ## Documents -/

def documentTable (parts : List Part) : Entries :=
  parts.map fun p => (p.name, .table .header p.entries)

theorem foldlM_parts (parts : List Part) (hnames : (root.map (·.1) ++ parts.map (·.name)).Nodup)
    (hkeys : ∀ p ∈ parts, (p.fields.map (·.key)).Nodup) (location : List String) :
    ∃ last, (parts.flatMap Part.statements).foldlM Progress.apply ⟨root, location⟩ =
      some ⟨root ++ documentTable parts, last⟩ := by
  induction parts generalizing root location with
  | nil => exact ⟨location, by simp [documentTable]⟩
  | cons p parts ih =>
    have hfresh : root.Lacks p.name := fun hmem =>
      List.disjoint_of_nodup_append hnames hmem List.mem_cons_self
    have hnext : ((root ++ [(p.name, Value.table .header p.entries)]).map (·.1) ++
        parts.map (·.name)).Nodup := by
      simpa using hnames
    obtain ⟨last, hlater⟩ := ih hnext (fun q hq => hkeys q (List.mem_cons_of_mem _ hq)) [p.name]
    refine ⟨last, ?_⟩
    rw [List.flatMap_cons, List.foldlM_append,
      p.foldlM_statements hfresh (hkeys p List.mem_cons_self)]
    refine hlater.trans ?_
    simp [documentTable]

theorem head?_documentText (parts : List Part) :
    (documentText parts).head? ≠ some byteOrderMark := by
  match parts with
  | [] => decide
  | [p] => exact fun h => absurd (Option.some.inj h) (by decide)
  | p :: q :: parts => exact fun h => absurd (Option.some.inj h) (by decide)

/-- **Documents read back**: parts with different names, each with different keys, are read as the
    tables that they describe. -/
theorem parse_documentText {parts : List Part} (hplain : ∀ p ∈ parts, p.Plain)
    (hnames : (parts.map (·.name)).Nodup) (hkeys : ∀ p ∈ parts, (p.fields.map (·.key)).Nodup) :
    parse (documentText parts) = some (documentTable parts) := by
  have hstart : (([] : Entries).map (·.1) ++ parts.map (·.name)).Nodup := hnames
  obtain ⟨last, hdone⟩ := foldlM_parts parts hstart hkeys []
  unfold parse
  simp only [if_neg (head?_documentText parts), statements_documentText hplain]
  show (List.foldlM Progress.apply ⟨[], []⟩ (parts.flatMap Part.statements)).bind _ = _
  rw [hdone]
  rfl

end Rehearsal.Toml
