import Rehearsal.CommandLine.Start
import Rehearsal.Files.Tree

/-! # Which value of a setting prevails

  A setting can be given on the command line and in the settings file, and has an initial value if
  it is given in neither. There are ten settings and one law for them all, so a `Setting` tells for
  each of them where its value stands in each of the three places. The law of a setting (`Prevails`)
  speaks of nothing else that is given, so no option and no key has a part in another setting
  (`Prevails.valueIn_eq`).

  As a rule a section of the file is a table, and a value is found in it by its key. A section that
  is written as a list has no keys, and a value is found in it by its position: a list can give a
  setting without the key of that setting being there at all (`list_needs_no_key`).

  Main statement: `settings_precedence`.
-/

namespace Rehearsal

open CommandLine

/-! ## Where values stand -/

/-- The settings. -/
inductive Setting where
  | bpm
  | subdivision
  | usesModel
  /-- The least probability at which a prediction counts. -/
  | threshold
  | musicDir
  | totalPages
  | wakeWord
  | prompt
  | viewerEnabled
  | viewerCommand
  deriving DecidableEq, Repr

namespace Setting

abbrev Value : Setting → Type
  | .bpm | .totalPages => Nat
  | .subdivision => Subdivision
  | .usesModel | .viewerEnabled => Bool
  | .threshold => Number.Binary64
  | .musicDir | .wakeWord | .prompt | .viewerCommand => String

/-- The value among the settings that hold, if there is one. -/
def valueIn : (k : Setting) → Settings → Option k.Value
  | .bpm, s => some s.bpm
  | .subdivision, s => some s.subdivision
  | .usesModel, s => some s.usesModel
  | .threshold, s => some s.threshold
  | .musicDir, s => some s.musicDir
  | .totalPages, s => s.totalPages
  | .wakeWord, s => s.wakeWord
  | .prompt, s => some s.prompt
  | .viewerEnabled, s => some s.viewerEnabled
  | .viewerCommand, s => s.viewerCommand

/-- The value that the command line gives. Half of the settings have no option. -/
def onCommandLine : (k : Setting) → Options → Option k.Value
  | .bpm, o => o.bpm
  | .usesModel, o => if o.noModel then some false else none
  | .threshold, o => o.threshold.map (·.clampUnit)
  | .wakeWord, o => o.wakeWord
  | .viewerEnabled, o => if o.noViewer then some false else none
  | .subdivision, _ | .musicDir, _ | .totalPages, _ | .prompt, _ | .viewerCommand, _ => none

/-- Where the value stands in a settings file: the section, the key in a table and the position in
    a list. -/
structure Place where
  sectionName : String
  key : String
  position : Nat
  deriving DecidableEq, Repr

/-- Where the value of each setting stands. -/
def place : Setting → Place
  | .bpm => ⟨"tempo", "bpm", 0⟩
  | .subdivision => ⟨"tempo", "subdivision", 1⟩
  | .usesModel => ⟨"classifier", "use_model", 0⟩
  | .threshold => ⟨"classifier", "confidence_threshold", 1⟩
  | .musicDir => ⟨"pager", "music_dir", 0⟩
  | .totalPages => ⟨"pager", "total_pages", 1⟩
  | .wakeWord => ⟨"input", "wake_word", 0⟩
  | .prompt => ⟨"input", "prompt", 1⟩
  | .viewerEnabled => ⟨"viewer", "enabled", 0⟩
  | .viewerCommand => ⟨"viewer", "command", 1⟩

def understand : (k : Setting) → Toml.Value → Option k.Value
  | .bpm | .totalPages => Settings.count?
  | .subdivision => Settings.subdivision?
  | .usesModel | .viewerEnabled => Settings.flag?
  | .threshold => Settings.number?
  | .musicDir | .wakeWord | .prompt | .viewerCommand => Settings.text?

/-- What a settings file says of a setting: what stands under its key in a table, or at its position
    in a list. -/
def written? (k : Setting) (document : Toml.Entries) : Option Toml.Value :=
  match document.get? k.place.sectionName with
  | some (.table _ entries) => Toml.Entries.get? entries k.place.key
  | some (.array items) => items[k.place.position]?
  | some (.tables elements) => elements[k.place.position]?.map (.table .header)
  | _ => none

/-- Whether the key of a setting is there, in a section that is a table. -/
def hasKey (k : Setting) (document : Toml.Entries) : Bool :=
  match document.get? k.place.sectionName with
  | some (.table _ entries) => (Toml.Entries.get? entries k.place.key).isSome
  | _ => false

/-- The value that holds in the end is the one on the command line; if there is none, the one in the
    settings file; if there is none there either, the initial one. -/
structure Prevails (k : Setting) (o : Options) (document : Toml.Entries) (s : Settings) : Prop where
  /-- A value on the command line holds. -/
  commandLine : ∀ v, k.onCommandLine o = some v → k.valueIn s = some v
  /-- A value in the file is understood, and holds where the command line gives none. -/
  file : k.onCommandLine o = none → ∀ w, k.written? document = some w →
    ∃ v, k.understand w = some v ∧ k.valueIn s = some v
  /-- Where neither gives one, the initial value holds. -/
  initial : k.onCommandLine o = none → k.written? document = none →
    k.valueIn s = k.valueIn .initial

/-! ## Layers -/

/-- The value that a layer gives. -/
def inLayer : (k : Setting) → Settings.Layer → Option k.Value
  | .bpm, l => l.bpm
  | .subdivision, l => l.subdivision
  | .usesModel, l => l.usesModel
  | .threshold, l => l.threshold
  | .musicDir, l => l.musicDir
  | .totalPages, l => l.totalPages
  | .wakeWord, l => l.wakeWord
  | .prompt, l => l.prompt
  | .viewerEnabled, l => l.viewerEnabled
  | .viewerCommand, l => l.viewerCommand

theorem some_getD {α : Type} (value : Option α) (below : α) :
    some (value.getD below) = (value <|> some below) := by
  cases value with
  | none => rfl
  | some v => rfl

theorem valueIn_applyTo (k : Setting) (l : Settings.Layer) (below : Settings) :
    k.valueIn (l.applyTo below) = (k.inLayer l <|> k.valueIn below) := by
  cases k with
  | totalPages => rfl
  | wakeWord => rfl
  | viewerCommand => rfl
  | _ => exact some_getD _ _

theorem inLayer_layer (k : Setting) (o : Options) : k.inLayer o.layer = k.onCommandLine o := by
  cases k <;> rfl

/-! ## The settings file -/

variable {k : Setting} {o : Options} {document : Toml.Entries} {l : Settings.Layer}

/-- What a layer has of a setting if it is the layer of a document. -/
inductive Fills (k : Setting) (document : Toml.Entries) : Option k.Value → Prop where
  | absent : k.written? document = none → Fills k document none
  /-- The document says something, and it is understood. -/
  | given (w : Toml.Value) (v : k.Value) : k.written? document = some w →
      k.understand w = some v → Fills k document (some v)

/-- A section finds what is written. -/
theorem found_eq_written {found : Settings.Section}
    (hsection : Settings.sectionNamed? document k.place.sectionName = some found) :
    found k.place.key k.place.position = k.written? document := by
  unfold Settings.sectionNamed? at hsection
  unfold written?
  cases hget : document.get? k.place.sectionName with
  | none =>
    rw [hget] at hsection
    cases hsection
    rfl
  | some value =>
    rw [hget] at hsection
    -- fields of a table go by their keys, items of a list by their places
    cases value with
    | table origin entries =>
      cases hsection
      rfl
    | array items =>
      cases hsection
      rfl
    | tables elements =>
      cases hsection
      rfl
    | datetime text =>
      cases hsection
      rfl
    | _ => cases hsection

theorem fills_of_read (k : Setting) {found : Settings.Section} {r : Option k.Value}
    (hsection : Settings.sectionNamed? document k.place.sectionName = some found)
    (hread : found.read? k.place.key k.place.position k.understand = some r) :
    k.Fills document r := by
  unfold Settings.Section.read? at hread
  rw [found_eq_written hsection] at hread
  cases hwritten : k.written? document with
  | none =>
    rw [hwritten] at hread
    obtain rfl : none = r := Option.some.inj hread
    exact .absent hwritten
  | some w =>
    rw [hwritten] at hread
    -- the setting was understood, else there would be no result
    obtain ⟨v, hv, rfl⟩ := Option.map_eq_some_iff.1 hread
    exact .given w v hwritten hv

/-- A document fills the layer of each setting by itself. -/
theorem fills_inLayer (h : Settings.Layer.ofDocument? document = some l) (k : Setting) :
    k.Fills document (k.inLayer l) := by
  unfold Settings.Layer.ofDocument? at h
  -- the five sections
  obtain ⟨tempo, htempo, h⟩ := Option.bind_eq_some_iff.1 h
  obtain ⟨classifier, hclassifier, h⟩ := Option.bind_eq_some_iff.1 h
  obtain ⟨pager, hpager, h⟩ := Option.bind_eq_some_iff.1 h
  obtain ⟨input, hinput, h⟩ := Option.bind_eq_some_iff.1 h
  obtain ⟨viewer, hviewer, h⟩ := Option.bind_eq_some_iff.1 h
  -- the values, in the order of the layer
  obtain ⟨bpm, hbpm, h⟩ := Option.bind_eq_some_iff.1 h
  obtain ⟨subdivision, hsubdivision, h⟩ := Option.bind_eq_some_iff.1 h
  obtain ⟨usesModel, husesModel, h⟩ := Option.bind_eq_some_iff.1 h
  obtain ⟨threshold, hthreshold, h⟩ := Option.bind_eq_some_iff.1 h
  obtain ⟨musicDir, hmusicDir, h⟩ := Option.bind_eq_some_iff.1 h
  obtain ⟨totalPages, htotalPages, h⟩ := Option.bind_eq_some_iff.1 h
  obtain ⟨wakeWord, hwakeWord, h⟩ := Option.bind_eq_some_iff.1 h
  obtain ⟨prompt, hprompt, h⟩ := Option.bind_eq_some_iff.1 h
  obtain ⟨viewerEnabled, hviewerEnabled, h⟩ := Option.bind_eq_some_iff.1 h
  obtain ⟨viewerCommand, hviewerCommand, h⟩ := Option.bind_eq_some_iff.1 h
  cases h
  cases k with
  | bpm => exact fills_of_read .bpm htempo hbpm
  | subdivision => exact fills_of_read .subdivision htempo hsubdivision
  | usesModel => exact fills_of_read .usesModel hclassifier husesModel
  | threshold => exact fills_of_read .threshold hclassifier hthreshold
  | musicDir => exact fills_of_read .musicDir hpager hmusicDir
  | totalPages => exact fills_of_read .totalPages hpager htotalPages
  | wakeWord => exact fills_of_read .wakeWord hinput hwakeWord
  | prompt => exact fills_of_read .prompt hinput hprompt
  | viewerEnabled => exact fills_of_read .viewerEnabled hviewer hviewerEnabled
  | viewerCommand => exact fills_of_read .viewerCommand hviewer hviewerCommand

/-- The layer of the command line over that of a document over the initial settings: of each setting
    the right value prevails. -/
theorem prevails_of_ofDocument? (h : Settings.Layer.ofDocument? document = some l) (o : Options)
    (k : Setting) : k.Prevails o document (o.layer.applyTo (l.applyTo .initial)) := by
  -- the command line in front of the file, the file in front of the initial value
  have hvalue : k.valueIn (o.layer.applyTo (l.applyTo .initial)) =
      (k.onCommandLine o <|> k.inLayer l <|> k.valueIn .initial) := by
    rw [valueIn_applyTo, inLayer_layer, valueIn_applyTo]
  have hfills := fills_inLayer h k
  generalize k.inLayer l = r at hvalue hfills
  refine ⟨?_, ?_, ?_⟩
  · intro v hv
    rw [hvalue, hv]
    rfl
  · intro hnone w hw
    cases hfills with
    | absent habsent =>
      rw [habsent] at hw
      cases hw
    | given w' v hwritten hv =>
      -- the file gives one value only
      obtain rfl : w' = w := Option.some.inj (hwritten.symm.trans hw)
      refine ⟨v, hv, ?_⟩
      rw [hvalue, hnone]
      rfl
  · intro hnone hwritten
    cases hfills with
    | absent _ =>
      rw [hvalue, hnone]
      rfl
    | given w v hw _ =>
      rw [hwritten] at hw
      cases hw

/-- What holds of a setting depends on nothing but what is given for it: whatever else two command
    lines and two files give, if they give the same here, then the same holds here. -/
theorem Prevails.valueIn_eq {o' : Options} {document' : Toml.Entries} {s s' : Settings}
    (h : k.Prevails o document s) (h' : k.Prevails o' document' s')
    (hoption : k.onCommandLine o = k.onCommandLine o')
    (hwritten : k.written? document = k.written? document') : k.valueIn s = k.valueIn s' := by
  cases hv : k.onCommandLine o with
  | some v => rw [h.commandLine v hv, h'.commandLine v (hoption ▸ hv)]
  | none =>
    have hnone : k.onCommandLine o' = none := hoption ▸ hv
    cases hw : k.written? document with
    | none => rw [h.initial hv hw, h'.initial hnone (hwritten ▸ hw)]
    | some w =>
      obtain ⟨v, hunderstood, hvalue⟩ := h.file hv w hw
      obtain ⟨v', hunderstood', hvalue'⟩ := h'.file hnone w (hwritten ▸ hw)
      rw [hvalue, hvalue', ← hunderstood, hunderstood']

end Setting

/-! ## Gathering the settings -/

namespace FileTree

variable {t : FileTree} {home path : List Char} {content : String} {below : Settings} {o : Options}

theorem settingsAt_run (hread : t.read path = .ok content)
    (haccepted : Settings.ofText? content.toList = some below) :
    (access.settingsAt path).run t = pure (.ok below, t) := by
  simp [FileAccess.settingsAt, access, hread, haccepted]

theorem find?_isSome_of_read (hread : t.read path = .ok content) :
    (t.find? path).isSome = true := by
  unfold read at hread
  split at hread
  · rename_i h
    rw [h]
    rfl
  · cases hread

theorem settingsOrInitial_run (hread : t.read (Settings.storePath home) = .ok content)
    (haccepted : Settings.ofText? content.toList = some below) :
    (access.settingsOrInitial home).run t = pure (below, t) := by
  have hthere : (access.isThere (Settings.storePath home)).run t = pure (true, t) := by
    simp [access, find?_isSome_of_read hread]
  simp [FileAccess.settingsOrInitial, FileAccess.settings, hthere, settingsAt_run hread haccepted]

/-- The settings are gathered from the file that is named, or from the one at the usual place, and
    nothing else of the tree matters. -/
theorem effectiveSettings_run
    (hread : t.read (o.settingsFile.getD (Settings.storePath home)) = .ok content)
    (haccepted : Settings.ofText? content.toList = some below) :
    (effectiveSettings access home o).run t = (.ok (o.layer.applyTo below), t) := by
  show _ = pure _
  unfold effectiveSettings
  cases hfile : o.settingsFile with
  | none =>
    rw [hfile] at hread
    simp [settingsOrInitial_run hread haccepted]
  | some path =>
    rw [hfile] at hread
    have hnamed : t.read path = .ok content := hread
    simp [settingsAt_run hnamed haccepted]

/-- **Precedence**: take any tree of files and any options, and let the settings file that is named,
    or else the one at the usual place, be accepted. Then settings hold, and of each setting the
    value on the command line prevails, then the one in the file, then the initial one. -/
theorem settings_precedence (t : FileTree) (home : List Char) (o : Options) {content : String}
    (hread : t.read (o.settingsFile.getD (Settings.storePath home)) = .ok content)
    (haccepted : (Settings.ofText? content.toList).isSome = true) :
    ∃ document s, Toml.parse content.toList = some document ∧
      (effectiveSettings access home o).run t = (.ok s, t) ∧
      ∀ k : Setting, k.Prevails o document s := by
  obtain ⟨below, hbelow⟩ := Option.isSome_iff_exists.1 haccepted
  obtain ⟨l, hl, rfl⟩ := Option.map_eq_some_iff.1 hbelow
  obtain ⟨document, hparse, hdocument⟩ := Option.bind_eq_some_iff.1 hl
  exact ⟨document, o.layer.applyTo (l.applyTo .initial), hparse,
    effectiveSettings_run hread hbelow, Setting.prevails_of_ofDocument? hdocument o⟩

/-- A tempo in the file, a threshold out of range on the command line, a directory in neither. -/
theorem settings_precedence_three_sources :
    let content := "[input]\nprompt = \"> \"\n[tempo]\nmystery = 1\nbpm = 132\n"
    let t : FileTree := ⟨"/stand".toList, [(["my.toml".toList], .file content)]⟩
    let o : Options := { settingsFile := some "my.toml".toList, threshold := some (.ofNat 2) }
    ∃ s, (effectiveSettings access [] o).run t = (.ok s, t) ∧
      Setting.bpm.valueIn s = some 132 ∧ Setting.threshold.valueIn s = some (.ofNat 1) ∧
      Setting.musicDir.valueIn s = some "music" := by
  intro content t o
  have hread : t.read "my.toml".toList = .ok content := rfl
  have haccepted : (Settings.ofText? content.toList).isSome = true := by decide +kernel
  obtain ⟨document, s, hparse, hrun, hprevails⟩ := settings_precedence t [] o hread haccepted
  -- bpm from the file, the threshold from the command line, the directory from neither
  have hbpm : ((Toml.parse content.toList).bind Setting.bpm.written?).bind Settings.count? =
      some 132 := by decide +kernel
  have hdir : ((Toml.parse content.toList).bind Setting.musicDir.written?).isNone = true := by
    decide +kernel
  rw [hparse] at hbpm hdir
  refine ⟨s, hrun, ?_, ?_, ?_⟩
  · obtain ⟨w, hw, hcount⟩ := Option.bind_eq_some_iff.1 hbpm
    obtain ⟨v, hv, hvalue⟩ := (hprevails .bpm).file rfl w hw
    rw [hvalue]
    exact hv.symm.trans hcount
  · exact (hprevails .threshold).commandLine (.ofNat 1) (by decide)
  · exact (hprevails .musicDir).initial rfl (Option.isNone_iff_eq_none.1 hdir)

/-- No file at the usual place, or none that can be used, is like an empty one. -/
theorem settings_precedence_without_file (t : FileTree) (home : List Char) {o : Options}
    (hnone : o.settingsFile = none)
    (hrefused : ∀ content, t.read (Settings.storePath home) = .ok content →
      Settings.ofText? content.toList = none) :
    ∃ s, (effectiveSettings access home o).run t = (.ok s, t) ∧
      ∀ k : Setting, k.Prevails o [] s := by
  -- no file, one that cannot be read, or one that is refused
  have hinitial : (access.settingsOrInitial home).run t = pure (.initial, t) := by
    cases hfound : t.find? (Settings.storePath home) with
    | none => simp [FileAccess.settingsOrInitial, FileAccess.settings, access, hfound]
    | some node =>
      cases hread : t.read (Settings.storePath home) with
      | error failure =>
        simp [FileAccess.settingsOrInitial, FileAccess.settings, FileAccess.settingsAt, access,
          hfound, hread]
      | ok content =>
        simp [FileAccess.settingsOrInitial, FileAccess.settings, FileAccess.settingsAt, access,
          hfound, hread, hrefused content hread]
  have hrun : (effectiveSettings access home o).run t =
      pure (.ok (o.layer.applyTo .initial), t) := by
    unfold effectiveSettings
    rw [hnone]
    simp [hinitial]
  have hempty : Settings.Layer.ofDocument? [] = some {} := rfl
  exact ⟨o.layer.applyTo .initial, hrun, Setting.prevails_of_ofDocument? hempty o⟩

/-- A section that is written as a list gives a tempo without the key of the tempo, and no option
    gives one. What holds is not the initial tempo. -/
theorem list_needs_no_key :
    let content := "tempo = [132]\n"
    let t : FileTree := ⟨"/stand".toList, [(["my.toml".toList], .file content)]⟩
    let o : Options := { settingsFile := some "my.toml".toList }
    (Toml.parse content.toList).map Setting.bpm.hasKey = some false ∧
      ∃ s, (effectiveSettings access [] o).run t = (.ok s, t) ∧
        Setting.bpm.valueIn s = some 132 ∧ Setting.bpm.valueIn .initial = some 100 := by
  intro content t o
  have haccepted : Settings.ofText? content.toList = some { Settings.initial with bpm := 132 } := by
    decide +kernel
  have hkey : (Toml.parse content.toList).map Setting.bpm.hasKey = some false := by
    decide +kernel
  have hread : t.read "my.toml".toList = .ok content := rfl
  exact ⟨hkey, _, effectiveSettings_run (o := o) hread haccepted, rfl, rfl⟩

end FileTree

end Rehearsal
