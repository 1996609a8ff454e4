import Rehearsal.Proofs.Settings.Storable
import Rehearsal.Proofs.Toml.Documents
import Rehearsal.Settings.Writing

/-! # Stored settings are read back

  The settings file consists of five parts. What is written for each setting stands for the value
  that the setting is read from, so the document that the file describes gives, key by key, the
  settings that it was written for.

  A setting without a value has no line. It has no value again when it is read, because no optional
  setting has one initially.

  Settings within the bounds (`Storable`) are thus read back, and settings that were read are within
  the bounds.

  Main statement: `settings_round_trip`.
-/

namespace Rehearsal.Settings

open Toml Number

variable {s : Settings}

/-! ## The parts of the settings file -/

def textField (key text : String) : Field := ⟨key, writeString text, .string text⟩

/-- A line for a truth value. -/
def flagField (key : String) (b : Bool) : Field := ⟨key, writeBool b, .boolean b⟩

def countField (key : String) (n : Nat) : Field := ⟨key, digitsOf n, .integer n⟩

def numberField (key : String) (x : Binary64) : Field := ⟨key, writeFloat x, .float x⟩

def tempoPart (s : Settings) : Part :=
  ⟨"tempo", [countField "bpm" s.bpm, textField "subdivision" s.subdivision.name]⟩

def classifierPart (s : Settings) : Part :=
  ⟨"classifier",
    [flagField "use_model" s.usesModel, numberField "confidence_threshold" s.threshold]⟩

def pagerPart (s : Settings) : Part :=
  ⟨"pager",
    textField "music_dir" s.musicDir :: (s.totalPages.map (countField "total_pages")).toList⟩

def inputPart (s : Settings) : Part :=
  ⟨"input",
    (s.wakeWord.map (textField "wake_word")).toList ++ [textField "prompt" s.prompt]⟩

def viewerPart (s : Settings) : Part :=
  ⟨"viewer",
    flagField "enabled" s.viewerEnabled :: (s.viewerCommand.map (textField "command")).toList⟩

def parts (s : Settings) : List Part :=
  [s.tempoPart, s.classifierPart, s.pagerPart, s.inputPart, s.viewerPart]

theorem forall_mem_parts {P : Part → Prop} (htempo : P s.tempoPart)
    (hclassifier : P s.classifierPart) (hpager : P s.pagerPart) (hinput : P s.inputPart)
    (hviewer : P s.viewerPart) : ∀ p ∈ s.parts, P p := by
  intro p hp
  simp only [parts, List.mem_cons, List.not_mem_nil, or_false] at hp
  rcases hp with rfl | rfl | rfl | rfl | rfl
  exacts [htempo, hclassifier, hpager, hinput, hviewer]

theorem text_eq_documentText (s : Settings) : s.text = documentText s.parts := by
  obtain ⟨_, _, _, _, _, totalPages, wakeWord, _, _, viewerCommand⟩ := s
  cases totalPages <;> cases wakeWord <;> cases viewerCommand <;> rfl

theorem name_nodup (s : Settings) : (s.parts.map (·.name)).Nodup := by
  have hnames : s.parts.map (·.name) = ["tempo", "classifier", "pager", "input", "viewer"] := rfl
  rw [hnames]
  decide

theorem key_nodup (s : Settings) : ∀ p ∈ s.parts, (p.fields.map (·.key)).Nodup := by
  refine forall_mem_parts ?_ ?_ ?_ ?_ ?_
  · show ["bpm", "subdivision"].Nodup
    decide
  · show ["use_model", "confidence_threshold"].Nodup
    decide
  -- the key of an optional setting is there or not
  · unfold pagerPart
    cases s.totalPages with
    | none => exact List.nodup_singleton _
    | some n =>
      show ["music_dir", "total_pages"].Nodup
      decide
  · unfold inputPart
    cases s.wakeWord with
    | none => exact List.nodup_singleton _
    | some word =>
      show ["wake_word", "prompt"].Nodup
      decide
  · unfold viewerPart
    cases s.viewerCommand with
    | none => exact List.nodup_singleton _
    | some command =>
      show ["enabled", "command"].Nodup
      decide

theorem plain_textField (text : String) {key : String} (hkey : Bare key) :
    (textField key text).Plain :=
  ⟨hkey, represents_writeString text⟩

theorem plain_flagField (b : Bool) {key : String} (hkey : Bare key) : (flagField key b).Plain :=
  ⟨hkey, represents_writeBool b⟩

theorem plain_countField {n : Nat} (hn : n ≤ maxCount) {key : String} (hkey : Bare key) :
    (countField key n).Plain :=
  ⟨hkey, represents_digitsOf (Nat.lt_of_le_of_lt hn (by decide))⟩

theorem plain_numberField {x : Binary64} (hx : x.Canonical) (hnumber : x.isUndefined = false)
    {key : String} (hkey : Bare key) : (numberField key x).Plain :=
  ⟨hkey, represents_writeFloat hx hnumber⟩

theorem plain_optional {α : Type} {field : α → Field} {setting : Option α}
    (h : ∀ a, setting = some a → (field a).Plain) :
    ∀ f ∈ (setting.map field).toList, f.Plain := by
  cases setting with
  | none => exact List.forall_mem_nil _
  | some a => exact List.forall_mem_singleton.2 (h a rfl)

/-- What is written stands for the values. -/
theorem plain_parts (h : s.Storable) (hnumber : s.threshold.isUndefined = false) :
    ∀ p ∈ s.parts, p.Plain := by
  -- each field is a count, a text, a flag or a number, under a bare key
  have htempo : s.tempoPart.Plain := by
    refine ⟨show Bare "tempo" by decide,
      List.forall_mem_cons.2 ⟨?_, List.forall_mem_singleton.2 ?_⟩⟩
    · exact plain_countField h.bpm (by decide)
    · exact plain_textField _ (by decide)
  have hclassifier : s.classifierPart.Plain := by
    refine ⟨show Bare "classifier" by decide,
      List.forall_mem_cons.2 ⟨?_, List.forall_mem_singleton.2 ?_⟩⟩
    · exact plain_flagField _ (by decide)
    · exact plain_numberField h.threshold hnumber (by decide)
  have hpager : s.pagerPart.Plain := by
    refine ⟨show Bare "pager" by decide,
      List.forall_mem_cons.2 ⟨?_, plain_optional fun n hn => ?_⟩⟩
    · exact plain_textField _ (by decide)
    · exact plain_countField (h.totalPages n hn) (by decide)
  have hinput : s.inputPart.Plain := by
    refine ⟨show Bare "input" by decide,
      List.forall_mem_append.2 ⟨plain_optional fun word _ => ?_, List.forall_mem_singleton.2 ?_⟩⟩
    · exact plain_textField word (by decide)
    · exact plain_textField _ (by decide)
  have hviewer : s.viewerPart.Plain := by
    refine ⟨show Bare "viewer" by decide,
      List.forall_mem_cons.2 ⟨?_, plain_optional fun command _ => ?_⟩⟩
    · exact plain_flagField _ (by decide)
    · exact plain_textField command (by decide)
  exact forall_mem_parts htempo hclassifier hpager hinput hviewer

/-! ## Reading the parts -/

/-- The layer that gives each setting the value that it has. -/
def layer (s : Settings) : Layer :=
  { bpm := some s.bpm
    subdivision := some s.subdivision
    usesModel := some s.usesModel
    threshold := some s.threshold
    musicDir := some s.musicDir
    totalPages := s.totalPages
    wakeWord := s.wakeWord
    prompt := some s.prompt
    viewerEnabled := some s.viewerEnabled
    viewerCommand := s.viewerCommand }

theorem layer_applyTo_initial (s : Settings) : s.layer.applyTo initial = s := by
  obtain ⟨_, _, _, _, _, totalPages, wakeWord, _, _, viewerCommand⟩ := s
  cases totalPages <;> cases wakeWord <;> cases viewerCommand <;> rfl

def sectionOf (p : Part) : Section := fun key _ => p.entries.get? key

/-- A setting is read as it is if its line has its value, and if there is no line where there is no
    value. -/
theorem read?_sectionOf {α : Type} {p : Part} {key : String} {setting : Option α}
    {understand : Value → Option α} (value : α → Value)
    (hget : p.entries.get? key = setting.map value)
    (hvalue : ∀ a, setting = some a → understand (value a) = some a) (position : Nat) :
    (sectionOf p).read? key position understand = some setting := by
  unfold Section.read? sectionOf
  rw [hget]
  cases setting with
  | none => rfl
  | some a => exact congrArg (Option.map some) (hvalue a rfl)

theorem count?_integer {n : Nat} (h : n ≤ maxCount) : count? (.integer n) = some n := by
  simp [count?, h]

theorem subdivision?_name (subdivision : Subdivision) :
    subdivision? (.string subdivision.name) = some subdivision := by
  cases subdivision <;> decide

/-- The document gives each setting its value. -/
theorem ofDocument?_parts (h : s.Storable) :
    Layer.ofDocument? (documentTable s.parts) = some s.layer := by
  -- the sections
  have htempo : sectionNamed? (documentTable s.parts) "tempo" = some (sectionOf s.tempoPart) := rfl
  have hclassifier : sectionNamed? (documentTable s.parts) "classifier" =
      some (sectionOf s.classifierPart) := rfl
  have hpager : sectionNamed? (documentTable s.parts) "pager" = some (sectionOf s.pagerPart) := rfl
  have hinput : sectionNamed? (documentTable s.parts) "input" = some (sectionOf s.inputPart) := rfl
  have hviewer : sectionNamed? (documentTable s.parts) "viewer" =
      some (sectionOf s.viewerPart) := rfl
  -- the values in them
  have hbpm : (sectionOf s.tempoPart).read? "bpm" 0 count? = some (some s.bpm) :=
    read?_sectionOf (fun n : Nat => .integer n) rfl
      (fun n hn => count?_integer (Option.some.inj hn ▸ h.bpm)) 0
  have hsubdivision : (sectionOf s.tempoPart).read? "subdivision" 1 subdivision? =
      some (some s.subdivision) :=
    read?_sectionOf (fun x : Subdivision => .string x.name) rfl (fun x _ => subdivision?_name x) 1
  have husesModel : (sectionOf s.classifierPart).read? "use_model" 0 flag? =
      some (some s.usesModel) :=
    read?_sectionOf .boolean rfl (fun _ _ => rfl) 0
  have hthreshold : (sectionOf s.classifierPart).read? "confidence_threshold" 1 number? =
      some (some s.threshold) :=
    read?_sectionOf .float rfl (fun _ _ => rfl) 1
  have hmusicDir : (sectionOf s.pagerPart).read? "music_dir" 0 text? = some (some s.musicDir) :=
    read?_sectionOf .string rfl (fun _ _ => rfl) 0
  have htotalPages : (sectionOf s.pagerPart).read? "total_pages" 1 count? = some s.totalPages := by
    refine read?_sectionOf (fun n : Nat => .integer n) ?_
      (fun n hn => count?_integer (h.totalPages n hn)) 1
    unfold pagerPart
    cases s.totalPages <;> rfl
  have hwakeWord : (sectionOf s.inputPart).read? "wake_word" 0 text? = some s.wakeWord := by
    refine read?_sectionOf .string ?_ (fun _ _ => rfl) 0
    unfold inputPart
    cases s.wakeWord <;> rfl
  have hprompt : (sectionOf s.inputPart).read? "prompt" 1 text? = some (some s.prompt) := by
    refine read?_sectionOf .string ?_ (fun _ _ => rfl) 1
    unfold inputPart
    cases s.wakeWord <;> rfl
  have hviewerEnabled : (sectionOf s.viewerPart).read? "enabled" 0 flag? =
      some (some s.viewerEnabled) :=
    read?_sectionOf .boolean rfl (fun _ _ => rfl) 0
  have hviewerCommand : (sectionOf s.viewerPart).read? "command" 1 text? =
      some s.viewerCommand := by
    refine read?_sectionOf .string ?_ (fun _ _ => rfl) 1
    unfold viewerPart
    cases s.viewerCommand <;> rfl
  unfold Layer.ofDocument?
  simp only [htempo, hclassifier, hpager, hinput, hviewer, hbpm, hsubdivision, husesModel,
    hthreshold, hmusicDir, htotalPages, hwakeWord, hprompt, hviewerEnabled, hviewerCommand,
    Option.bind_eq_bind, Option.bind_some]
  rfl

/-! ## The settings file -/

/-- The settings file of settings that can be written gives these settings. -/
theorem ofText?_text (h : s.Storable) (hnumber : s.threshold.isUndefined = false) :
    ofText? s.text = some s := by
  have hparse : parse s.text = some (documentTable s.parts) := by
    rw [text_eq_documentText]
    exact parse_documentText (plain_parts h hnumber) s.name_nodup s.key_nodup
  have hlayer : Layer.ofText? s.text = some s.layer := by
    unfold Layer.ofText?
    rw [hparse]
    exact ofDocument?_parts h
  unfold ofText?
  rw [hlayer]
  exact congrArg some s.layer_applyTo_initial

/-- **Stored settings are read back**: the settings that come out of texts are those within the
    bounds, whatever texts are among them, and they come out of their own settings file again. Only
    a threshold that is no number is left out. -/
theorem settings_round_trip (hnumber : s.threshold.isUndefined = false) :
    ((∃ source, ofText? source = some s) ↔ s.Storable) ∧
      ∀ source, ofText? source = some s → ofText? s.text = some s ∧ s.same s = true := by
  refine ⟨⟨?_, fun h => ⟨s.text, ofText?_text h hnumber⟩⟩, fun source h => ⟨?_, ?_⟩⟩
  · rintro ⟨source, h⟩
    exact storable_of_ofText? h
  · exact ofText?_text (storable_of_ofText? h) hnumber
  · simp [same, Binary64.same, hnumber]

/-- A prompt with a quote, a backslash and a line end. -/
theorem settings_round_trip_prompt :
    ofText? (text { initial with totalPages := some 12, prompt := "\"\\\n" }) =
        some { initial with totalPages := some 12, prompt := "\"\\\n" } ∧
      same { initial with totalPages := some 12, prompt := "\"\\\n" }
        { initial with totalPages := some 12, prompt := "\"\\\n" } = true := by
  have h : ofText? "[pager]\ntotal_pages = 12\n[input]\nprompt = \"\\\"\\\\\\n\"".toList =
      some { initial with totalPages := some 12, prompt := "\"\\\n" } := by
    decide +kernel
  exact (settings_round_trip (by decide)).2 _ h

end Rehearsal.Settings
