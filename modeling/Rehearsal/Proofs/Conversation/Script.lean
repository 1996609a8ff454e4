import Mathlib.Data.List.TakeWhile
import Rehearsal.Conversation.Basic
import Rehearsal.Proofs.Conversation.Lines
import Rehearsal.Proofs.Session.Farewell

/-! # The script of a conversation

  A conversation reads, listens, classifies and acts in turn. What it does is settled without the
  session: the utterances of the input are heard one after the other, and each of them is a cue to
  carry out an intent, to say that one listens, or to do nothing. The conversation plays these cues
  up to the first intent to quit; if there is none, it quits by itself at the end.

  The session comes in only where a cue is played. `answers` says what is said to some cues by a
  session that is given some time before each of them, which need not be the same every time.

  The key lemma is `run_eq_play`: the conversation plays its script, cue by cue.

  Main statement: `run_conducted`.
-/

namespace Rehearsal

/-! ## The script -/

def Utterances.of (bytes : List UInt8) : List (List Char) := (readAll 0 bytes).2

/-- What becomes of some utterances, one after the other. -/
def Attention.heard (g : Attention) : List (List Char) → List Heard
  | [] => []
  | u :: us => (g.hear u).2 :: (g.hear u).1.heard us

def Heard.command? : Heard → Option (List Char)
  | .command text => some text
  | .awake | .ignored => none

/-- What an utterance, or the end of input, calls for. -/
inductive Cue where
  | carryOut (intent : Intent)
  | wake
  | pass
  deriving DecidableEq, Repr

def Cue.intent? : Cue → Option Intent
  | .carryOut intent => some intent
  | .wake | .pass => none

/-- What calls for the intent to quit. -/
def Cue.isQuit (cue : Cue) : Bool := cue == .carryOut .quit

/-- What is called for by something heard. -/
def Classifier.cue (c : Classifier) : Heard → Cue
  | .command text => .carryOut (c.classify text).intent
  | .awake => .wake
  | .ignored => .pass

/-- Cues up to the first one to quit. If there is none, the end of input is one. -/
def untilQuit (cues : List Cue) : List Cue := cues.takeWhile (!·.isQuit) ++ [.carryOut .quit]

namespace Conversation

def cues (c : Conversation) (utterances : List (List Char)) : List Cue :=
  (c.attention.heard utterances).map c.classifier.cue

/-- What is asked for in some utterances: the intents of the commands among them. -/
def wanted (c : Conversation) (utterances : List (List Char)) : List Intent :=
  ((c.attention.heard utterances).filterMap Heard.command?).map fun text =>
    (c.classifier.classify text).intent

/-- What is done about some input, cue by cue. -/
def script (c : Conversation) (bytes : List UInt8) : List Cue :=
  untilQuit (c.cues (Utterances.of bytes))

end Conversation

/-! ## Playing a script -/

namespace Practice

/-- The session after a step and after its ticks are read. -/
def taken (p : Practice) (step : PracticeStep) : Practice := (p.step step).1.drain.1

/-- The lines that a step brings from the background. -/
def lines (p : Practice) (step : PracticeStep) : List String :=
  Conversation.backgroundLines (p.step step).2.announced (p.step step).1.drain.2

/-- What the session says to an intent. -/
def answer (p : Practice) (intent : Intent) : Response :=
  (p.assistant.carryOut p.clock intent).2

def play (p : Practice) : Cue → Practice × Exchange
  | .carryOut intent =>
    (p.taken (.intent intent),
      { Exchange.silent with
        intent := some intent
        said := some (p.answer intent).text
        background := p.lines (.intent intent)
        ends := (p.answer intent).quits })
  | .wake => (p, .saying Conversation.awakeText)
  | .pass => (p, .silent)

/-- What some cues lead to, with the given times passing before them. -/
def playAll (gaps : Nat → Duration) (p : Practice) : List Cue → List Exchange
  | [] => []
  | cue :: cues =>
    let earlier := p.lines (.advance (gaps 0) 1)
    let (p, e) := (p.taken (.advance (gaps 0) 1)).play cue
    { e with background := earlier ++ e.background } :: playAll (fun n => gaps (n + 1)) p cues

/-- What is said to some cues, with the given times passing before them: an answer of the session to
    every intent, and a sign that one listens to the wake word. -/
def answers (gaps : Nat → Duration) (p : Practice) : List Cue → List String
  | [] => []
  | cue :: cues =>
    let p := p.taken (.advance (gaps 0) 1)
    let gaps := fun n => gaps (n + 1)
    match cue with
    | .carryOut intent => (p.answer intent).text :: answers gaps (p.taken (.intent intent)) cues
    | .wake => Conversation.awakeText :: answers gaps p cues
    | .pass => answers gaps p cues

theorem intents_playAll (gaps : Nat → Duration) (p : Practice) (cues : List Cue) :
    (p.playAll gaps cues).filterMap (·.intent) = cues.filterMap Cue.intent? := by
  induction cues generalizing gaps p with
  | nil => rfl
  | cons cue cues ih =>
    simp only [playAll, List.filterMap_cons, ih]
    cases cue with
    | carryOut intent => rfl
    | wake => rfl
    | pass => rfl

theorem said_playAll (gaps : Nat → Duration) (p : Practice) (cues : List Cue) :
    (p.playAll gaps cues).filterMap (·.said) = p.answers gaps cues := by
  induction cues generalizing gaps p with
  | nil => rfl
  | cons cue cues ih =>
    simp only [playAll, List.filterMap_cons, ih]
    cases cue with
    | carryOut intent => rfl
    | wake => rfl
    | pass => rfl

end Practice

/-! ## Reading on -/

namespace Utterances

theorem readAll_snd (prompts : Nat) (bytes : List UInt8) :
    (readAll prompts bytes).2 = of bytes := by
  rw [of, readAll_eq, readAll_eq]

theorem of_of_none {bytes : List UInt8} (h : (read 0 bytes).utterance = none) : of bytes = [] := by
  rw [of, readAll]
  simp [h]

theorem of_of_some {bytes : List UInt8} {u : List Char} (h : (read 0 bytes).utterance = some u) :
    of bytes = u :: of (read 0 bytes).rest := by
  rw [of, readAll, ← readAll_snd (read 0 bytes).prompts]
  simp [h]

end Utterances

/-! ## The conversation plays its script -/

def Exchange.unprompted (e : Exchange) : Exchange := { e with prompts := 0 }

theorem untilQuit_cons_quit (cues : List Cue) :
    untilQuit (.carryOut .quit :: cues) = [.carryOut .quit] := rfl

theorem untilQuit_cons {cue : Cue} (h : cue.isQuit = false) (cues : List Cue) :
    untilQuit (cue :: cues) = cue :: untilQuit cues := by
  unfold untilQuit
  rw [List.takeWhile_cons_of_pos (by rw [h]; rfl), List.cons_append]

theorem untilQuit_append {front : List Cue} (h : ∃ cue ∈ front, cue.isQuit = true)
    (back : List Cue) : untilQuit (front ++ back) = untilQuit front := by
  induction front with
  | nil => obtain ⟨cue, hcue, -⟩ := h; cases hcue
  | cons cue front ih =>
    cases hquit : cue.isQuit with
    | true =>
      rw [eq_of_beq hquit]
      rfl
    | false =>
      obtain ⟨other, hother, hisQuit⟩ := h
      -- this cue goes on, so the one that ends it comes later
      have hlater : other ∈ front := by
        rcases List.mem_cons.1 hother with rfl | hother
        · rw [hquit] at hisQuit
          cases hisQuit
        · exact hother
      rw [List.cons_append, untilQuit_cons hquit, untilQuit_cons hquit, ih ⟨other, hlater, hisQuit⟩]

/-- The intents of a script are those of all cues, up to the first one to quit. -/
theorem intents_untilQuit (cues : List Cue) :
    (untilQuit cues).filterMap Cue.intent? =
      (cues.filterMap Cue.intent?).takeWhile (· ≠ .quit) ++ [.quit] := by
  induction cues with
  | nil => rfl
  | cons cue cues ih =>
    cases hquit : cue.isQuit with
    | true =>
      rw [eq_of_beq hquit]
      rfl
    | false =>
      rw [untilQuit_cons hquit]
      -- only an intent is passed on, and this one does not end the conversation
      cases cue with
      | wake => exact ih
      | pass => exact ih
      | carryOut intent =>
        have hintent : intent ≠ .quit := by simpa [Cue.isQuit] using hquit
        simp only [List.filterMap_cons, Cue.intent?, ih, hintent, ne_eq, not_false_eq_true,
          decide_true, List.takeWhile_cons_of_pos, List.cons_append]

namespace Conversation

theorem carryOut_eq (c : Conversation) (intent : Intent) :
    c.carryOut intent = ({ c with practice := (c.practice.play (.carryOut intent)).1 },
      (c.practice.play (.carryOut intent)).2) := rfl

/-- What is heard is played as a cue, and attention is paid to it. -/
theorem hear_eq (c : Conversation) (u : List Char) :
    c.hear u =
      ({ c with
          attention := (c.attention.hear u).1
          practice := (c.practice.play (c.classifier.cue (c.attention.hear u).2)).1 },
        (c.practice.play (c.classifier.cue (c.attention.hear u).2)).2) := by
  unfold hear
  -- an utterance that is a command, the wake word alone, or neither
  split
  · rename_i attention text hheard
    rw [hheard]
    rfl
  · rename_i attention hheard
    rw [hheard]
    rfl
  · rename_i attention hheard
    rw [hheard]
    rfl

theorem wait_eq (c : Conversation) (gap : Duration) :
    c.wait gap = ({ c with practice := c.practice.taken (.advance gap 1) },
      c.practice.lines (.advance gap 1)) := rfl

end Conversation

theorem Practice.unprompted_play (p : Practice) (cue : Cue) (prompts : Nat)
    (background : List String) :
    Exchange.unprompted { (p.play cue).2 with prompts, background } =
      { (p.play cue).2 with background } := by
  cases cue <;> rfl

/-- A cue ends the conversation exactly if it calls for the intent to quit. -/
theorem Practice.ends_play (p : Practice) (cue : Cue) : (p.play cue).2.ends = cue.isQuit := by
  cases cue with
  | wake => rfl
  | pass => rfl
  | carryOut intent =>
    by_cases h : intent = .quit
    · subst h
      rfl
    · have hcue : Cue.isQuit (.carryOut intent) = false := by
        simpa [Cue.isQuit] using h
      rw [hcue]
      exact (Assistant.goesOn_carryOut h p.assistant p.clock).quits

namespace Conversation

theorem run_of_none {bytes : List UInt8} (h : (Utterances.read 0 bytes).utterance = none)
    (gaps : Nat → Duration) (c : Conversation) :
    c.run gaps bytes =
      [{ ((c.wait (gaps 0)).1.carryOut .quit).2 with
        prompts := (Utterances.read 0 bytes).prompts
        background :=
          (c.wait (gaps 0)).2 ++ ((c.wait (gaps 0)).1.carryOut .quit).2.background }] := by
  rw [run]
  simp [h]

theorem run_of_some {bytes : List UInt8} {u : List Char}
    (h : (Utterances.read 0 bytes).utterance = some u) (gaps : Nat → Duration) (c : Conversation) :
    c.run gaps bytes =
      { ((c.wait (gaps 0)).1.hear u).2 with
        prompts := (Utterances.read 0 bytes).prompts
        background := (c.wait (gaps 0)).2 ++ ((c.wait (gaps 0)).1.hear u).2.background } ::
      if ((c.wait (gaps 0)).1.hear u).2.ends then []
      else ((c.wait (gaps 0)).1.hear u).1.run (fun n => gaps (n + 1))
        (Utterances.read 0 bytes).rest := by
  rw [run]
  simp only [h, Option.isSome_some, dite_true, Option.get_some]
  split <;> rfl

/-- The conversation plays its script, cue by cue. -/
theorem run_eq_play (gaps : Nat → Duration) (c : Conversation) (bytes : List UInt8) :
    (c.run gaps bytes).map Exchange.unprompted = c.practice.playAll gaps (c.script bytes) := by
  -- what is left of the input gets shorter with every utterance that is read
  induction hn : bytes.length using Nat.strongRecOn generalizing gaps c bytes with
  | ind n ih =>
    subst hn
    cases h : (Utterances.read 0 bytes).utterance with
    | none =>
      rw [run_of_none h, script, Utterances.of_of_none h, wait_eq, carryOut_eq]
      rfl
    | some u =>
      have shorter := Utterances.length_read_lt 0 bytes (by rw [h]; rfl)
      rw [run_of_some h, script, Utterances.of_of_some h, wait_eq, hear_eq, cues, Attention.heard,
        List.map_cons, List.map_cons, Practice.unprompted_play, Practice.ends_play]
      cases hquit : (c.classifier.cue (c.attention.hear u).2).isQuit with
      | true =>
        -- the script ends here as well
        rw [eq_of_beq hquit, untilQuit_cons_quit]
        rfl
      | false =>
        rw [untilQuit_cons hquit]
        exact congrArg (_ :: ·) (ih _ shorter _ _ _ rfl)

theorem intents_cues (c : Conversation) (utterances : List (List Char)) :
    (c.cues utterances).filterMap Cue.intent? = c.wanted utterances := by
  unfold cues wanted
  rw [List.filterMap_map, List.map_filterMap]
  congr 1
  funext heard
  cases heard <;> rfl

end Conversation

/-! ## The end of the conversation -/

/-- The last sentence comes last, and only there. -/
theorem Practice.answers_snoc_quit (gaps : Nat → Duration) (p : Practice) {cues : List Cue}
    (h : ∀ cue ∈ cues, cue.isQuit = false) :
    ∃ front, p.answers gaps (cues ++ [.carryOut .quit]) = front ++ ["Goodbye."] ∧
      "Goodbye." ∉ front := by
  induction cues generalizing gaps p with
  | nil => exact ⟨[], rfl, by simp⟩
  | cons cue cues ih =>
    have hlater : ∀ cue ∈ cues, cue.isQuit = false := fun other hother =>
      h other (List.mem_cons_of_mem _ hother)
    cases cue with
    | pass => exact ih _ _ hlater
    | wake =>
      -- every answer before the last is another text than the goodbye
      obtain ⟨front, hfront, hnot⟩ := ih _ (p.taken (.advance (gaps 0) 1)) hlater
      refine ⟨Conversation.awakeText :: front, congrArg (_ :: ·) hfront, ?_⟩
      rw [List.mem_cons, not_or]
      exact ⟨by decide, hnot⟩
    | carryOut intent =>
      have hintent : intent ≠ .quit := by simpa [Cue.isQuit] using h _ List.mem_cons_self
      obtain ⟨front, hfront, hnot⟩ :=
        ih _ ((p.taken (.advance (gaps 0) 1)).taken (.intent intent)) hlater
      refine ⟨((p.taken (.advance (gaps 0) 1)).answer intent).text :: front,
        congrArg (_ :: ·) hfront, ?_⟩
      rw [List.mem_cons, not_or]
      exact ⟨(Assistant.goesOn_carryOut hintent _ _).text.symm, hnot⟩

theorem Practice.ends_playAll (gaps : Nat → Duration) (p : Practice) (cues : List Cue) :
    (p.playAll gaps cues).map (·.ends) = cues.map Cue.isQuit := by
  induction cues generalizing gaps p with
  | nil => rfl
  | cons cue cues ih =>
    simp only [playAll, List.map_cons, ih, ends_play]

/-! ## The whole conversation -/

namespace Conversation

/-- The exchanges are all that some input leads to. -/
structure Conducted (gaps : Nat → Duration) (c : Conversation) (bytes : List UInt8)
    (exchanges : List Exchange) : Prop where
  /-- The intents are those of the commands, up to the first one to quit, and the last one is to
      quit. -/
  intents : exchanges.filterMap (·.intent) =
    (c.wanted (Utterances.of bytes)).takeWhile (· ≠ .quit) ++ [.quit]
  /-- Every utterance that counts is answered in turn, up to the first intent to quit. -/
  said : exchanges.filterMap (·.said) = c.practice.answers gaps (c.script bytes)
  /-- The last sentence comes last, and only there. -/
  goodbye : ∃ front, exchanges.filterMap (·.said) = front ++ ["Goodbye."] ∧ "Goodbye." ∉ front
  /-- The conversation ends with the last exchange, and not before. -/
  ends : ∃ front last, exchanges = front ++ [last] ∧ last.ends = true ∧
    ∀ e ∈ front, e.ends = false
  /-- Input that begins with the same utterances leads to the same, if one of them calls for the
      intent to quit. -/
  deaf : ∀ other us more more', Utterances.of bytes = us ++ more →
    Utterances.of other = us ++ more' → .quit ∈ c.wanted us →
      (c.run gaps other).map Exchange.unprompted = exchanges.map Exchange.unprompted

theorem heard_append (g : Attention) (us more : List (List Char)) :
    ∃ later, g.heard (us ++ more) = g.heard us ++ later := by
  induction us generalizing g with
  | nil => exact ⟨_, rfl⟩
  | cons u us ih =>
    obtain ⟨later, hlater⟩ := ih (g.hear u).1
    exact ⟨later, congrArg (_ :: ·) hlater⟩

/-- Utterances behind one that calls for the intent to quit are not in the script. -/
theorem script_of_append {c : Conversation} {bytes : List UInt8} {us more : List (List Char)}
    (h : Utterances.of bytes = us ++ more) (hquit : .quit ∈ c.wanted us) :
    c.script bytes = untilQuit (c.cues us) := by
  obtain ⟨later, hlater⟩ := heard_append c.attention us more
  rw [script, h, cues, hlater, List.map_append]
  refine untilQuit_append ?_ _
  rw [← intents_cues] at hquit
  obtain ⟨cue, hcue, hintent⟩ := List.mem_filterMap.1 hquit
  refine ⟨cue, hcue, ?_⟩
  cases cue with
  | carryOut intent =>
    rw [Option.some.inj hintent]
    rfl
  | wake => cases hintent
  | pass => cases hintent

/-- **The conversation as a whole**: whatever the input, the wake word, the classifier and the
    session, and however much time passes before each utterance, the conversation ends. It carries
    out the intents of the commands in order, up to the first one to quit or with one of its own at
    the end of input, says in order what each utterance is answered with, ends with a goodbye that
    it says only then, and takes no notice of anything after it. -/
theorem run_conducted (gaps : Nat → Duration) (c : Conversation) (bytes : List UInt8) :
    Conducted gaps c bytes (c.run gaps bytes) := by
  -- the exchanges are those of the script, up to the number of prompts
  have hplay := run_eq_play gaps c bytes
  have hintents : (c.run gaps bytes).filterMap (·.intent) =
      (c.practice.playAll gaps (c.script bytes)).filterMap (·.intent) := by
    rw [← hplay, List.filterMap_map]
    rfl
  have hsaid : (c.run gaps bytes).filterMap (·.said) =
      c.practice.answers gaps (c.script bytes) := by
    rw [← Practice.said_playAll, ← hplay, List.filterMap_map]
    rfl
  have hends : (c.run gaps bytes).map (·.ends) = (c.script bytes).map Cue.isQuit := by
    rw [← Practice.ends_playAll gaps c.practice, ← hplay, List.map_map]
    rfl
  -- the script ends with the first cue that quits
  have hfront : ∀ cue ∈ (c.cues (Utterances.of bytes)).takeWhile (!·.isQuit),
      cue.isQuit = false := by
    intro cue hcue
    simpa using List.mem_takeWhile_imp hcue
  refine ⟨?_, hsaid, ?_, ?_, ?_⟩
  · rw [hintents, Practice.intents_playAll, script, intents_untilQuit, intents_cues]
  · rw [hsaid]
    exact Practice.answers_snoc_quit gaps c.practice hfront
  -- the last exchange is the only one that ends the conversation
  · rw [script, untilQuit, List.map_append] at hends
    obtain ⟨front, back, hrun, hno, hyes⟩ := List.map_eq_append_iff.1 hends
    obtain ⟨last, rfl, hlast⟩ := List.map_eq_singleton_iff.1 hyes
    refine ⟨front, last, hrun, hlast, ?_⟩
    intro e he
    have hmem := List.mem_map_of_mem (f := Exchange.ends) he
    rw [hno] at hmem
    obtain ⟨cue, hcue, hquit⟩ := List.mem_map.1 hmem
    rw [← hquit]
    exact hfront cue hcue
  -- with a quit in it, what follows does not enter the script
  · intro other us more more' hbytes hother hquit
    rw [hplay, run_eq_play, script_of_append hbytes hquit, script_of_append hother hquit]

end Conversation

end Rehearsal
