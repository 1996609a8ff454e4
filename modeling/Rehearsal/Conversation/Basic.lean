import Rehearsal.Conversation.Console
import Rehearsal.Conversation.Utterances
import Rehearsal.Conversation.WakeWord
import Rehearsal.Recognition.Classifier
import Rehearsal.Session.Practice

/-! # The conversation

  Utterances that count are classified, and their intents are carried out, one after
  another. The conversation ends with the first intent to quit; the end of input is such an
  intent, and needs no wake word.
-/

namespace Rehearsal

/-- A conversation under way. -/
structure Conversation where
  attention : Attention
  classifier : Classifier
  practice : Practice

/-- What one utterance, or the end of input, leads to. -/
structure Exchange where
  /-- How many prompts were shown before it. -/
  prompts : Nat
  intent : Option Intent
  said : Option String
  background : List String
  ends : Bool
  deriving DecidableEq, Repr

namespace Exchange

/-- Nothing happens. -/
def silent : Exchange := ⟨0, none, none, [], false⟩

/-- A sentence is said, and nothing else happens. -/
def saying (text : String) : Exchange := { silent with said := some text }

def printed (e : Exchange) (prompt : String) : String :=
  Utterances.prompted prompt e.prompts
    ++ String.join ((e.said.toList.map Console.sentence ++ e.background).map Console.line)

end Exchange

namespace Conversation

/-- The answer to the wake word alone. -/
def awakeText : String := "Yes?"

/-- The lines of what happened in the background. -/
def backgroundLines (announced : List String) (ticks : List Tick) : List String :=
  ticks.map Console.tick ++ announced.map Console.sentence

/-- Take a step of the session. -/
def act (c : Conversation) (step : PracticeStep) : Conversation × PracticeEvents × List String :=
  let (practice, events) := c.practice.step step
  let (practice, ticks) := practice.drain
  ({ c with practice }, events, backgroundLines events.announced ticks)

def carryOut (c : Conversation) (intent : Intent) : Conversation × Exchange :=
  let (c, events, background) := c.act (.intent intent)
  (c, { Exchange.silent with
    intent := some intent
    said := events.response.map (·.text)
    background
    ends := events.response.any (·.quits) })

def hear (c : Conversation) (utterance : List Char) : Conversation × Exchange :=
  match c.attention.hear utterance with
  | (attention, .command text) => { c with attention }.carryOut (c.classifier.classify text).intent
  | (attention, .awake) => ({ c with attention }, .saying awakeText)
  | (attention, .ignored) => ({ c with attention }, .silent)

def wait (c : Conversation) (time : Duration) : Conversation × List String :=
  let (c, _, background) := c.act (.advance time 1)
  (c, background)

/-- A whole conversation: all that some input leads to. The time `gaps n` passes before the `n`-th
    utterance, counted from zero. -/
def run (gaps : Nat → Duration) (c : Conversation) (bytes : List UInt8) : List Exchange :=
  let reading := Utterances.read 0 bytes
  let (c, earlier) := c.wait (gaps 0)
  if h : reading.utterance.isSome then
    let (c, e) := c.hear (reading.utterance.get h)
    let e := { e with prompts := reading.prompts, background := earlier ++ e.background }
    if e.ends then [e] else e :: run (fun n => gaps (n + 1)) c reading.rest
  else
    let (_, e) := c.carryOut .quit
    [{ e with prompts := reading.prompts, background := earlier ++ e.background }]
termination_by bytes.length
decreasing_by exact Utterances.length_read_lt 0 bytes h

end Conversation

end Rehearsal
