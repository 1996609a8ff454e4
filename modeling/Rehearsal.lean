import Rehearsal.CommandLine.Numeral
import Rehearsal.CommandLine.Options
import Rehearsal.CommandLine.Start
import Rehearsal.Conversation.Basic
import Rehearsal.Conversation.Console
import Rehearsal.Conversation.Utterances
import Rehearsal.Conversation.WakeWord
import Rehearsal.Duration
import Rehearsal.Failure
import Rehearsal.Files.Access
import Rehearsal.Files.Path
import Rehearsal.Files.Score
import Rehearsal.Files.Tree
import Rehearsal.Intent
import Rehearsal.Main
import Rehearsal.Metronome.Basic
import Rehearsal.Metronome.Run
import Rehearsal.Metronome.TickQueue
import Rehearsal.Number.Binary64
import Rehearsal.Number.Decimal
import Rehearsal.Number.Power
import Rehearsal.Number.Rounding
import Rehearsal.Pager
import Rehearsal.Pattern.Basic
import Rehearsal.Pattern.Language
import Rehearsal.Proofs.Conversation.WakeWord
import Rehearsal.Proofs.Metronome.Delivery
import Rehearsal.Proofs.Metronome.Fates
import Rehearsal.Proofs.Metronome.Looks
import Rehearsal.Proofs.Metronome.TickLaw
import Rehearsal.Proofs.Pager.PageRange
import Rehearsal.Proofs.Past
import Rehearsal.Proofs.Pattern.DeadPlaces
import Rehearsal.Proofs.Pattern.Readings
import Rehearsal.Proofs.Pattern.Respelling
import Rehearsal.Proofs.Recognition.SameValues
import Rehearsal.Proofs.Session.Arming
import Rehearsal.Proofs.Session.ChangeCount
import Rehearsal.Proofs.Session.FiringLaw
import Rehearsal.Proofs.Session.PendingTurn
import Rehearsal.Proofs.Session.SlotLooks
import Rehearsal.Proofs.Session.TurnHistory
import Rehearsal.Proofs.Text.Ranges
import Rehearsal.Proofs.Text.Traits
import Rehearsal.Recognition.Classifier
import Rehearsal.Recognition.Features
import Rehearsal.Recognition.Model
import Rehearsal.Recognition.Rules
import Rehearsal.Recognition.Slots
import Rehearsal.Recognition.Tally
import Rehearsal.Recognition.Terms
import Rehearsal.Session.Assistant
import Rehearsal.Session.Basic
import Rehearsal.Session.Practice
import Rehearsal.Session.Response
import Rehearsal.Session.SlotRun
import Rehearsal.Session.TurnSlot
import Rehearsal.Session.Viewer
import Rehearsal.Session.ViewerProgram
import Rehearsal.Settings.Basic
import Rehearsal.Settings.Reading
import Rehearsal.Settings.Store
import Rehearsal.Settings.Writing
import Rehearsal.Tempo.Basic
import Rehearsal.Tempo.Subdivision
import Rehearsal.Tempo.Taps
import Rehearsal.Text.Alphabetic
import Rehearsal.Text.CaseRun
import Rehearsal.Text.Cased
import Rehearsal.Text.CharClass
import Rehearsal.Text.Lowercase
import Rehearsal.Text.Number
import Rehearsal.Text.Pieces
import Rehearsal.Text.Ranges
import Rehearsal.Text.Utf8
import Rehearsal.Text.Word
import Rehearsal.Toml.Document
import Rehearsal.Toml.Lexical
import Rehearsal.Toml.Scalar
import Rehearsal.Toml.Value
import Rehearsal.Toml.Writer
import Rehearsal.Proofs.Recognition.Restyling
import Rehearsal.Proofs.Session.Happenings
import Rehearsal.Proofs.Session.WithoutEffect
import Rehearsal.Proofs.Conversation.Script
import Rehearsal.Proofs.Number.Nearest
import Rehearsal.Proofs.Number.ShortestDigits
import Rehearsal.Proofs.Toml.Readers
import Rehearsal.Proofs.Toml.Strings
import Rehearsal.Proofs.Number.Digits
import Rehearsal.Proofs.Toml.Numbers
import Rehearsal.Proofs.Toml.Lines
import Rehearsal.Proofs.Toml.Documents
import Rehearsal.Proofs.Toml.Canonical
import Rehearsal.Proofs.Settings.Storable
import Rehearsal.Proofs.Settings.RoundTrip
import Rehearsal.Proofs.Session.TwoSides
import Rehearsal.Proofs.Session.ValueRange
import Rehearsal.Proofs.Session.Independence
import Rehearsal.Proofs.Session.AfterShutdown
import Rehearsal.Proofs.Session.Inert
import Rehearsal.Proofs.Session.ViewerLog
import Rehearsal.Proofs.Pattern.Stretches
import Rehearsal.Proofs.Recognition.Priority
import Rehearsal.Proofs.Text.Blocks
import Rehearsal.Proofs.Pattern.BlockSearch
import Rehearsal.Proofs.Recognition.NumberWords
import Rehearsal.Proofs.Recognition.TempoNumber
import Rehearsal.Proofs.Text.Decoding
import Rehearsal.Proofs.Conversation.Lines
import Rehearsal.Proofs.Conversation.LookingBack
import Rehearsal.Proofs.Recognition.LongerTexts
import Rehearsal.Proofs.Recognition.SubdivisionNames
import Rehearsal.Proofs.Files.PageAddress
import Rehearsal.Proofs.Settings.Precedence
import Rehearsal.Proofs.Tempo.TapWindow
import Rehearsal.Proofs.Session.Sentences
import Rehearsal.Proofs.Session.TrueAnswers
import Rehearsal.Proofs.Text.ByteOrder
import Rehearsal.Proofs.Files.FirstScore
import Rehearsal.Proofs.Recognition.Counting
import Rehearsal.Proofs.Recognition.Vocabulary
import Rehearsal.Proofs.Recognition.Shapes
import Rehearsal.Proofs.Text.Pieces
import Rehearsal.Proofs.Recognition.KnownTerms
import Rehearsal.Proofs.Recognition.Accesses
