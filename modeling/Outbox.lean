import Outbox.Counters.ByName
import Outbox.Counters.Exposition
import Outbox.Crew.Trial
import Outbox.Journal.Setup
import Outbox.Proofs.Listening
import Outbox.Session.Basic
import Outbox.Proofs.Sending
import Outbox.Proofs.Dispatching
import Outbox.Proofs.Moves
import Outbox.Proofs.LastUsed
import Outbox.Proofs.FirstNonces
import Outbox.Proofs.HonestNetwork
import Outbox.Proofs.HonestRuns
import Outbox.Proofs.Endings
import Outbox.Proofs.Aftermath
import Outbox.Proofs.Stages
import Outbox.Proofs.Scenes
import Outbox.Proofs.BookHolder
import Outbox.Proofs.Serialization
import Outbox.Proofs.ConsecutiveNonces
import Outbox.Proofs.CrewRuns
import Outbox.Proofs.Capacity
import Outbox.Proofs.Tracking
import Outbox.Proofs.Counting
import Outbox.Proofs.Phases
import Outbox.Proofs.Outcomes
import Outbox.Proofs.Accounting
import Outbox.Proofs.Lines
import Outbox.Proofs.Spellings
import Outbox.Proofs.QueuedRuns
import Outbox.Proofs.WrittenUrls
import Outbox.Proofs.NormalSenders
import Outbox.Proofs.NonceQueries
import Outbox.Proofs.Footprints
import Outbox.Proofs.IndependentAccounts
import Outbox.Proofs.ClashPhrases
import Outbox.Proofs.SecondTries
import Outbox.Proofs.Broadcasting
import Outbox.Proofs.NodePrices
import Outbox.Proofs.RootSetup
import Outbox.Proofs.IntegerLiterals
import Outbox.Proofs.UrlGrammar
import Outbox.Proofs.AcceptedOptions
import Outbox.Proofs.Confinement
import Outbox.Proofs.Unanswered
import Outbox.Proofs.Endpoints
