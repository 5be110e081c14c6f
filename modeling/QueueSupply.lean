import QueueSupply.Concurrent.InboxMachine
import QueueSupply.Concurrent.WaitingMachine
import QueueSupply.Config.Json
import QueueSupply.Config.Lookup
import QueueSupply.Session.Basic
import QueueSupply.Session.Race
import QueueSupply.Proofs.Fifo.Basic
import QueueSupply.Proofs.Fifo.Representation
import QueueSupply.Proofs.Fifo.Bounded
import QueueSupply.Proofs.Fifo.Types
import QueueSupply.Proofs.Fifo.Delivered
import QueueSupply.Proofs.Slot.Moves
import QueueSupply.Proofs.Slot.Records
import QueueSupply.Proofs.Slot.Runs
import QueueSupply.Proofs.Inbox.Moves
import QueueSupply.Proofs.Parties
import QueueSupply.Proofs.Inbox.Runs
import QueueSupply.Proofs.Waiting.Moves
import QueueSupply.Proofs.Waiting.Pledges
import QueueSupply.Proofs.Waiting.Runs
import QueueSupply.Proofs.Fifo.Steps
import QueueSupply.Proofs.Fifo.Room
import QueueSupply.Proofs.Fifo.Transfers
import QueueSupply.Proofs.Config.Lookup
import QueueSupply.Proofs.Config.Documents
import QueueSupply.Proofs.Fifo.Offers
import QueueSupply.Proofs.Session.Moves
import QueueSupply.Proofs.Session.Queues
import QueueSupply.Proofs.Session.Hooks
import QueueSupply.Proofs.Json.Numbers
import QueueSupply.Proofs.Json.Spelling
import QueueSupply.Proofs.Json.Layout
import QueueSupply.Proofs.Json.Reading
import QueueSupply.Proofs.Chain.Links
import QueueSupply.Proofs.Fifo.Bulk
import QueueSupply.Proofs.Fifo.Sequences
import QueueSupply.Proofs.Session.Independence
import QueueSupply.Proofs.Numeric.PowersOfTwo
import QueueSupply.Proofs.Json.Writing
import QueueSupply.Proofs.Config.RoundTrip
import QueueSupply.Proofs.Text.Utf8
import QueueSupply.Proofs.Config.Environment
import QueueSupply.Proofs.Endings
import QueueSupply.Proofs.Timed.Calls
import QueueSupply.Proofs.Timed.Waiting
import QueueSupply.Proofs.Timed.Handover
import QueueSupply.Proofs.Timed.Slot
import QueueSupply.Proofs.Timed.SlotHandover
import QueueSupply.Proofs.Timed.Agreement
import QueueSupply.Proofs.Config.Settings
import QueueSupply.Proofs.Chain.LinkSizes
