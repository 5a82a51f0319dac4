import ChangeFeed.Log.Logger
import ChangeFeed.Log.Record
import ChangeFeed.Main
import ChangeFeed.Script.Program
import ChangeFeed.Proofs.Actions
import ChangeFeed.Proofs.Conduct
import ChangeFeed.Proofs.FiniteMap
import ChangeFeed.Proofs.Discretion
import ChangeFeed.Proofs.Takeover
import ChangeFeed.Proofs.Decisions
import ChangeFeed.Proofs.Assigning
import ChangeFeed.Proofs.Restriction
import ChangeFeed.Proofs.Sweep
import ChangeFeed.Proofs.Stack
import ChangeFeed.Proofs.Relay
import ChangeFeed.Proofs.Dispatch
import ChangeFeed.Proofs.Aggregation
import ChangeFeed.Proofs.Polling
import ChangeFeed.Proofs.Handling
import ChangeFeed.Proofs.History
import ChangeFeed.Proofs.Materialised
import ChangeFeed.Proofs.Framing
import ChangeFeed.Proofs.Ownership
import ChangeFeed.Proofs.Rereading
import ChangeFeed.Proofs.Resumption
import ChangeFeed.Proofs.Rounds
import ChangeFeed.Proofs.CleanUp
import ChangeFeed.Proofs.Deliveries
import ChangeFeed.Proofs.Interleaving
import ChangeFeed.Proofs.ConsumerSettings
import ChangeFeed.Proofs.DistinctKeys
import ChangeFeed.Proofs.Creations
import ChangeFeed.Proofs.Narration
import ChangeFeed.Proofs.Printing
import ChangeFeed.Proofs.Stopping
import ChangeFeed.Proofs.Remembering
import ChangeFeed.Proofs.Renaming
import ChangeFeed.Proofs.Acceptance
import ChangeFeed.Proofs.Patience
import ChangeFeed.Proofs.Lines
import ChangeFeed.Proofs.Walk
import ChangeFeed.Proofs.Running
import ChangeFeed.Proofs.LineBreaks
import ChangeFeed.Proofs.CalendarOrder
import ChangeFeed.Proofs.Rounding
import ChangeFeed.Proofs.Timestamps
