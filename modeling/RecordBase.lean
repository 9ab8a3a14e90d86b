import RecordBase.Server.Basic
import RecordBase.Json.Reader
import RecordBase.Proofs.Store.Advance
import RecordBase.Proofs.Log.Journal
import RecordBase.Proofs.Log.RoundTrip
import RecordBase.Proofs.Record.Identity
import RecordBase.Wire.Client
import RecordBase.Proofs.Log.Replay
import RecordBase.Proofs.Store.Deed
import RecordBase.Proofs.Store.Operation
import RecordBase.Proofs.Store.Undo
import RecordBase.Proofs.Database.Run
import RecordBase.Proofs.Store.Coherence
import RecordBase.Proofs.Store.Opening
import RecordBase.Proofs.Database.CacheFree
import RecordBase.Proofs.Store.Course
import RecordBase.Proofs.Database.Recovery
import RecordBase.Proofs.Store.Alike
import RecordBase.Proofs.Database.Reached
import RecordBase.Proofs.Database.Atomicity
import RecordBase.Proofs.Store.Writes
import RecordBase.Proofs.Database.Interleaving
import RecordBase.Proofs.Database.OneByOne
import RecordBase.Proofs.Server.Boundary
import RecordBase.Proofs.Catalog.Handles
import RecordBase.Proofs.Server.Asking
import RecordBase.Proofs.Server.Reached
import RecordBase.Proofs.Server.Rejection
import RecordBase.Proofs.Cbor.RoundTrip
import RecordBase.Proofs.Command.RoundTrip
import RecordBase.Proofs.Wire.Calls
import RecordBase.Proofs.Wire.Replies
import RecordBase.Proofs.Server.Responses
import RecordBase.Proofs.Server.Agreement
import RecordBase.Proofs.Log.Canonical
import RecordBase.Proofs.Server.Feeding
import RecordBase.Proofs.Wire.EntryFrames
import RecordBase.Proofs.Server.BatchEnd
import RecordBase.Proofs.Wire.Extent
import RecordBase.Proofs.Server.Dropping
import RecordBase.Proofs.Server.OneResponse
import RecordBase.Proofs.Checksum.Remainder
import RecordBase.Proofs.Log.Exact
import RecordBase.Proofs.Log.Damage
import RecordBase.Proofs.Store.History
import RecordBase.Proofs.Database.History
import RecordBase.Proofs.Store.Seen
import RecordBase.Proofs.Database.LostUpdates
import RecordBase.Proofs.Store.Founding
import RecordBase.Proofs.Database.Creation
import RecordBase.Proofs.Store.Told
import RecordBase.Proofs.Database.FailedSyncs
import RecordBase.Proofs.Catalog.Locks
import RecordBase.Proofs.Catalog.Logs
import RecordBase.Proofs.Catalog.Bounds
import RecordBase.Proofs.Server.Roles
import RecordBase.Proofs.Store.Counts
import RecordBase.Proofs.Store.Kept
import RecordBase.Proofs.Database.Traces
import RecordBase.Proofs.Database.Serving
import RecordBase.Proofs.Database.Views
import RecordBase.Proofs.Database.Isolation
import RecordBase.Proofs.Catalog.ClosedHandles
import RecordBase.Proofs.Database.CutBatches
import RecordBase.Proofs.Store.Positions
import RecordBase.Proofs.Database.Positions
import RecordBase.Proofs.Catalog.OpenHandles
import RecordBase.Proofs.Catalog.Lifecycle
import RecordBase.Proofs.Catalog.Homes
import RecordBase.Proofs.Database.Opening
import RecordBase.Proofs.Catalog.Shelves
import RecordBase.Proofs.Catalog.Names
import RecordBase.Proofs.Catalog.OneName
import RecordBase.Proofs.Database.Unchanged
import RecordBase.Proofs.Database.HalfAdded
import RecordBase.Proofs.Store.Directory
import RecordBase.Proofs.Text.SmallLetters
import RecordBase.Proofs.Database.Directory
import RecordBase.Proofs.Database.Names
import RecordBase.Proofs.Record.Spelling
import RecordBase.Proofs.Wire.Passing
import RecordBase.Proofs.Wire.Canonical
import RecordBase.Proofs.Wire.Batches
import RecordBase.Proofs.Catalog.OpeningFailures
import RecordBase.Proofs.Catalog.LockHolders
import RecordBase.Proofs.Checksum.Division
import RecordBase.Proofs.Store.Residents
import RecordBase.Log.OpenFile
import RecordBase.Proofs.Log.Media
