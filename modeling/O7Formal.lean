import O7Formal.Judge.Coverage
import O7Formal.Contracts.Settles
import O7Formal.Contracts.Wire
import O7Formal.Cas.Paid
import O7Formal.Cas.Naming
import O7Formal.Closure.Absence
import O7Formal.Run.Chain
import O7Formal.Run.Confluence
import O7Formal.Closure.MatcherReplay
import O7Formal.Closure.Classifier
import O7Formal.Ledger.Lifecycle
import O7Formal.Ledger.InFlight
import O7Formal.Ledger.Redrive
import O7Formal.Ledger.EventLog
import O7Formal.Ledger.ConcurrentApply
import O7Formal.Ledger.Reconcile
import O7Formal.Ledger.Repair
import O7Formal.Ledger.Clock
import O7Formal.Ledger.Accepts
import O7Formal.Ledger.Stamps
import O7Formal.Ledger.Listing
import O7Formal.Dispatch.Once
import O7Formal.Dispatch.Producers
import O7Formal.Dispatch.Binding
import O7Formal.Dispatch.Arguments
import O7Formal.Dispatch.Atomicity
import O7Formal.Dispatch.FailureExits
import O7Formal.Dispatch.Admission
import O7Formal.Dispatch.Hydration
import O7Formal.Dispatch.Legacy
import O7Formal.Dispatch.Glimpse
import O7Formal.Dispatch.LockLoser
import O7Formal.Worker.TraceLanguage
import O7Formal.Verifier.Soundness
import O7Formal.Sandbox.Request
import O7Formal.Deck.Tail
import O7Formal.Worktree.ReapSafety
import O7Formal.Worktree.Creation
import O7Formal.Worktree.Materialize
import O7Formal.Closure.Locator
import O7Formal.Closure.Partition
import O7Formal.Closure.Locality
import O7Formal.Closure.Staleness
import O7Formal.Worker.ProcessIdentity
import O7Formal.Sandbox.Argv
import O7Formal.Sandbox.Frame
import O7Formal.Worktree.Identity
import O7Formal.Run.Completeness
import O7Formal.Dispatch.Locators
import O7Formal.Closure.Placing
import O7Formal.Closure.Timestamps
import O7Formal.Contracts.Continuation
import O7Formal.Worktree.Porcelain
import O7Formal.Contracts.Watched
import O7Formal.Dispatch.RunIds
import O7Formal.Invoke.Payload
import O7Formal.Invoke.Arliai
import O7Formal.Lib.JsonWidth
