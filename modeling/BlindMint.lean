import BlindMint.Cache.Run
import BlindMint.Config.Load
import BlindMint.Curve.Document
import BlindMint.Http.Router
import BlindMint.Sweep
import BlindMint.Proofs.Frame
import BlindMint.Proofs.Rows
import BlindMint.Proofs.Change
import BlindMint.Proofs.Source
import BlindMint.Proofs.Outside
import BlindMint.Proofs.Admission
import BlindMint.Proofs.Ledger.Standing
import BlindMint.Proofs.Ledger.Request
import BlindMint.Proofs.Ledger.Once
import BlindMint.Proofs.Ledger.Flight
import BlindMint.Proofs.Ledger.Race
import BlindMint.Proofs.Limit.Phase
import BlindMint.Proofs.Limit.Window
import BlindMint.Proofs.Limit.Exact
import BlindMint.Proofs.Sweep.Reach
import BlindMint.Proofs.Sweep.Unseen
import BlindMint.Proofs.Cache.Queue
import BlindMint.Proofs.Cache.History
import BlindMint.Proofs.Keys.Derived
import BlindMint.Proofs.Keys.Coverage
import BlindMint.Proofs.Keys.Fetch
import BlindMint.Proofs.Keys.Uncached
import BlindMint.Proofs.Keys.Matching
import BlindMint.Proofs.Keys.Sampling
import BlindMint.Proofs.RoundTrip.Base64
import BlindMint.Proofs.RoundTrip.Scalar
import BlindMint.Proofs.RoundTrip.Record
import BlindMint.Proofs.RoundTrip.Token
import BlindMint.Proofs.RoundTrip.List
import BlindMint.Proofs.RoundTrip.KeySet
import BlindMint.Proofs.RoundTrip.Unambiguous
import BlindMint.Proofs.Published
import BlindMint.Proofs.Credentials.Snapshot
import BlindMint.Proofs.Credentials.Run
import BlindMint.Proofs.Credentials.Retirement
import BlindMint.Proofs.Credentials.Continuity
import BlindMint.Proofs.Credentials.Selection
import BlindMint.Proofs.Credentials.Collection
import BlindMint.Proofs.Credentials.Acceptance
import BlindMint.Proofs.Config.Deadlines
import BlindMint.Proofs.Accounting
import BlindMint.Proofs.Config.Precedence
import BlindMint.Proofs.Shelving
import BlindMint.Proofs.Journal
import BlindMint.Proofs.Isolation
import BlindMint.Proofs.Filing
import BlindMint.Proofs.Credentials.Thumbprint
import BlindMint.Proofs.Keys.Origin
import BlindMint.Proofs.Config.Identifiers
import BlindMint.Proofs.Discretion.Veil
import BlindMint.Proofs.Discretion.Operation
import BlindMint.Proofs.Discretion.Breakdown
import BlindMint.Proofs.Discretion.Indistinct
