import FileCache.Scenario
import FileCache.Proofs.Accounting.Ledger
import FileCache.Proofs.Transparency.Settled
import FileCache.Proofs.World.History
import FileCache.Proofs.Disk.Change
import FileCache.Proofs.Provenance.Evidence
import FileCache.Proofs.Provenance.Reading
import FileCache.Proofs.Provenance.Whole
import FileCache.Proofs.Provenance.Renewal
import FileCache.Proofs.Presence.Readable
import FileCache.Proofs.Presence.Runs
import FileCache.Proofs.Switch.Move
import FileCache.Proofs.Switch.Off
import FileCache.Proofs.Switch.Exclusive
import FileCache.Proofs.Switch.Periods
import FileCache.Proofs.Switch.Manned
import FileCache.Proofs.Switch.Crossing
import FileCache.Proofs.Switch.Heeding
import FileCache.Proofs.Switch.Requests
import FileCache.Proofs.Gates.Passage
import FileCache.Proofs.Gates.Single
import FileCache.Proofs.Accounting.Balance
import FileCache.Proofs.Store.Outcome
import FileCache.Proofs.Sweep.Swap
import FileCache.Proofs.Accounting.Journal
import FileCache.Proofs.Switch.Sequence
import FileCache.Proofs.Age.Bound
import FileCache.Proofs.Confinement.Below
import FileCache.Proofs.Confinement.Lockstep
import FileCache.Proofs.Confinement.Veil
import FileCache.Proofs.Confinement.Exchange
import FileCache.Proofs.Confinement.Transcript
import FileCache.Proofs.Disk.Faultless
import FileCache.Proofs.Sweep.Alone
import FileCache.Proofs.Sweep.Table
import FileCache.Proofs.Sweep.Routes
import FileCache.Proofs.Sweep.Order
import FileCache.Proofs.Sweep.Again
import FileCache.Proofs.Scanner.Course
import FileCache.Proofs.Scanner.Timer
import FileCache.Proofs.Scanner.Retirement
import FileCache.Proofs.Gates.Crowd
import FileCache.Proofs.Gates.Coalesce
import FileCache.Proofs.Lookup.Vain
import FileCache.Proofs.Sweep.Itinerary
import FileCache.Proofs.Sweep.Errors
