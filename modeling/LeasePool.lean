import LeasePool.Backend.Scripted
import LeasePool.Main
import LeasePool.Scenario
import LeasePool.Tcp.Session
import LeasePool.Proofs.Possession
import LeasePool.Proofs.Upshot
import LeasePool.Proofs.Wakeups
import LeasePool.Proofs.Provenance
import LeasePool.Proofs.Transactions
import LeasePool.Proofs.Generations
import LeasePool.Proofs.Revocation
import LeasePool.Proofs.Tenure
import LeasePool.Proofs.Finality
import LeasePool.Proofs.Bookkeeping
import LeasePool.Proofs.Cancellation
import LeasePool.Proofs.Manifests
import LeasePool.Proofs.Retirement
import LeasePool.Proofs.Churn
import LeasePool.Proofs.Exhaustion
import LeasePool.Proofs.FirstGood
import LeasePool.Proofs.Seniority
import LeasePool.Proofs.Discretion
import LeasePool.Proofs.Failures
import LeasePool.Proofs.Stamps
import LeasePool.Proofs.Repose
import LeasePool.Proofs.Probes
import LeasePool.Proofs.Replies
import LeasePool.Proofs.Fingerprints
import LeasePool.Proofs.Spellings
