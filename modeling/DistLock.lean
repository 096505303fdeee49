import DistLock.Config
import DistLock.Endpoint.Channel
import DistLock.Grpc.Conversation
import DistLock.Message.Schema
import DistLock.Simulation.Scenario
import DistLock.Proofs.Config.Precedence
import DistLock.Proofs.Message.Extension
import DistLock.Proofs.Retry.Course
import DistLock.Proofs.Lifecycle.Accounting
import DistLock.Proofs.Lifecycle.Confinement
import DistLock.Proofs.Lifecycle.Handover
import DistLock.Proofs.Lifecycle.Pace
import DistLock.Proofs.Lifecycle.RenewalFailure
import DistLock.Proofs.Lifecycle.RenewalOrder
import DistLock.Proofs.Scoped.Exits
import DistLock.Proofs.Service.Rehearsal
import DistLock.Proofs.Parties.Callers
import DistLock.Proofs.Parties.Naming
import DistLock.Proofs.Lifecycle.ReleaseOutcome
import DistLock.Proofs.Renewal.Course
import DistLock.Proofs.Grpc.Carriage
import DistLock.Proofs.Grpc.Connecting
import DistLock.Proofs.Grpc.Traffic
import DistLock.Proofs.Config.TextSettings
import DistLock.Proofs.Endpoint.Encryption
import DistLock.Proofs.Endpoint.ServerName
import DistLock.Proofs.Lifecycle.Lockstep
import DistLock.Proofs.Message.Truncation
import DistLock.Proofs.Lifecycle.Fidelity
import DistLock.Proofs.Lifecycle.ReleaseTime
import DistLock.Proofs.Renewal.Phases
import DistLock.Proofs.Lifecycle.Observers
import DistLock.Proofs.Retry.Counter
import DistLock.Proofs.Client.Agreement
import DistLock.Proofs.Config.WholeNumbers
