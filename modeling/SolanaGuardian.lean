import SolanaGuardian.Lib.Machine
import SolanaGuardian.Lib.Simulation
import SolanaGuardian.Lib.Codec
import SolanaGuardian.Program.Handlers
import SolanaGuardian.Program.Breaker
import SolanaGuardian.Program.Identity
import SolanaGuardian.Program.Authority
import SolanaGuardian.Program.Replay
import SolanaGuardian.Program.Delivery
import SolanaGuardian.Program.Market
import SolanaGuardian.Program.Layout
import SolanaGuardian.Adapter.Delegated
import SolanaGuardian.Adapter.Reserve
import SolanaGuardian.Adapter.Inert
import SolanaGuardian.Detector.Model
import SolanaGuardian.Detector.Buffers
import SolanaGuardian.Detector.Probes
import SolanaGuardian.Detector.Trigger
import SolanaGuardian.Detector.Batch
import SolanaGuardian.Detector.Evasion
import SolanaGuardian.Detector.Velocity
import SolanaGuardian.Detector.Accounting
import SolanaGuardian.Detector.Isolation
import SolanaGuardian.Oracle.Service
import SolanaGuardian.Oracle.Agreement
import SolanaGuardian.Oracle.Staleness
import SolanaGuardian.Oracle.Cache
import SolanaGuardian.Lib.Decimal
import SolanaGuardian.Response.Stages
import SolanaGuardian.Response.Pipeline
import SolanaGuardian.Response.Simulation
import SolanaGuardian.Response.Signature
import SolanaGuardian.Response.Tip
import SolanaGuardian.Response.Telemetry
import SolanaGuardian.Response.Notifier
import SolanaGuardian.Response.Replay
import SolanaGuardian.Lib.Pool
import SolanaGuardian.Lib.Progress
import SolanaGuardian.Relayer.Loop
import SolanaGuardian.Relayer.Race
import SolanaGuardian.Relayer.Sound
import SolanaGuardian.Relayer.Ack
import SolanaGuardian.Relayer.Orphans
import SolanaGuardian.Relayer.Registry
import SolanaGuardian.Relayer.Progress
import SolanaGuardian.Relayer.Cancel
import SolanaGuardian.Relayer.Jobs
import SolanaGuardian.Relayer.Dispatch
import SolanaGuardian.Relayer.Deadline
