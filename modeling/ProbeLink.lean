import ProbeLink.Config.Reader
import ProbeLink.Loopback
import ProbeLink.Main
import ProbeLink.Backend.Script
import ProbeLink.Proofs.Traffic
import ProbeLink.Proofs.Intake
import ProbeLink.Proofs.SplitInvariance
import ProbeLink.Proofs.History
import ProbeLink.Proofs.WriteContent
import ProbeLink.Proofs.Isolation
import ProbeLink.Proofs.Exchange
import ProbeLink.Proofs.Failures
import ProbeLink.Proofs.Pieces
import ProbeLink.Proofs.RegistryCalls
import ProbeLink.Proofs.RegistryCodec
import ProbeLink.Proofs.RegistryRoundTrip
import ProbeLink.Proofs.StreamIntake
import ProbeLink.Proofs.Registration
import ProbeLink.Proofs.Bounds
import ProbeLink.Proofs.Guarded
import ProbeLink.Proofs.Alike
import ProbeLink.Proofs.Restart
import ProbeLink.Proofs.Ordering
import ProbeLink.Proofs.FailedFlush
import ProbeLink.Proofs.Continuity
import ProbeLink.Proofs.Lifecycle
import ProbeLink.Proofs.Reachable
import ProbeLink.Proofs.RegistryGuarded
import ProbeLink.Proofs.RegistryRobust
import ProbeLink.Proofs.Misuse
import ProbeLink.Proofs.FineCalls
import ProbeLink.Proofs.Refusals
import ProbeLink.Proofs.Numerals
import ProbeLink.Proofs.AddressText
import ProbeLink.Proofs.SelectorText
import ProbeLink.Proofs.Conduct
import ProbeLink.Proofs.Sequence
import ProbeLink.Proofs.Visit
import ProbeLink.Proofs.Alignment
import ProbeLink.Proofs.Budget
import ProbeLink.Proofs.Overrun
import ProbeLink.Proofs.Position
import ProbeLink.Proofs.SerialText
import ProbeLink.Proofs.NetworkText
import ProbeLink.Proofs.Attempts
import ProbeLink.Proofs.FineRoundTrip
import ProbeLink.Proofs.CapabilitySets
