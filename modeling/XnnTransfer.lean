import XnnTransfer.Transfer.Integrity
import XnnTransfer.Transfer.Encoders
import XnnTransfer.Transfer.Numbering
import XnnTransfer.Protocol.HandshakeRun
import XnnTransfer.Pairing.ReplayRun
import XnnTransfer.Pairing.AttemptEnd
import XnnTransfer.Pairing.PairingAgreement
import XnnTransfer.Admission.Crossing
import XnnTransfer.Discovery.EventLog
import XnnTransfer.Discovery.ReplaySuppression
import XnnTransfer.Storage.Accounts
import XnnTransfer.Bridge.Wakeups
import XnnTransfer.Bridge.TransferOutcomes
import XnnTransfer.Bridge.PairingEvents
import XnnTransfer.Bridge.DiscoveryRegistry
import XnnTransfer.Gateway.Convergence
