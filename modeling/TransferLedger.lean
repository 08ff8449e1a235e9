import TransferLedger.Main
import TransferLedger.Wire.Respond
import TransferLedger.Proofs.Decimal.Text
import TransferLedger.Proofs.Money.RoundTrip
import TransferLedger.Proofs.Store.Isolation
import TransferLedger.Proofs.Store.RecordIds
import TransferLedger.Proofs.Store.Solvent
import TransferLedger.Proofs.Store.Update
import TransferLedger.Proofs.Transfer.Atomic
import TransferLedger.Proofs.Transfer.Retry
import TransferLedger.Proofs.Transfer.Conservation
import TransferLedger.Proofs.Transfer.Outcome
import TransferLedger.Proofs.Transfer.Deadlock
import TransferLedger.Proofs.Transfer.Interference
import TransferLedger.Proofs.Transfer.Serial
import TransferLedger.Proofs.Transfer.Serializable
import TransferLedger.Proofs.Transfer.Stages
import TransferLedger.Proofs.Transfer.Locking
