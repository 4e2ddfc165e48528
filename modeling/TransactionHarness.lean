import TransactionHarness.Config.Codec
import TransactionHarness.Curl.Playback
import TransactionHarness.Environment.File
import TransactionHarness.Http.Playback
import TransactionHarness.Playback
import TransactionHarness.Run
import TransactionHarness.Sender
import TransactionHarness.Proofs.Agreement
import TransactionHarness.Proofs.Attribution
import TransactionHarness.Proofs.Bearer
import TransactionHarness.Proofs.BlankLine
import TransactionHarness.Proofs.Confinement
import TransactionHarness.Proofs.Divergence
import TransactionHarness.Proofs.Errand
import TransactionHarness.Proofs.Escapes
import TransactionHarness.Proofs.Expiry
import TransactionHarness.Proofs.Framing
import TransactionHarness.Proofs.Grants
import TransactionHarness.Proofs.Keeping
import TransactionHarness.Proofs.Landing
import TransactionHarness.Proofs.Leftovers
import TransactionHarness.Proofs.Quotation
import TransactionHarness.Proofs.Recall
import TransactionHarness.Proofs.Reencoding
import TransactionHarness.Proofs.Rendering
import TransactionHarness.Proofs.Renewal
import TransactionHarness.Proofs.Report
import TransactionHarness.Proofs.Secrets
import TransactionHarness.Proofs.Senders
import TransactionHarness.Proofs.Storage
