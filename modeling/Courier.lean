import Courier.Main
import Courier.Proofs.Containment
import Courier.Proofs.Values
import Courier.Proofs.Form
import Courier.Proofs.Query
import Courier.Proofs.Rereading
import Courier.Proofs.Stepwise
import Courier.Proofs.Construction
import Courier.Proofs.Agreement
import Courier.Proofs.Accumulation
import Courier.Proofs.Header
import Courier.Proofs.Building
import Courier.Proofs.FormBody
import Courier.Proofs.Json
import Courier.Proofs.Patch
import Courier.Proofs.Interleaving
import Courier.Proofs.Client
import Courier.Proofs.Normalization
import Courier.Proofs.DryRun
import Courier.Proofs.Refusal
import Courier.Proofs.Separators
import Courier.Proofs.Shortest
import Courier.Proofs.Numeral
import Courier.Proofs.Compact
import Courier.Proofs.Selection
import Courier.Proofs.Encoding
import Courier.Proofs.Document
import Courier.Proofs.Spelling
import Courier.Proofs.Bracketing
import Courier.Proofs.Grammar
import Courier.Proofs.Failure
