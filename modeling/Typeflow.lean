import Typeflow.Main
import Typeflow.Session
import Typeflow.Proofs.Compile
import Typeflow.Proofs.Narrow.Guards
import Typeflow.Proofs.Narrow.Rewriting
import Typeflow.Proofs.Narrow.Erasure
import Typeflow.Proofs.Narrow.Table
import Typeflow.Proofs.Document.Closed
import Typeflow.Proofs.Infer.Moves
import Typeflow.Proofs.Infer.Watched
import Typeflow.Proofs.EarlyUse
import Typeflow.Proofs.Narrow.Blind
import Typeflow.Proofs.Order
import Typeflow.Proofs.Selection
import Typeflow.Proofs.Document.Cycles
import Typeflow.Proofs.Narrow.Values
import Typeflow.Proofs.Infer.FieldReads
import Typeflow.Proofs.Infer.Returned
import Typeflow.Proofs.Reordering
import Typeflow.Proofs.Document.Parameters
import Typeflow.Proofs.Infer.Common
import Typeflow.Proofs.Narrow.Account
import Typeflow.Proofs.Document.Binding
import Typeflow.Proofs.Format.Reading
import Typeflow.Proofs.Narrow.Chains
import Typeflow.Proofs.Infer.Containers
import Typeflow.Proofs.Infer.Idempotence
import Typeflow.Proofs.Visitor
