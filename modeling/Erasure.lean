import Erasure.Callback
import Erasure.Fault.Text
import Erasure.Proofs.Composition
import Erasure.Proofs.Conversions
import Erasure.Proofs.Delivery
import Erasure.Proofs.Faults
import Erasure.Proofs.Lexemes
import Erasure.Proofs.Links
import Erasure.Proofs.Logging
import Erasure.Proofs.Nesting
import Erasure.Proofs.Scripts
import Erasure.Proofs.Seams
import Erasure.Proofs.Tokens
import Erasure.Proofs.Tupling
import Erasure.Proofs.Validity
import Erasure.Proofs.Writing
import Erasure.Signature.Json
import Erasure.Version
import Erasure.Proofs.Congruence
import Erasure.Proofs.Layers
import Erasure.Proofs.Equality
import Erasure.Proofs.Legibility
import Erasure.Proofs.Naming
import Erasure.Proofs.Inspection
