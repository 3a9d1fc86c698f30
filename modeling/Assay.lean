import Assay.Main
import Assay.Proofs.Discovery
import Assay.Proofs.Document
import Assay.Proofs.Bounded
import Assay.Proofs.Filtering
import Assay.Proofs.Layers
import Assay.Proofs.Limited
import Assay.Proofs.Listing
import Assay.Proofs.Restored
import Assay.Proofs.Spelling
import Assay.Proofs.StageOrder
import Assay.Proofs.WholeCharacters
