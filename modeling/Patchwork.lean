import Patchwork.CommandLine.Report
import Patchwork.Inspect
import Patchwork.Main
import Patchwork.Proofs.Agreement
import Patchwork.Proofs.Failure
import Patchwork.Proofs.Containment
import Patchwork.Proofs.Structure
import Patchwork.Match.Query
import Patchwork.Proofs.Regex.Places
import Patchwork.Proofs.Query
import Patchwork.Proofs.Regex.Anchored
import Patchwork.Proofs.Anchoring
import Patchwork.Proofs.Regex.Kept
import Patchwork.Proofs.Regex.Unnaming
import Patchwork.Proofs.Plain
import Patchwork.Proofs.Calls
import Patchwork.Proofs.Locality
import Patchwork.Proofs.Renumbering
import Patchwork.Proofs.Token.Firm
import Patchwork.Proofs.Named
import Patchwork.Proofs.Modes
import Patchwork.Proofs.Regex.Room
import Patchwork.Proofs.Regex.Words
import Patchwork.Proofs.Interval
import Patchwork.Proofs.Cuts
import Patchwork.Proofs.Occurrences
