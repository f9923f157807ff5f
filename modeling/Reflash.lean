import Reflash.Image.Edit
import Reflash.Interchange.Records
import Reflash.Proofs.Checksum.Affine
import Reflash.Proofs.Device.Packing
import Reflash.Proofs.Fault.Sharing
import Reflash.Proofs.Frame.Residue
import Reflash.Proofs.Image.Damage
import Reflash.Proofs.Image.File
import Reflash.Proofs.Link.Deadline
import Reflash.Proofs.Session.Findings
import Reflash.Proofs.Session.Interruption
import Reflash.Proofs.Session.Overlap
import Reflash.Proofs.Session.Paging
import Reflash.Proofs.Session.RunningChecksum
import Reflash.Proofs.Session.Unfinished
import Reflash.Proofs.Untrusted
import Reflash.Simulation.Trace
