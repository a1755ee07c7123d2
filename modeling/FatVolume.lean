import FatVolume.Proofs.Allocation
import FatVolume.Proofs.Candour.Operations
import FatVolume.Proofs.Commutation
import FatVolume.Proofs.Composition
import FatVolume.Proofs.Confinement.Regions
import FatVolume.Proofs.Consultation
import FatVolume.Proofs.CreationFailures
import FatVolume.Proofs.CurrentDirectories
import FatVolume.Proofs.EmptyDirectories
import FatVolume.Proofs.Enumeration
import FatVolume.Proofs.Extent
import FatVolume.Proofs.FreeSlots
import FatVolume.Proofs.FullBuffers
import FatVolume.Proofs.Interleaving
import FatVolume.Proofs.ListedStatus
import FatVolume.Proofs.Making
import FatVolume.Proofs.Naming
import FatVolume.Proofs.Openings
import FatVolume.Proofs.PartialChanges
import FatVolume.Proofs.Remounting
import FatVolume.Proofs.Resumption
import FatVolume.Proofs.ShortNames
import FatVolume.Proofs.SlotWrites
import FatVolume.Proofs.Tiling
import FatVolume.Proofs.Windows
