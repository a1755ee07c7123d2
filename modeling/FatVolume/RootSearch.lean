import FatVolume.Mounted

/-!
# Finding the root volume

The boot hand-off names the root volume by a short text: nothing or `esp` for the first
candidate on channel 0 of the disk controller, or `partuuid=` and the identity of a
partition on any channel. The controller and the partition tables belong to a
collaborator with a state of its own; nothing is assumed about its answers.

The search for a partition asks the channels in ascending order. A channel that does
not open, or whose disk does not hold the partition, is passed over, whatever the
reason. The first channel where both succeed decides: the outcome of mounting there is
the outcome of the search, and no later channel is asked.
-/

namespace FatVolume

/-- Which volume is to be the root. -/
inductive RootSpec where
  /-- The first candidate partition on channel 0. -/
  | firstCandidate
  /-- The partition with this identity, on any channel. -/
  | partition (uuid : List Char)
  deriving DecidableEq, Repr

namespace RootSpec

/-- What introduces the identity of a partition. -/
def marker : List Char := "partuuid=".toList

/-- The meaning of a boot hand-off text. -/
def parse (text : List Char) : Except Failure RootSpec :=
  if text = [] ∨ text = "esp".toList then .ok .firstCandidate
  else if marker.isPrefixOf text then .ok (.partition (text.drop marker.length))
  else .error .unsupportedRoot

end RootSpec

/-- A disk controller, together with what is known of the partitions of its disks. -/
structure Controller (σ : Type) where
  /-- The number of channels; they are numbered from 0. -/
  channels : Nat := 32
  /-- The disk on a channel. -/
  openChannel : Nat → EStateM Failure σ Disk
  /-- The first partition of a disk that looks as if it held a volume, and the disk. -/
  firstCandidate : Disk → EStateM Failure σ (Disk × Partition)
  /-- The partition of a disk with a given identity, and the disk. -/
  findPartition : Disk → List Char → EStateM Failure σ (Disk × Partition)

/-- The state of a search for the root volume. -/
structure RootSearch (σ : Type) where
  controller : σ
  /-- The size in bytes of the largest block that the heap grants. -/
  largestBlock : Nat
  /-- What has happened, newest event first. -/
  trace : List Event := []

/-- Steps of a search for the root volume. -/
abbrev RootSearchM (σ : Type) := EStateM Failure (RootSearch σ)

namespace RootSearch

variable {σ : Type}

/-- Ask the controller. -/
def ask {α : Type} (question : EStateM Failure σ α) : RootSearchM σ α := fun search =>
  match question search.controller with
  | .ok answer controller => .ok answer { search with controller }
  | .error failure controller => .error failure { search with controller }

/-- Report a notice. -/
def announce (notice : Notice) : RootSearchM σ Unit :=
  modify fun search => { search with trace := .notice notice :: search.trace }

/-- Mount a partition of a disk, which becomes the disk of a host of its own. -/
def mountOn (channel : Nat) (disk : Disk) (partition : Partition) :
    RootSearchM σ (Mounted × Host) := fun search =>
    let host : Host := { disk, largestBlock := search.largestBlock, trace := search.trace }
    match Mounted.mount channel partition host with
    | .ok mounted after => .ok (mounted, after) { search with trace := after.trace }
    | .error failure after => .error failure { search with trace := after.trace }

variable (controller : Controller σ)

/-- Mount the first candidate on channel 0. -/
def mountFirstCandidate : RootSearchM σ (Mounted × Host) := do
  let disk ← ask (controller.openChannel 0)
  let (disk, partition) ← ask (controller.firstCandidate disk)
  mountOn 0 disk partition

/-- Look for a partition on some channels, and mount it where it is found first. -/
def mountPartition (uuid : List Char) : List Nat → RootSearchM σ (Mounted × Host)
  | [] => do
    announce (.rootMissing uuid)
    throw .notFound
  | channel :: later => do
    match ← observe (ask (controller.openChannel channel)) with
    | .error _ => mountPartition uuid later
    | .ok disk =>
      match ← observe (ask (controller.findPartition disk uuid)) with
      | .error _ => mountPartition uuid later
      | .ok (disk, partition) =>
        announce (.rootFound uuid channel)
        mountOn channel disk partition

/-- Mount the root volume that a boot hand-off text names. -/
def mountRoot (text : List Char) : RootSearchM σ (Mounted × Host) := do
  match RootSpec.parse text with
  | .ok .firstCandidate =>
    announce (.defaultRoot text)
    mountFirstCandidate controller
  | .ok (.partition uuid) => mountPartition controller uuid (List.range controller.channels)
  | .error failure =>
    announce (.unsupportedRoot text)
    throw failure

end RootSearch

end FatVolume
