import FatVolume.Content
import FatVolume.Directory.Creation
import FatVolume.Directory.Listing

/-!
# Mounted volumes

A mounted volume takes paths as its callers write them and brings them into normal
form before it looks them up. Listings leave out the entries by which a directory
refers to itself and to its parent.

Tests come in a fixed order. A whole file is read only after it proved to be a file,
to be non-empty, and to fit a block that the heap grants. A read of a window into an
empty buffer succeeds whatever the path names.
-/

namespace FatVolume

/-- A run of sectors of a disk, as a partition table records it. -/
structure Partition where
  start : Nat
  count : Nat
  tag : UInt8
  deriving DecidableEq, Repr

/-- The kind and size of what a path names. -/
structure Status where
  kind : EntryKind
  size : Nat
  deriving DecidableEq, Repr

/-- A volume in use, with the channel of the disk controller and the partition where it was
found. -/
structure Mounted where
  channel : Nat
  volume : Volume
  partition : Partition

namespace Mounted

/-- Mount the volume at the start of a partition of the host's disk. -/
def mount (channel : Nat) (partition : Partition) : HostM Mounted := do
  let volume ← Volume.mount partition.start
  report (.mounted channel partition.start volume.tableCopies volume.tableSectors
    volume.rootEntries volume.clusterCount volume.clusterBytes)
  return { channel, volume, partition }

variable (mounted : Mounted)

/-- What a path names. -/
def lookup (path : List Char) : HostM Resolved := do
  mounted.volume.resolve (← Path.normalize path)

/-- The kind and size of what a path names. -/
def status (path : List Char) : HostM Status := do
  let resolved ← mounted.lookup path
  return ⟨resolved.kind, resolved.size⟩

/-- What a path names, unless it is a directory. -/
def lookupFile (path : List Char) : HostM Resolved := do
  let resolved ← mounted.lookup path
  if resolved.isDirectory then throw .isDirectory
  return resolved

/-- The bytes of a whole file. -/
def readWhole (path : List Char) : HostM (Array UInt8) := do
  let resolved ← mounted.lookupFile path
  if resolved.size = 0 then return #[]
  if (← get).largestBlock < resolved.size then throw .outOfMemory
  mounted.volume.readContent resolved.cluster 0 resolved.size

/-- A buffer whose first bytes are replaced by others. -/
def overwrite (buffer bytes : Array UInt8) : Array UInt8 :=
  bytes ++ buffer.extract bytes.size buffer.size

/-- Fill a buffer with the bytes of a file from an offset on, as far as both reach. The
result is the number of bytes filled and the buffer, which keeps the rest of its bytes. -/
def readWindow (path : List Char) (offset : Nat) (buffer : Array UInt8) :
    HostM (Nat × Array UInt8) := do
  if buffer.size = 0 then return (0, buffer)
  let resolved ← mounted.lookupFile path
  if resolved.size ≤ offset then throw .endOfFile
  let left ← mounted.volume.workOut (.bytesBehind resolved.size offset)
  let filled ← mounted.volume.workOut (.firstBytes (min buffer.size left) buffer.size)
  let bytes ← mounted.volume.readContent resolved.cluster offset filled
  return (filled, overwrite buffer bytes)

/-- A cursor before the entries of the directory that a path names. -/
def openDirectory (path : List Char) : HostM Cursor := do
  let directory ← (← mounted.lookup path).directory
  Cursor.start mounted.volume directory

/-- The entries of a directory that a reader receives who asks for at most `limit` of
them, and the failure that ended the listing. -/
def readDirectory (path : List Char) (limit : Option Nat) : HostM (Delivery (Array Entry)) := do
  let cursor ← mounted.openDirectory path
  cursor.along (Listing.collect mounted.volume .named limit)

/-- A visitor that also counts the entries after which the other goes on. -/
def counting {σ : Type} (visit : σ → Entry → ForInStep σ) (progress : σ × Nat) (entry : Entry) :
    ForInStep (σ × Nat) :=
  match visit progress.1 entry with
  | .done state => .done (state, progress.2)
  | .yield state => .yield (state, progress.2 + 1)

/-- Hand the entries in front of a cursor to a visitor until it stops. The result is the
visitor's last state, and either the number of entries after which it went on or the
failure that ended the listing. -/
def handEntries {σ : Type} (cursor : Cursor) (visit : σ → Entry → ForInStep σ) (state : σ) :
    HostM (σ × Except Failure Nat) := do
  let delivery ← cursor.along (Listing.deliver mounted.volume .named (counting visit) (state, 0))
  let count ← mounted.volume.workOut (.entryCount delivery.state.2)
  match delivery.failure with
  | some failure => return (delivery.state.1, .error failure)
  | none => return (delivery.state.1, .ok count)

/-- Hand the entries of a directory to a visitor until it stops. A directory that cannot be
opened is told like a listing that fails at once. -/
def listDirectory {σ : Type} (path : List Char) (visit : σ → Entry → ForInStep σ) (state : σ) :
    HostM (σ × Except Failure Nat) := do
  match ← observe (mounted.openDirectory path) with
  | .error failure => return (state, .error failure)
  | .ok cursor => mounted.handEntries cursor visit state

/-- Create an empty directory. -/
def makeDirectory (path : List Char) : HostM Unit := do
  let normal ← Path.normalize path
  let cluster ← mounted.volume.createDirectory normal
  report (.directoryCreated normal cluster)

end Mounted

end FatVolume
