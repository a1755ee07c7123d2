import FatVolume.Directory.Sweep
import FatVolume.Path

/-!
# Looking up paths

A path names what is reached from the root by finding one component after another.
Each component has to be met in a directory, is encoded as a short name, and is
searched for among the live entries before the end marker; the first entry whose
name agrees with the case of ASCII letters folded is taken. The tests come in that
order, so a file that is used as a directory is refused before the next component
is looked at.

The root has no entry of its own. The empty path names it.
-/

namespace FatVolume

/-- What a path names. -/
structure Resolved where
  cluster : Nat
  attributes : UInt8
  size : Nat
  deriving DecidableEq, Repr

namespace Resolved

/-- The root directory. -/
def root : Resolved where
  cluster := 0
  attributes := Attributes.directory
  size := 0

/-- What a path names that ends at an entry. -/
def ofEntry (entry : Entry) : Resolved where
  cluster := entry.cluster.toNat
  attributes := entry.attributes
  size := entry.size.toNat

/-- The path names a directory. -/
def isDirectory (resolved : Resolved) : Bool := Attributes.isDirectory resolved.attributes

/-- Whether the path names a file or a directory. -/
def kind (resolved : Resolved) : EntryKind := if resolved.isDirectory then .directory else .file

/-- The directory that is opened, unless it is a file. -/
def directory (resolved : Resolved) : Except Failure Directory :=
  if resolved.isDirectory then .ok (.ofCluster resolved.cluster) else .error .notDirectory

end Resolved

namespace Volume

variable (volume : Volume)

/-- The first live entry of a directory that carries a name. -/
def findEntry (directory : Directory) (name : RawName) : HostM Entry := do
  let cursor ← Cursor.start volume directory
  let carries (entry : Entry) : Bool := ShortName.sameFolded entry.name name
  match ← cursor.along (Cursor.nextEntry volume carries) with
  | some entry => return entry
  | none => throw .notFound

/-- What a component names, seen from what the components before it name. -/
def descend (current : Resolved) (component : List Char) : HostM Resolved := do
  let directory ← current.directory
  let name ← ShortName.encode component
  return .ofEntry (← volume.findEntry directory name)

/-- What a path names, seen from the root. The path is taken as it is: a component `.` or
`..` is refused like any other that has no stem. -/
def resolve (path : List Char) : HostM Resolved :=
  (Path.components path).foldlM volume.descend .root

end Volume

end FatVolume
