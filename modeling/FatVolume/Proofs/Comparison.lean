import FatVolume.Proofs.Completion

/-!
# Hosts compared by requests

A tree is known by what requests show of it on a disk that refuses nothing. Two hosts are
compared whose disks hold a medium and what it was changed to. Either every request about
every path ends alike on both, or the tree of the second is that of the first with one
more directory, which is empty.

Paths are told apart by the short names of their components. A directory comes in at the
names of its path; its parent is what the names before the last one lead to.
-/

namespace FatVolume

namespace Mounted

variable (mounted : Mounted) (before after : Host)

/-- Requests about a path end alike on both hosts, listings apart. -/
structure AnswersAlike (path : List Char) : Prop where
  lookup : outcome (mounted.lookup path) after = outcome (mounted.lookup path) before
  status : outcome (mounted.status path) after = outcome (mounted.status path) before
  readWhole : outcome (mounted.readWhole path) after = outcome (mounted.readWhole path) before
  readWindow : ∀ offset buffer, outcome (mounted.readWindow path offset buffer) after =
    outcome (mounted.readWindow path offset buffer) before

/-- Listings of what a path names end alike on both hosts. -/
def ListsAlike (path : List Char) : Prop :=
  outcome (mounted.readDirectory path none) after = outcome (mounted.readDirectory path none) before

/-- No path tells the hosts apart. -/
def ShowsAlike : Prop :=
  ∀ path, mounted.AnswersAlike before after path ∧ mounted.ListsAlike before after path

/-- The names stand in the way of a path: it names what they name, or leads through it. -/
def LeadsThrough (names : List (Except Failure RawName)) (path : List Char) : Prop :=
  ∃ normal, Path.normalize path = .ok normal ∧ names <+: Path.names normal

/-- A path whose names do not begin with those of a directory does not lead through it, as
its normal form is the only one that it has. -/
theorem not_leadsThrough {names : List (Except Failure RawName)} {path normal : List Char}
    (normalized : Path.normalize path = .ok normal) (apart : ¬ names <+: Path.names normal) :
    ¬ LeadsThrough names path := by
  rintro ⟨other, normalized', through⟩
  cases normalized.symm.trans normalized'
  exact apart through

/-- The second host shows what the first one shows, and one more directory at some names. -/
structure GainsDirectory (names : List (Except Failure RawName)) : Prop where
  /-- The directory is there, and it is empty. -/
  found : ∀ path normal, Path.normalize path = .ok normal → Path.names normal = names →
    outcome (mounted.status path) after = .ok ⟨.directory, 0⟩ ∧
      outcome (mounted.readDirectory path none) after = .ok ⟨#[], none⟩
  /-- Its parent shows one more entry among those that it showed before. -/
  listed : ∃ entry : Entry, ∃ earlier later : List Entry,
    names.getLast? = some (.ok entry.name) ∧ entry.attributes = Attributes.directory ∧
      entry.size = 0 ∧
      ∀ path normal, Path.normalize path = .ok normal → Path.names normal = names.dropLast →
        outcome (mounted.readDirectory path none) before = .ok ⟨(earlier ++ later).toArray, none⟩ ∧
        outcome (mounted.readDirectory path none) after =
          .ok ⟨(earlier ++ entry :: later).toArray, none⟩
  /-- Every path that it is not in the way of shows what it showed before. -/
  kept : ∀ path, ¬ LeadsThrough names path → mounted.AnswersAlike before after path
  /-- So does every listing but that of the parent. -/
  unlisted : ∀ path, ¬ LeadsThrough names path →
    (∀ normal, Path.normalize path = .ok normal → Path.names normal ≠ names.dropLast) →
      mounted.ListsAlike before after path

end Mounted

/-- The hosts serve a volume, and the medium of the second is what that of the first was
changed to. -/
structure Volume.Compared (volume : Volume) (medium changed : Medium) (before after : Host) :
    Prop where
  first : before.medium = medium
  second : after.medium = changed
  serves : before.Serves volume
  served : after.Serves volume
  heap : after.largestBlock = before.largestBlock

/-- A host that has served an operation is compared with the one it was before: the same
device, which serves the volume still, with another medium. -/
theorem Volume.Compared.of_sameDevice {volume : Volume} {changed : Medium} {before after : Host}
    (serves : before.Serves volume) (device : before.SameDevice after)
    (second : after.medium = changed) : volume.Compared before.medium changed before after where
  first := rfl
  second := second
  serves := serves
  served := serves.of_sameDevice device
  heap := device.largestBlock

namespace Volume.Compared

variable {mounted : Mounted} {medium changed : Medium} {before after : Host} {path : List Char}
  (compared : mounted.volume.Compared medium changed before after)
include compared

/-- Requests about a path end alike on both hosts, listings apart, where the media have
the same answers for that path. -/
theorem answersAlike (same : medium.SameAt changed mounted.volume path) :
    mounted.AnswersAlike before after path := by
  obtain ⟨first, second, serves, served, heap⟩ := compared
  constructor
  case lookup =>
    rw [(Mounted.lookup_answers path _ first serves).1,
      (Mounted.lookup_answers path _ second served).1, same.lookup]
  case status =>
    rw [(Mounted.status_answers path _ first serves).1,
      (Mounted.status_answers path _ second served).1, same.status]
  case readWhole =>
    rw [(Mounted.readWhole_answers path first serves).1,
      (Mounted.readWhole_answers path second served).1, heap, same.readWhole]
  case readWindow =>
    intro offset buffer
    rw [(Mounted.readWindow_answers path offset buffer _ first serves).1,
      (Mounted.readWindow_answers path offset buffer _ second served).1, same.readWindow]

/-- Reading the directory at a path ends alike on both hosts where the media give the same
listing for it. -/
theorem listsAlike (same : changed.readDirectory mounted.volume path =
    medium.readDirectory mounted.volume path) : mounted.ListsAlike before after path := by
  rw [Mounted.ListsAlike,
    (Mounted.readDirectory_answers path _ compared.first compared.serves).1,
    (Mounted.readDirectory_answers path _ compared.second compared.served).1, same]

/-- Hosts with the same tree on their media are told apart by no path: look-ups, reads and
listings all end alike. -/
theorem showsAlike (same : medium.SameTree changed mounted.volume) :
    mounted.ShowsAlike before after :=
  fun path => ⟨compared.answersAlike (same.sameAt path), compared.listsAlike (same.readDirectory path)⟩

/-- Hosts are told apart by the directory that was completed and by nothing else: it is
found and empty, its parent lists it, and all other paths end alike. -/
theorem gainsDirectory {cluster : Nat} (consistent : medium.Consistent mounted.volume)
    (completed : medium.Completed changed mounted.volume path cluster) :
    mounted.GainsDirectory before after (Path.names path) := by
  -- Up to the last write the tree is the one that was there, so the hosts differ by one entry.
  obtain ⟨front, parent, position, name, prepared, names, same, awaits, insertion, rfl⟩ :=
    completed.prepared consistent
  have leaf : (Path.names path).getLast? = some (.ok name) := by rw [names, List.getLast?_concat]
  have above : (Path.names path).dropLast = front := by rw [names, List.dropLast_concat]
  constructor
  case found =>
    intro other normal normalized named
    rw [names] at named
    rw [(Mounted.status_answers other _ compared.second compared.served).1,
      (Mounted.readDirectory_answers other _ compared.second compared.served).1,
      insertion.status_new awaits normalized named,
      insertion.readDirectory_new awaits normalized named]
    exact ⟨rfl, rfl⟩
  case listed =>
    obtain ⟨earlier, later, shows⟩ := insertion.readDirectory_parent awaits
    refine ⟨Entry.directory name cluster, earlier, later, leaf, rfl, rfl, ?_⟩
    intro other normal normalized named
    rw [above] at named
    obtain ⟨old, new⟩ := shows other normal normalized named
    rw [same.readDirectory] at old
    rw [(Mounted.readDirectory_answers other _ compared.first compared.serves).1,
      (Mounted.readDirectory_answers other _ compared.second compared.served).1]
    exact ⟨old, new⟩
  case kept =>
    intro other apart
    have elsewhere (normal : List Char) (normalized : Path.normalize other = .ok normal) :
        ¬ front ++ [.ok name] <+: Path.names normal := fun begun =>
      apart ⟨normal, normalized, names ▸ begun⟩
    exact compared.answersAlike ((same.sameAt other).trans (insertion.sameAt awaits elsewhere))
  case unlisted =>
    intro other apart below
    rw [above] at below
    apply compared.listsAlike
    rw [insertion.readDirectory_other awaits fun normal normalized =>
      ⟨fun begun => apart ⟨normal, normalized, names ▸ begun⟩, below normal normalized⟩]
    exact same.readDirectory other

end Volume.Compared

end FatVolume
