import FatVolume.Proofs.Insertion
import FatVolume.Proofs.Views
import FatVolume.Proofs.Walks

/-!
# What requests see of a tree

Requests see of a medium only the entries of the directories that are reached and the
contents of the files in them. Two media that have these in common give the same answers
to every request. Where a directory has been put into the tree, the answers are the same
for every path that neither names it nor leads through it, except that its parent lists it.
-/

namespace FatVolume

namespace Medium

/-- The directories of a tree have the same entries on both media, and its files the same
contents. -/
structure SameTree (medium changed : Medium) (volume : Volume) : Prop where
  entries : ∀ directory, medium.Reachable volume directory →
    changed.entries volume directory = medium.entries volume directory
  content : ∀ item, medium.Owner volume item → item.2.isDirectory = false → ∀ offset length,
    changed.content volume item.2.cluster.toNat offset length =
      medium.content volume item.2.cluster.toNat offset length

/-- Requests about a path have the same answers on both media, listings apart. -/
structure SameAt (medium changed : Medium) (volume : Volume) (path : List Char) : Prop where
  lookup : changed.lookup volume path = medium.lookup volume path
  readWhole : ∀ largestBlock,
    changed.readWhole volume largestBlock path = medium.readWhole volume largestBlock path
  readWindow : ∀ offset buffer,
    changed.readWindow volume path offset buffer = medium.readWindow volume path offset buffer

variable {medium changed : Medium} {volume : Volume}

/-- Where requests about a path have the same answers on both media, so has that for its
status. -/
theorem SameAt.status {path : List Char} (same : medium.SameAt changed volume path) :
    changed.status volume path = medium.status volume path := by
  rw [Medium.status, same.lookup, Medium.status]

/-- Where requests about a path have the same answers on one medium and the next, and on
that and a third, they have the same on the first and the third. -/
theorem SameAt.trans {further : Medium} {path : List Char}
    (first : medium.SameAt changed volume path) (second : changed.SameAt further volume path) :
    medium.SameAt further volume path where
  lookup := second.lookup.trans first.lookup
  readWhole largestBlock := (second.readWhole largestBlock).trans (first.readWhole largestBlock)
  readWindow offset buffer :=
    (second.readWindow offset buffer).trans (first.readWindow offset buffer)

/-! ## Answers from walks -/

/-- A walk that leads to a file with content comes to an entry that has a chain of its
own, which begins at the recorded cluster. -/
theorem owner_of_walk {names : List (Except Failure RawName)} (spelled : Spelled names)
    {resolved : Resolved} (led : medium.walk volume names = .ok resolved)
    (file : resolved.isDirectory = false) (filled : resolved.size ≠ 0) :
    ∃ item, medium.Owner volume item ∧ item.2.isDirectory = false ∧
      resolved.cluster = item.2.cluster.toNat := by
  rcases List.eq_nil_or_concat names with rfl | ⟨front, name, rfl⟩
  · cases led
    exact absurd rfl filled
  · rw [List.concat_eq_append] at led spelled
    obtain ⟨raw, directory, item, rfl, rfl, lands⟩ := walk_concat_ok led
    refine ⟨item, ⟨directory, lands.reachable spelled.front, lands.member, ?_⟩, file, rfl⟩
    have plain : item.2.isDirectory = false := file
    rw [Entry.ownsChain, plain, if_neg Bool.false_ne_true, bne_iff_ne]
    intro empty
    apply filled
    change item.2.size.toNat = 0
    rw [empty]
    rfl

/-- A file with content that a request is to read is an entry that has a chain of its own,
which begins at the recorded cluster. -/
theorem owner_of_lookupFile {path : List Char} {resolved : Resolved}
    (found : medium.lookupFile volume path = .ok resolved) (filled : resolved.size ≠ 0) :
    ∃ item, medium.Owner volume item ∧ item.2.isDirectory = false ∧
      resolved.cluster = item.2.cluster.toNat := by
  obtain ⟨named, looked, tested⟩ := ok_of_bind found
  split at tested
  · cases tested
  next file =>
  cases tested
  obtain ⟨normal, _, led⟩ := ok_of_bind looked
  rw [resolve_eq_walk] at led
  exact owner_of_walk (spelled_names normal) led (Bool.eq_false_iff.mpr file) filled

/-- Where the walks along a path are the same and files have the same contents, requests
about the path have the same answers. -/
theorem SameAt.of_walk {path : List Char}
    (walks : ∀ normal, Path.normalize path = .ok normal →
      changed.walk volume (Path.names normal) = medium.walk volume (Path.names normal))
    (content : ∀ item, medium.Owner volume item → item.2.isDirectory = false → ∀ offset length,
      changed.content volume item.2.cluster.toNat offset length =
        medium.content volume item.2.cluster.toNat offset length) :
    medium.SameAt changed volume path := by
  have lookup : changed.lookup volume path = medium.lookup volume path := by
    simp only [Medium.lookup]
    apply bind_congr_ok
    intro normal normalized
    rw [resolve_eq_walk, resolve_eq_walk, walks normal normalized]
  have lookupFile : changed.lookupFile volume path = medium.lookupFile volume path := by
    rw [Medium.lookupFile, lookup, Medium.lookupFile]
  -- Only a file with bytes is read, and that has a chain of its own.
  have contents {resolved : Resolved} (found : medium.lookupFile volume path = .ok resolved)
      (filled : resolved.size ≠ 0) (offset length : Nat) :
      changed.content volume resolved.cluster offset length =
        medium.content volume resolved.cluster offset length := by
    obtain ⟨item, owner, plain, same⟩ := owner_of_lookupFile found filled
    rw [same]
    exact content item owner plain offset length
  constructor
  case lookup => exact lookup
  case readWhole =>
    intro largestBlock
    simp only [Medium.readWhole, lookupFile]
    apply bind_congr_ok
    intro resolved found
    split
    · rfl
    next filled =>
    rw [contents found filled]
  case readWindow =>
    intro offset buffer
    simp only [Medium.readWindow, lookupFile]
    split
    · rfl
    apply bind_congr_ok
    intro resolved found
    split
    · rfl
    next inside =>
    rw [contents found (by omega)]

/-! ## The same tree -/

/-- A medium into which a consistent tree is carried over shows the same tree, although
chains may have grown in it. -/
theorem Carries.sameTree {growth : SlotPosition → List Nat}
    (carries : medium.Carries changed volume growth) (consistent : medium.Consistent volume) :
    medium.SameTree changed volume where
  entries _ reachable := carries.entries consistent reachable
  content := carries.content

namespace SameTree

variable (same : medium.SameTree changed volume)
include same

/-- A directory that is reached on the one medium is reached on the other with the same
tree. -/
theorem reachable {directory : Directory} (reachable : medium.Reachable volume directory) :
    changed.Reachable volume directory := by
  induction reachable with
  | root => exact .root
  | child above member isDirectory named inductionHypothesis =>
    rw [← same.entries _ above] at member
    exact .child inductionHypothesis member isDirectory named

/-- An entry with a chain of its own on the one medium has one on the other with the same
tree. -/
theorem owner {item : SlotPosition × Entry} (owner : medium.Owner volume item) :
    changed.Owner volume item := by
  obtain ⟨directory, reachable, member, owns⟩ := owner
  rw [← same.entries directory reachable] at member
  exact ⟨directory, same.reachable reachable, member, owns⟩

/-- A medium with the same tree as a second one, which has the same tree as a third, has
the same tree as the third. -/
theorem trans {further : Medium} (next : changed.SameTree further volume) :
    medium.SameTree further volume where
  entries directory reachable :=
    (next.entries directory (same.reachable reachable)).trans (same.entries directory reachable)
  content item owner file offset length :=
    (next.content item (same.owner owner) file offset length).trans
      (same.content item owner file offset length)

/-- Looking for a name in a directory that is reached ends alike on media with the same
tree. -/
theorem find {directory : Directory} (reachable : medium.Reachable volume directory)
    (name : RawName) : changed.find volume directory name = medium.find volume directory name := by
  rw [Medium.find, same.entries directory reachable, Medium.find]

/-- Every walk along names ends alike on media with the same tree, be it at an entry or
with a failure. -/
theorem walk {names : List (Except Failure RawName)} (spelled : Spelled names) :
    changed.walk volume names = medium.walk volume names := by
  apply walk_congr
  intro front raw above directory begun led opened
  have written : Spelled front := fun other member =>
    spelled other (begun.mem (List.mem_append_left _ member))
  exact same.find (reachable_of_walk written led opened) raw

/-- Requests about any path, listings apart, have the same answers on media with the same
tree. -/
theorem sameAt (path : List Char) : medium.SameAt changed volume path :=
  .of_walk (fun normal _ => same.walk (spelled_names normal)) same.content

/-- Reading the directory at any path has the same result on media with the same tree. -/
theorem readDirectory (path : List Char) :
    changed.readDirectory volume path = medium.readDirectory volume path := by
  simp only [Medium.readDirectory]
  rw [(same.sameAt path).lookup]
  refine bind_congr_ok fun resolved looked => bind_congr_ok fun directory opened => ?_
  obtain ⟨normal, _, led⟩ := ok_of_bind looked
  rw [resolve_eq_walk] at led
  have reachable := reachable_of_walk (spelled_names normal) led opened
  simp only [Medium.listing]
  rw [same.entries directory reachable]

end SameTree

/-! ## A tree with one more directory -/

/-- A list with one more item behind it is no first part of the list itself. -/
theorem not_prefix_append_singleton {α : Type} (front : List α) (last : α) :
    ¬ front ++ [last] <+: front := by
  intro begun
  have longer := begun.length_le
  rw [List.length_append, List.length_singleton] at longer
  omega

/-- An entry that is not wanted changes nothing about which wanted entry of a course is
found first, wherever it comes in. -/
theorem firstWanted_insert {front rear : List (SlotPosition × Entry)} {item : SlotPosition × Entry}
    {ending : Option Failure} {wanted : Entry → Bool} (unwanted : wanted item.2 = false) :
    (Course.mk (front ++ item :: rear) ending).firstWanted wanted =
      (Course.mk (front ++ rear) ending).firstWanted wanted := by
  simp only [Course.firstWanted]
  rw [List.find?_append, List.find?_append, List.find?_cons, unwanted]

/-- A cursor can be started over every directory that is reached on a consistent medium. -/
theorem Consistent.starts (consistent : medium.Consistent volume) {directory : Directory}
    (reachable : medium.Reachable volume directory) :
    ∃ cursor, Cursor.start volume directory = .ok cursor := by
  cases directory with
  | root => exact ⟨_, rfl⟩
  | chain first =>
    obtain ⟨_, _, _, _, _, chain, _⟩ := consistent.chain_of_reachable reachable
    simp only [Cursor.start]
    rw [(Layout.checkCluster_ok_iff first).mpr chain.first_data]
    exact ⟨_, rfl⟩

/-- Looking up a path that has a normal form is walking along the names in that form. -/
theorem lookup_of_walk {path normal : List Char} (normalized : Path.normalize path = .ok normal) :
    medium.lookup volume path = medium.walk volume (Path.names normal) := by
  rw [Medium.lookup, normalized]
  exact resolve_eq_walk medium volume normal

/-- A directory of a consistent tree that a path names is listed in full, and the listing
ends without a failure. -/
theorem Consistent.readDirectory_ok (consistent : medium.Consistent volume) {path : List Char}
    {resolved : Resolved} {directory : Directory}
    (looked : medium.lookup volume path = .ok resolved)
    (opened : resolved.directory = .ok directory)
    (reachable : medium.Reachable volume directory) :
    medium.readDirectory volume path = .ok (medium.listing volume directory) := by
  obtain ⟨cursor, started⟩ := consistent.starts reachable
  rw [Medium.readDirectory, looked]
  change resolved.directory >>= _ = _
  rw [opened]
  change Cursor.start volume directory >>= _ = _
  rw [started]
  rfl

namespace Insertion

variable {parent : Directory} {position : SlotPosition} {name : RawName} {cluster : Nat}
  {front names : List (Except Failure RawName)}
  (insertion : medium.Insertion volume parent position name cluster)
include insertion

/-- A name is found in a directory as it was before the entry came in, unless it is the
new name and the directory is the parent. -/
theorem find_other {directory : Directory} (reachable : medium.Reachable volume directory)
    {raw : RawName} (canonical : ShortName.Canonical raw) (other : directory = parent → raw ≠ name) :
    (medium.inserted position name cluster).find volume directory raw =
      medium.find volume directory raw := by
  simp only [Medium.find]
  by_cases same : directory = parent
  · subst same
    obtain ⟨earlier, later, before, after⟩ := insertion.entries_parent
    have unwanted : ShortName.sameFolded (position, Entry.directory name cluster).2.name raw =
        false := by
      rw [Bool.eq_false_iff, Ne, canonical.sameFolded_iff]
      change ¬ name.map Text.upperByte = raw
      rw [insertion.canonical.upper]
      exact fun equal => other rfl equal.symm
    rw [before, after, firstWanted_insert unwanted]
  · rw [insertion.entries_other reachable same]

variable (awaits : medium.Awaits volume front parent name)
include awaits

/-- A walk that does not go through the new entry ends as it did before the entry came in. -/
theorem walk_other (spelled : Spelled names) (elsewhere : ¬ front ++ [.ok name] <+: names) :
    (medium.inserted position name cluster).walk volume names = medium.walk volume names := by
  obtain ⟨above, led, opened⟩ := awaits.led
  apply walk_congr
  intro earlier raw higher directory begun went entered
  have along : Spelled (earlier ++ [.ok raw]) := fun other member => spelled other (begun.mem member)
  apply insertion.find_other (reachable_of_walk along.front went entered) along.last
  rintro rfl rfl
  have same := insertion.consistent.walk_unique along.front awaits.spelled.front went led entered
    opened
  exact elsewhere (same ▸ begun)

/-- Looking for the new name in the parent finds the new entry. -/
theorem find_new : (medium.inserted position name cluster).find volume parent name =
    .ok (Entry.directory name cluster) := by
  obtain ⟨earlier, later, before, after⟩ := insertion.entries_parent
  have passed : earlier.find? (fun item => ShortName.sameFolded item.2.name name) = none := by
    rw [List.find?_eq_none]
    intro item member
    rw [awaits.absent item (by rw [before]; exact List.mem_append_left _ member)]
    exact Bool.false_ne_true
  have wanted : ShortName.sameFolded (position, Entry.directory name cluster).2.name name = true :=
    insertion.canonical.sameFolded_iff.mpr insertion.canonical.upper
  rw [Medium.find, after, Course.firstWanted]
  dsimp only
  rw [List.find?_append, passed, Option.none_or, List.find?_cons, wanted]
  rfl

/-- The walk to the parent and on through the new name leads to the new directory. -/
theorem walk_new : (medium.inserted position name cluster).walk volume (front ++ [.ok name]) =
    .ok (.ofEntry (Entry.directory name cluster)) := by
  obtain ⟨above, led, opened⟩ := awaits.led
  rw [walk_concat, insertion.walk_other awaits awaits.spelled.front
    (not_prefix_append_singleton front _), led]
  change stride _ volume above (.ok name) = _
  simp only [stride]
  rw [opened]
  change (medium.inserted position name cluster).find volume parent name >>= _ = _
  rw [insertion.find_new awaits]
  rfl

/-- Requests about a path that does not go through the new entry, listings apart, have the
same answers as before it came in. -/
theorem sameAt {path : List Char} (elsewhere : ∀ normal, Path.normalize path = .ok normal →
      ¬ front ++ [.ok name] <+: Path.names normal) :
    medium.SameAt (medium.inserted position name cluster) volume path :=
  .of_walk
    (fun normal normalized =>
      insertion.walk_other awaits (spelled_names normal) (elsewhere normal normalized))
    fun _ owner file => insertion.content owner file

/-- Reading a directory has the same result as before the new entry came in, unless the
path names the parent or goes through the entry. -/
theorem readDirectory_other {path : List Char}
    (elsewhere : ∀ normal, Path.normalize path = .ok normal →
      ¬ front ++ [.ok name] <+: Path.names normal ∧ Path.names normal ≠ front) :
    (medium.inserted position name cluster).readDirectory volume path =
      medium.readDirectory volume path := by
  have lookup := (insertion.sameAt awaits fun normal normalized =>
    (elsewhere normal normalized).1).lookup
  simp only [Medium.readDirectory]
  rw [lookup]
  refine bind_congr_ok fun resolved looked => bind_congr_ok fun directory opened => ?_
  obtain ⟨normal, normalized, led⟩ := ok_of_bind looked
  rw [resolve_eq_walk] at led
  have reachable := reachable_of_walk (spelled_names normal) led opened
  have other : directory ≠ parent := by
    rintro rfl
    obtain ⟨above, went, entered⟩ := awaits.led
    exact (elsewhere normal normalized).2 (insertion.consistent.walk_unique (spelled_names normal)
      awaits.spelled.front led went opened entered)
  simp only [Medium.listing]
  rw [insertion.entries_other reachable other]

/-- Reading the parent gives the entries that it gave before, with that of the new
directory put in at one place among them. -/
theorem readDirectory_parent :
    ∃ earlier later : List Entry, ∀ path normal, Path.normalize path = .ok normal →
      Path.names normal = front →
        medium.readDirectory volume path = .ok ⟨(earlier ++ later).toArray, none⟩ ∧
        (medium.inserted position name cluster).readDirectory volume path =
          .ok ⟨(earlier ++ Entry.directory name cluster :: later).toArray, none⟩ := by
  obtain ⟨former, latter, before, after⟩ := insertion.entries_parent
  refine ⟨(former.map Prod.snd).filter Shown.named.wanted,
    (latter.map Prod.snd).filter Shown.named.wanted, fun path normal normalized names => ?_⟩
  obtain ⟨above, led, opened⟩ := awaits.led
  have shorter : ¬ front ++ [.ok name] <+: Path.names normal := by
    rw [names]
    exact not_prefix_append_singleton front _
  have looked : medium.lookup volume path = .ok above := by
    rw [lookup_of_walk normalized, names, led]
  have again : (medium.inserted position name cluster).lookup volume path = .ok above := by
    rw [lookup_of_walk normalized, insertion.walk_other awaits (spelled_names normal) shorter,
      names, led]
  have shown : Shown.named.wanted (Entry.directory name cluster) = true := by
    rw [Shown.wanted, insertion.isDot_directory]
    rfl
  constructor
  · rw [insertion.consistent.readDirectory_ok looked opened insertion.reachable, Medium.listing,
      before, List.map_append, List.filter_append]
  · rw [insertion.consistent_after.readDirectory_ok again opened
      (insertion.reachable_iff.mpr (.inl insertion.reachable)), Medium.listing, after,
      List.map_append, List.filter_append, List.map_cons, List.filter_cons_of_pos shown]

/-- Looking up a path that goes to the new entry finds the new directory. -/
theorem lookup_new {path normal : List Char} (normalized : Path.normalize path = .ok normal)
    (names : Path.names normal = front ++ [.ok name]) :
    (medium.inserted position name cluster).lookup volume path =
      .ok (.ofEntry (Entry.directory name cluster)) := by
  rw [lookup_of_walk normalized, names, insertion.walk_new awaits]

/-- The status at a path that goes to the new entry is that of a directory without a size. -/
theorem status_new {path normal : List Char} (normalized : Path.normalize path = .ok normal)
    (names : Path.names normal = front ++ [.ok name]) :
    (medium.inserted position name cluster).status volume path = .ok ⟨.directory, 0⟩ := by
  have kind : (Resolved.ofEntry (Entry.directory name cluster)).kind = .directory :=
    if_pos (Entry.isDirectory_directory name cluster)
  rw [Medium.status, insertion.lookup_new awaits normalized names]
  exact congrArg (fun kind => Except.ok (Status.mk kind 0)) kind

/-- Reading the directory at a path that goes to the new entry gives no entries, and ends
without a failure. -/
theorem readDirectory_new {path normal : List Char} (normalized : Path.normalize path = .ok normal)
    (names : Path.names normal = front ++ [.ok name]) :
    (medium.inserted position name cluster).readDirectory volume path = .ok ⟨#[], none⟩ := by
  have opened : (Resolved.ofEntry (Entry.directory name cluster)).directory =
      .ok (.chain cluster) := by
    rw [← insertion.ofCluster]
    exact if_pos (Entry.isDirectory_directory name cluster)
  rw [insertion.consistent_after.readDirectory_ok (insertion.lookup_new awaits normalized names)
    opened (insertion.reachable_iff.mpr (.inr rfl)), Medium.listing, insertion.entries_cluster]
  rfl

end Insertion

end Medium

end FatVolume
