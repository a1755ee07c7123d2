import FatVolume.Proofs.Paths
import FatVolume.Proofs.Tree
import Mathlib.Data.List.Induction

/-!
# Walking down a tree

A path is looked up by walking down from the root along its names. On a consistent medium
the walk stays among the directories of the tree, and the names tell the directory: two
walks that end in one directory went along the same names.

A walk depends on what each name finds in the directory that was reached before it.
-/

namespace FatVolume

namespace Medium

variable (medium : Medium) (volume : Volume)

/-- What a name leads to, seen from what the names before it lead to. -/
def stride (current : Resolved) (name : Except Failure RawName) : Except Failure Resolved := do
  let directory ← current.directory
  return .ofEntry (← medium.find volume directory (← name))

/-- What some names lead to, seen from the root. -/
def walk (names : List (Except Failure RawName)) : Except Failure Resolved :=
  names.foldlM (medium.stride volume) .root

variable {medium volume}

/-- A path is looked up by walking along its names. From here on paths matter only through
the names of their components. -/
theorem resolve_eq_walk (medium : Medium) (volume : Volume) (path : List Char) :
    medium.resolve volume path = medium.walk volume (Path.names path) := by
  rw [resolve, walk, Path.names, List.foldlM_map]
  rfl

/-- A walk along no names stays at the root. -/
theorem walk_nil : medium.walk volume [] = .ok .root := rfl

/-- A walk along one more name is the walk along the others and one stride from where it
ends. Names are added at the end, as directories are entered. -/
theorem walk_concat (front : List (Except Failure RawName)) (name : Except Failure RawName) :
    medium.walk volume (front ++ [name]) =
      medium.walk volume front >>= fun current => medium.stride volume current name := by
  rw [walk, List.foldlM_append, walk]
  apply bind_congr
  intro current
  simp only [List.foldlM_cons, List.foldlM_nil, bind_pure]

/-- Names that components can be encoded to. -/
def Spelled (names : List (Except Failure RawName)) : Prop :=
  ∀ raw, .ok raw ∈ names → ShortName.Canonical raw

/-- The names of a path are those that components are encoded to, and so all of them are
canonical. -/
theorem spelled_names (path : List Char) : Spelled (Path.names path) := by
  intro raw member
  obtain ⟨component, _, encoded⟩ := List.mem_map.mp member
  exact ShortName.encode_canonical encoded

/-- The names in front of the last one are spelled if all of them are. -/
theorem Spelled.front {front : List (Except Failure RawName)} {name : Except Failure RawName}
    (spelled : Spelled (front ++ [name])) : Spelled front :=
  fun raw member => spelled raw (List.mem_append_left _ member)

/-- The last of the names that components are encoded to is canonical, so it marks no slot
and refers to no dot entry. -/
theorem Spelled.last {front : List (Except Failure RawName)} {raw : RawName}
    (spelled : Spelled (front ++ [.ok raw])) : ShortName.Canonical raw :=
  spelled raw (List.mem_append_right _ (List.mem_singleton_self _))

/-! ## What is found -/

/-- What is found is one of the live entries of the directory, and carries the name with
its case folded. -/
theorem find_ok {directory : Directory} {name : RawName} {entry : Entry}
    (found : medium.find volume directory name = .ok entry) :
    ∃ item ∈ (medium.entries volume directory).items, item.2 = entry ∧
      ShortName.sameFolded item.2.name name = true := by
  simp only [find] at found
  obtain ⟨wanted, sought, found⟩ := ok_of_bind found
  simp only [Course.firstWanted] at sought
  split at sought
  · next item first =>
    cases sought
    cases found
    have carries := List.find?_some first
    exact ⟨item, List.mem_of_find?_eq_some first, rfl, carries⟩
  · split at sought
    · cases sought
    · cases sought
      cases found

/-- Where nothing is found, no live entry carries the name, neither in front of a break
nor elsewhere among those that can be reached. -/
theorem absent_of_find {directory : Directory} {name : RawName} {failure : Failure}
    (missing : medium.find volume directory name = .error failure) :
    ∀ item ∈ (medium.entries volume directory).items,
      ShortName.sameFolded item.2.name name = false := by
  simp only [find, Course.firstWanted] at missing
  split at missing
  · cases missing
  · next none =>
    intro item member
    have unlike := List.find?_eq_none.mp none item member
    exact Bool.eq_false_iff.mpr unlike

/-- An entry that carries a canonical name is none that refers back. A walk therefore
never goes up. -/
theorem isDot_of_sameFolded {entry : Entry} {name : RawName} (canonical : ShortName.Canonical name)
    (same : ShortName.sameFolded entry.name name = true) : entry.isDot = false := by
  rw [canonical.sameFolded_iff] at same
  have dotted := canonical.dotted
  rw [← same] at dotted
  rw [Entry.isDot, Bool.or_eq_false_iff, beq_eq_false_iff_ne, beq_eq_false_iff_ne]
  constructor
  · intro self
    rw [self, Vector.getElem_map] at dotted
    exact dotted (by decide)
  · intro above
    rw [above, Vector.getElem_map] at dotted
    exact dotted (by decide)

/-- A walk ends at the root or at an entry. -/
structure Lands (medium : Medium) (volume : Volume) (front : List (Except Failure RawName))
    (raw : RawName) (directory : Directory) (item : SlotPosition × Entry) : Prop where
  led : ∃ above, medium.walk volume front = .ok above ∧ above.directory = .ok directory
  member : item ∈ (medium.entries volume directory).items
  carries : ShortName.sameFolded item.2.name raw = true

/-- A walk that succeeds has an entry to show for its last name: the entry stands in the
directory to which the other names lead, and carries the name. -/
theorem walk_concat_ok {front : List (Except Failure RawName)} {name : Except Failure RawName}
    {resolved : Resolved} (led : medium.walk volume (front ++ [name]) = .ok resolved) :
    ∃ raw directory item, name = .ok raw ∧ resolved = .ofEntry item.2 ∧
      medium.Lands volume front raw directory item := by
  rw [walk_concat] at led
  obtain ⟨above, before, led⟩ := ok_of_bind led
  obtain ⟨directory, opened, led⟩ := ok_of_bind led
  obtain ⟨raw, spelled, led⟩ := ok_of_bind led
  obtain ⟨entry, found, led⟩ := ok_of_bind led
  obtain ⟨item, member, rfl, carries⟩ := find_ok found
  cases led
  exact ⟨raw, directory, item, spelled, rfl, ⟨above, before, opened⟩, member, carries⟩

/-- What can be opened as a directory is one, and it is the directory that its cluster
number stands for. -/
theorem Resolved.directory_ok {resolved : Resolved} {directory : Directory}
    (opened : resolved.directory = .ok directory) :
    resolved.isDirectory = true ∧ directory = .ofCluster resolved.cluster := by
  simp only [Resolved.directory] at opened
  split at opened
  · next holds =>
    cases opened
    exact ⟨holds, rfl⟩
  · cases opened

/-! ## Walks in a tree -/

/-- A walk that ends in a directory ends in one of the tree, for each of its strides goes
through a live entry that refers to no dot entry. -/
theorem reachable_of_walk {names : List (Except Failure RawName)} (spelled : Spelled names)
    {resolved : Resolved} {directory : Directory}
    (led : medium.walk volume names = .ok resolved)
    (opened : resolved.directory = .ok directory) : medium.Reachable volume directory := by
  -- From the last name back: the directory in which it was found is reached by the names before
  -- it.
  induction names using List.reverseRecOn generalizing resolved directory with
  | nil =>
    cases led
    obtain ⟨_, rfl⟩ := Resolved.directory_ok opened
    exact .root
  | append_singleton front name inductionHypothesis =>
    obtain ⟨raw, parent, item, rfl, rfl, ⟨above, before, entered⟩, member, carries⟩ :=
      walk_concat_ok led
    obtain ⟨isDirectory, rfl⟩ := Resolved.directory_ok opened
    exact .child (inductionHypothesis spelled.front before entered) member isDirectory
      (isDot_of_sameFolded spelled.last carries)

/-- The directory in which a walk has found its last entry is one of the tree. -/
theorem Lands.reachable {front : List (Except Failure RawName)} {raw : RawName}
    {directory : Directory} {item : SlotPosition × Entry}
    (lands : medium.Lands volume front raw directory item) (spelled : Spelled front) :
    medium.Reachable volume directory := by
  obtain ⟨above, before, entered⟩ := lands.led
  exact reachable_of_walk spelled before entered

/-- Some names lead to a directory in which no entry carries one more name. -/
structure Awaits (medium : Medium) (volume : Volume) (front : List (Except Failure RawName))
    (parent : Directory) (name : RawName) : Prop where
  spelled : Spelled (front ++ [.ok name])
  led : ∃ above, medium.walk volume front = .ok above ∧ above.directory = .ok parent
  absent : ∀ item ∈ (medium.entries volume parent).items,
    ShortName.sameFolded item.2.name name = false

/-- The directory that waits for a new entry is one of the tree, as the names in front
lead to it. -/
theorem Awaits.reachable {front : List (Except Failure RawName)} {parent : Directory}
    {name : RawName} (awaits : medium.Awaits volume front parent name) :
    medium.Reachable volume parent := by
  obtain ⟨above, led, opened⟩ := awaits.led
  exact reachable_of_walk awaits.spelled.front led opened

/-- No data cluster opens the root: only the numbers below 2 stand for it. -/
theorem ofCluster_ne_root {cluster : Nat} (data : volume.DataCluster cluster) :
    Directory.ofCluster cluster ≠ .ofCluster 0 := by
  rw [ofCluster_of_data data]
  exact Directory.noConfusion

namespace Lands

variable {front further : List (Except Failure RawName)} {raw other : RawName}
  {directory elsewhere : Directory} {item found : SlotPosition × Entry}

/-- Where a directory is named, its entry has a chain of its own on a consistent medium,
and begins with a data cluster. -/
theorem owner (lands : medium.Lands volume front raw directory item)
    (consistent : medium.Consistent volume) (spelled : Spelled (front ++ [.ok raw]))
    (isDirectory : item.2.isDirectory = true) :
    medium.Owner volume item ∧ volume.DataCluster item.2.cluster.toNat := by
  have owner := Owner.of_directory (lands.reachable spelled.front) lands.member isDirectory
    (isDot_of_sameFolded spelled.last lands.carries)
  obtain ⟨clusters, chain, _⟩ := consistent.intact item owner
  exact ⟨owner, chain.first_data⟩

/-- Walks that end at the same chain end at one entry, of one directory, by one name: on a
consistent medium a chain has one owner, and canonical names that it carries are equal. -/
theorem unique (lands : medium.Lands volume front raw directory item)
    (landed : medium.Lands volume further other elsewhere found)
    (consistent : medium.Consistent volume) (spelled : Spelled (front ++ [.ok raw]))
    (written : Spelled (further ++ [.ok other])) (owner : medium.Owner volume item)
    (another : medium.Owner volume found)
    (same : item.2.cluster.toNat = found.2.cluster.toNat) :
    directory = elsewhere ∧ raw = other := by
  obtain ⟨clusters, chain, _⟩ := consistent.intact item owner
  obtain ⟨rest, stored, _⟩ := consistent.intact found another
  have shared : item.2.cluster.toNat ∈ rest := same ▸ stored.first_mem
  obtain rfl := consistent.owner_unique owner another chain stored chain.first_mem shared
  have reachable := lands.reachable spelled.front
  have reached := landed.reachable written.front
  have here := consistent.slot_stands reachable (mem_slots_of_mem_entries lands.member)
  have there := consistent.slot_stands reached (mem_slots_of_mem_entries landed.member)
  constructor
  · exact consistent.directory_unique reachable reached here.2 there.2
  · have named := spelled.last.sameFolded_iff.mp lands.carries
    rw [← named, written.last.sameFolded_iff.mp landed.carries]

end Lands

/-- One directory is reached along one sequence of names. The induction shortens both
walks at their ends. -/
theorem Consistent.walk_unique (consistent : medium.Consistent volume)
    {names others : List (Except Failure RawName)} (spelled : Spelled names)
    (written : Spelled others) {resolved found : Resolved} {directory : Directory}
    (led : medium.walk volume names = .ok resolved) (went : medium.walk volume others = .ok found)
    (opened : resolved.directory = .ok directory) (entered : found.directory = .ok directory) :
    names = others := by
  -- From the last name back: one chain is owned by one entry, which stands in one directory, and
  -- to that a single walk leads.
  induction names using List.reverseRecOn generalizing others resolved found directory with
  | nil =>
    cases led
    obtain ⟨_, rfl⟩ := Resolved.directory_ok opened
    rcases List.eq_nil_or_concat others with rfl | ⟨front, name, rfl⟩
    · rfl
    · rw [List.concat_eq_append] at went written
      obtain ⟨raw, parent, item, rfl, rfl, lands⟩ := walk_concat_ok went
      obtain ⟨isDirectory, same⟩ := Resolved.directory_ok entered
      exact absurd same.symm (ofCluster_ne_root (lands.owner consistent written isDirectory).2)
  | append_singleton front name inductionHypothesis =>
    obtain ⟨raw, parent, item, rfl, rfl, lands⟩ := walk_concat_ok led
    obtain ⟨isDirectory, rfl⟩ := Resolved.directory_ok opened
    obtain ⟨owner, data⟩ := lands.owner consistent spelled isDirectory
    rcases List.eq_nil_or_concat others with rfl | ⟨further, name, rfl⟩
    · cases went
      obtain ⟨_, same⟩ := Resolved.directory_ok entered
      exact absurd same (ofCluster_ne_root data)
    · rw [List.concat_eq_append] at went written ⊢
      obtain ⟨other, elsewhere, place, rfl, rfl, landed⟩ := walk_concat_ok went
      obtain ⟨openable, same⟩ := Resolved.directory_ok entered
      obtain ⟨another, numbered⟩ := landed.owner consistent written openable
      change Directory.ofCluster item.2.cluster.toNat = .ofCluster place.2.cluster.toNat at same
      rw [ofCluster_of_data data, ofCluster_of_data numbered, Directory.chain.injEq] at same
      obtain ⟨rfl, rfl⟩ := lands.unique landed consistent spelled written owner another same
      obtain ⟨above, before, entered⟩ := lands.led
      obtain ⟨higher, past, reached⟩ := landed.led
      rw [inductionHypothesis spelled.front written.front before past entered reached]

/-- A walk depends on what its names find. Media on which each stride finds the same have
the same walk. -/
theorem walk_congr {changed : Medium} {names : List (Except Failure RawName)}
    (agree : ∀ front raw above directory, front ++ [.ok raw] <+: names →
      medium.walk volume front = .ok above → above.directory = .ok directory →
        changed.find volume directory raw = medium.find volume directory raw) :
    changed.walk volume names = medium.walk volume names := by
  induction names using List.reverseRecOn with
  | nil => rw [walk_nil, walk_nil]
  | append_singleton front name inductionHypothesis =>
    have before := inductionHypothesis fun earlier raw above directory begun =>
      agree earlier raw above directory (begun.trans (List.prefix_append _ _))
    rw [walk_concat, walk_concat, before]
    apply bind_congr_ok
    intro above led
    simp only [stride]
    refine bind_congr_ok fun directory opened => bind_congr_ok fun raw spelled => ?_
    rw [spelled] at agree
    rw [agree front raw above directory List.prefix_rfl led opened]

end Medium

end FatVolume
