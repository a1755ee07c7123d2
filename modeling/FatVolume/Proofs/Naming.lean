import FatVolume.Proofs.CreationFailures
import FatVolume.Proofs.Making
import FatVolume.Proofs.Resumption

/-!
# The name of a new directory

A creation divides its path as a text, at the last separator that a component follows. A look-up
goes from component to component, from the front. Both come to the same: a path that cannot be
divided has no component, and any other has those of the part in front, and then the leaf. So
where the path names nothing but the part in front of the leaf names something, this is a
directory, the leaf has a short name, and by this name every look-up of the path searches what
the part in front leads to.

The entry of the new directory then stands among the slots of its parent, whatever else the medium
holds: making a cluster an empty directory changes the link of a free cluster alone, which is on
the way to no slot. Where the volume is consistent, the path leads to the new directory.
-/

namespace FatVolume

namespace Path

variable {path front leaf : List Char}

/-- A path can be divided in front of its last component unless it has no component at
all. -/
theorem splitLeaf_eq_none_iff : splitLeaf path = none ↔ components path = [] := by
  cases divided : splitLeaf path with
  | none =>
    refine iff_of_true rfl (components_separators fun separator member => ?_)
    simp only [splitLeaf] at divided
    split at divided
    · next trimmed =>
      exact List.dropWhile_eq_nil_iff.mp (List.isEmpty_iff.mp trimmed) separator
        (List.mem_reverse.mpr member)
    · cases divided
  | some parts =>
    refine iff_of_false (Option.some_ne_none parts) ?_
    rw [components_of_splitLeaf divided]
    exact List.concat_ne_nil _ _

/-- What stands behind the place at which a path is divided is one of its components: not
empty and without separators. -/
theorem isComponent_of_splitLeaf (divided : splitLeaf path = some (front, leaf)) :
    IsComponent leaf := by
  have last : leaf ∈ components path := by
    rw [components_of_splitLeaf divided]
    exact List.mem_append_right _ (List.mem_singleton_self leaf)
  exact isComponent_of_mem last

end Path

namespace Medium

variable {medium changed : Medium} {volume : Volume} {path front leaf : List Char}

/-! ## Slots that are kept -/

/-- No link is changed but those of free clusters. -/
def KeepsLinks (medium changed : Medium) (volume : Volume) : Prop :=
  ∀ cluster, volume.DataCluster cluster → medium.link volume cluster ≠ 0 →
    changed.link volume cluster = medium.link volume cluster

/-- The slot at a position of a medium is told with that position. -/
@[simp]
theorem slotAt_fst (medium : Medium) (position : SlotPosition) :
    (medium.slotAt position).1 = position := rfl

/-- The slots of the root stand at the same positions on all media, as these are told by
the layout alone. -/
theorem rootSlots_positions (medium changed : Medium) (volume : Volume) :
    (changed.rootSlots volume).map Prod.fst = (medium.rootSlots volume).map Prod.fst := by
  simp only [rootSlots, List.map_map, Function.comp_def, slotAt_fst]

/-- The slots of a cluster stand at the same positions on all media, as these are told by
the layout alone. -/
theorem clusterSlots_positions (medium changed : Medium) (volume : Volume) (cluster : Nat) :
    (changed.clusterSlots volume cluster).map Prod.fst =
      (medium.clusterSlots volume cluster).map Prod.fst := by
  simp only [clusterSlots, slotsFrom, sectorSlots, List.map_flatMap, List.map_map,
    Function.comp_def, slotAt_fst]

namespace KeepsLinks

/-- The clusters that were met are met again. The course may lead further, where it broke off at
a free cluster. -/
theorem beyond (keeps : medium.KeepsLinks changed volume) (links : Nat) {cluster : Nat}
    (data : volume.DataCluster cluster) :
    (medium.beyond volume links cluster).items <+: (changed.beyond volume links cluster).items := by
  -- A link that was followed was not free, and so is followed still.
  induction links generalizing cluster with
  | zero =>
    rw [Medium.beyond]
    split <;> exact List.nil_prefix
  | succ links inductionHypothesis =>
    rw [Medium.beyond]
    split
    · exact List.nil_prefix
    · exact List.nil_prefix
    · next successor followed =>
      have linked : (changed.link volume cluster).toNat = successor := by
        rw [keeps cluster data (link_ne_zero_of_follow followed)]
        exact linked_of_follow followed
      rw [Medium.beyond, follow_of_linked (follow_data followed) linked]
      exact List.cons_prefix_cons.mpr ⟨rfl, inductionHypothesis (follow_data followed)⟩

/-- Where no link is changed but those of free clusters, no directory loses a slot: all
positions stay, at most with others behind them. -/
theorem slots (keeps : medium.KeepsLinks changed volume) (directory : Directory) :
    (medium.slots volume directory).items.map Prod.fst <+:
      (changed.slots volume directory).items.map Prod.fst := by
  cases directory with
  | root => rw [slots_root, slots_root, rootSlots_positions medium changed]
  | chain first =>
    by_cases data : volume.DataCluster first
    · obtain ⟨rest, longer⟩ := keeps.beyond (volume.clusterCount - 1) data
      rw [slots_chain data, slots_chain data, ← longer, List.map_flatMap, List.map_flatMap,
        ← List.cons_append, List.flatMap_append]
      simp only [clusterSlots_positions medium changed]
      exact List.prefix_append _ _
    · rw [Medium.slots, Layout.checkCluster_refused data]
      exact List.nil_prefix

/-- Making a free cluster an empty directory changes no link but that of this cluster,
which was free. -/
theorem of_preparation (parent : Directory) {cluster : Nat}
    (free : medium.firstFree volume = some cluster) :
    medium.KeepsLinks (medium.apply (medium.preparationWrites volume cluster parent)) volume := by
  obtain ⟨data, unlinked⟩ := firstFree_some free
  intro number numbered taken
  have other : number ≠ cluster := fun same => taken (same ▸ unlinked)
  exact (Spares.of_preparing data List.prefix_rfl).link number numbered other

end KeepsLinks

/-! ## The entry of the new directory -/

/-- A slot that has been claimed is among those of the directory on the medium that the
claim leaves. -/
theorem Claims.position_mem {directory : Directory} {position : SlotPosition} {writes : List Write}
    (claims : medium.Claims volume directory (.ok position) writes) :
    position ∈ ((medium.apply writes).slots volume directory).items.map Prod.fst := by
  cases claims with
  | found free =>
    obtain ⟨front, slot, rear, divided, _⟩ := divided_of_freeSlot free
    rw [apply_nil, divided]
    simp
  | @grown first added full free =>
    obtain ⟨front, prolonged⟩ := prolonged_of_growthWrites full free
    have here : volume.InCluster added (volume.clusterStart added + 0) :=
      ⟨0, volume.usable.sectorsPerCluster_pos, rfl⟩
    rw [prolonged.grown.slots prolonged.grown.distinct]
    exact List.mem_map.mpr
      ⟨_, List.mem_flatMap.mpr ⟨added, by simp, slotAt_mem_clusterSlots here⟩, rfl⟩

/-- When a directory has been created, its entry stands live in one of the slots of its
parent. -/
theorem Creates.stands {writes : List Write} {parent : Directory} {name : RawName} {cluster : Nat}
    (creates : medium.Creates volume path (.ok cluster) writes)
    (vacant : medium.vacancy volume path = .ok (parent, name)) :
    ∃ position, (position, .live (Entry.directory name cluster)) ∈
      ((medium.apply writes).slots volume parent).items := by
  cases creates with
  | @created _ _ position claiming _ again claims free =>
    rw [vacant] at again
    cases again
    obtain ⟨_, _, awaits⟩ := vacancy_ok vacant
    have canonical := awaits.spelled.last
    -- the slot is still there once the cluster is prepared, and the last write is to it
    have kept := ((KeepsLinks.of_preparation parent free).slots parent).mem claims.position_mem
    obtain ⟨item, member, rfl⟩ := List.mem_map.mp kept
    have altered := alters_entryWrite (mem_slots_spans member).2.rootStart_le
      ((medium.apply claiming).apply ((medium.apply claiming).preparationWrites volume cluster parent))
      (Entry.directory name cluster)
    rw [Slot.decode_directory canonical.marked canonical.erased] at altered
    rw [apply_append, insertionWrites, apply_append]
    refine ⟨item.1, ?_⟩
    change _ ∈ (Medium.slots (Medium.write _ _) volume parent).items
    rw [altered.slots]
    exact List.mem_map.mpr ⟨item, member, if_pos rfl⟩

/-- On a consistent medium the path leads to the directory that has been created, and the part in
front of its last component to where it led. -/
theorem Completed.resolves {cluster : Nat} {name : RawName}
    (completed : medium.Completed changed volume path cluster)
    (consistent : medium.Consistent volume) (divided : Path.splitLeaf path = some (front, leaf))
    (encoded : ShortName.encode leaf = .ok name) :
    changed.resolve volume front = medium.resolve volume front ∧
      changed.resolve volume path = .ok (.ofEntry (Entry.directory name cluster)) := by
  have names : Path.names path = Path.names front ++ [.ok name] := by
    rw [Path.names_of_splitLeaf divided, encoded]
  constructor
  · have shorter : ¬ Path.names path <+: Path.names front := by
      rw [names]
      exact not_prefix_append_singleton _ _
    rw [resolve_eq_walk, resolve_eq_walk, completed.walk_other consistent (spelled_names front) shorter]
  · obtain ⟨_, _, _, named, _, led, _⟩ := completed.initialised consistent
    cases (List.append_inj' (names.symm.trans named) rfl).2
    exact led

end Medium

namespace Volume

/-- A path is looked up by looking up the part in front of its last component, and by searching
the directory that this leads to for a name. -/
def Seeks (volume : Volume) (path front : List Char) (name : RawName) : Prop :=
  volume.resolve path = do
    let directory ← (← volume.resolve front).directory
    return .ofEntry (← volume.findEntry directory name)

variable {volume : Volume} {path front leaf : List Char} {host : Host} {above : Resolved}
  {parent : Directory} {name : RawName}

/-- Looking up a path is looking up its front and then seeking the name that its last
component is encoded as in that directory. -/
theorem seeks_of_splitLeaf (divided : Path.splitLeaf path = some (front, leaf))
    (encoded : ShortName.encode leaf = .ok name) : volume.Seeks path front name := by
  rw [Seeks, resolve, Path.components_of_splitLeaf divided, List.foldlM_append, ← resolve]
  refine bind_congr fun above => ?_
  change (volume.descend above leaf >>= pure) = _
  rw [bind_pure, descend, encoded]
  rfl

/-- Where the look-ups of a creation tell that a path is missing and where its front
leads, both is so on the medium, which they leave as it is. -/
theorem resolve_of_missing (missing : outcome (volume.resolve path) host = .error .notFound)
    (led : outcome (volume.resolve front) (afterwards (volume.resolve path) host) = .ok above) :
    host.medium.resolve volume path = .error .notFound ∧
      host.medium.resolve volume front = .ok above := by
  have sought : Reads (volume.resolve path) host.medium _ := resolve_reads path
  have spared : SparedByDisk (outcome (volume.resolve path) host) := by
    rw [missing]
    rintro failure ⟨⟩ ⟨⟩
  exact ⟨(sought.intended_of_spared rfl spared).symm.trans missing,
    (resolve_reads front).intended_of_ok (sought.unchanged rfl) led⟩

/-- Where a path is missing and its front leads to a directory, a creation goes on by
inserting a directory there, under the name of the last component. -/
theorem createDirectory_inserts (divided : Path.splitLeaf path = some (front, leaf))
    (missing : outcome (volume.resolve path) host = .error .notFound)
    (led : outcome (volume.resolve front) (afterwards (volume.resolve path) host) = .ok above)
    (opened : above.directory = .ok parent) (encoded : ShortName.encode leaf = .ok name) :
    volume.createDirectory path host = volume.insertDirectory parent name
      (afterwards (volume.resolve front) (afterwards (volume.resolve path) host)) := by
  have observed : outcome (observe (volume.resolve path)) host = .ok (.error .notFound) := by
    rw [outcome_observe, missing]
  have vacant : volume.vacancy path host = .ok (parent, name)
      (afterwards (volume.resolve front) (afterwards (volume.resolve path) host)) := by
    simp only [vacancy]
    rw [bind_of_ok observed, afterwards_observe, divided]
    dsimp only
    rw [bind_of_ok led, opened, encoded]
    rfl
  obtain ⟨ended, left⟩ := ran_ok_iff.mp vacant
  rw [createDirectory, bind_of_ok ended, left]

/-- A path cannot be divided exactly if it has no component. Otherwise its leaf is a component, and
stands behind the components of the part in front.

A creation that is told that the path names nothing, and that the part in front names something,
has thereby found a directory and a name that the leaf is encoded to, and goes on to put an entry
of this name into this directory. By the same name every look-up of the path searches what the part
in front leads to, on any host. If the creation succeeds, the entry stands among the slots of the
directory; and if the volume is consistent, look-ups that no failure of the disk ends lead from then
on to this directory and to the new one. -/
theorem createDirectory_names_leaf (volume : Volume) (path : List Char) :
    (Path.splitLeaf path = none ↔ Path.components path = []) ∧
    ∀ front leaf, Path.splitLeaf path = some (front, leaf) →
      Path.IsComponent leaf ∧ Path.components path = Path.components front ++ [leaf] ∧
      ∀ (host : Host) (above : Resolved),
        outcome (volume.resolve path) host = .error .notFound →
        outcome (volume.resolve front) (afterwards (volume.resolve path) host) = .ok above →
        ∃ parent name, above.directory = .ok parent ∧ ShortName.encode leaf = .ok name ∧
          volume.createDirectory path host = volume.insertDirectory parent name
            (afterwards (volume.resolve front) (afterwards (volume.resolve path) host)) ∧
          volume.Seeks path front name ∧
          ∀ cluster after, volume.createDirectory path host = .ok cluster after →
            let entry := Entry.directory name cluster
            (∃ position, (position, .live entry) ∈ (after.medium.slots volume parent).items) ∧
            (host.medium.Consistent volume → ∀ later : Host, later.medium = after.medium →
              (SparedByDisk (outcome (volume.resolve front) later) →
                outcome (volume.resolve front) later = .ok above) ∧
              (SparedByDisk (outcome (volume.resolve path) later) →
                outcome (volume.resolve path) later = .ok (.ofEntry entry))) := by
  refine ⟨Path.splitLeaf_eq_none_iff, fun front leaf divided => ?_⟩
  refine ⟨Path.isComponent_of_splitLeaf divided, Path.components_of_splitLeaf divided,
    fun host above missing led => ?_⟩
  -- The two look-ups tell what is so on the medium, from which the parent and the name are known.
  obtain ⟨nothing, found⟩ := resolve_of_missing missing led
  obtain ⟨parent, name, opened, encoded⟩ := Medium.opens_of_missing divided nothing found
  refine ⟨parent, name, opened, encoded, createDirectory_inserts divided missing led opened encoded,
    seeks_of_splitLeaf divided encoded, fun cluster after succeeded => ?_⟩
  obtain ⟨ended, rfl⟩ := ran_ok_iff.mp succeeded
  obtain ⟨_, writes, performs, creates⟩ := volume.createDirectory_performs host.medium path
  obtain ⟨rfl, left⟩ := (performs host rfl).carried_of_ok ended
  refine ⟨?_, fun consistent later same => ?_⟩
  · rw [left]
    exact creates.stands (Medium.vacancy_eq divided nothing found opened encoded)
  · obtain ⟨again, made⟩ := (creates.completed consistent).resolves consistent divided encoded
    rw [← left, ← same] at again made
    exact ⟨fun spared => ((resolve_reads front).intended_of_spared rfl spared).trans (again.trans found),
      fun spared => ((resolve_reads path).intended_of_spared rfl spared).trans made⟩

/-- A path with repeated separators of both kinds creates a directory below another one,
under the name of its last component. -/
theorem createDirectory_names_leaf_mixed :
    let host := afterwards (Mounted.makeDirectory ⟨0, .small, ⟨0, 20, 4⟩⟩ ['/', 'a'])
      (Host.untouched 20 4096 {})
    let path := ['\\', 'a', '/', '/', '\\', 'b', '.', 'c', '/', '\\']
    let front := ['\\', 'a', '/', '/']
    let leaf := ['b', '.', 'c']
    let after := afterwards (Volume.small.createDirectory path) host
    Path.splitLeaf path = some (front, leaf) ∧ Path.IsComponent leaf ∧
      Path.components path = Path.components front ++ [leaf] ∧ host.medium.Consistent .small ∧
      outcome (Volume.small.resolve path) host = .error .notFound ∧
      Volume.small.createDirectory path host = .ok 3 after ∧
      ∃ name, ShortName.encode leaf = .ok name ∧ Volume.small.Seeks path front name ∧
        (∃ position, (position, .live (Entry.directory name 3)) ∈
          (after.medium.slots .small (.chain 2)).items) ∧
        outcome (Volume.small.resolve path) after = .ok (.ofEntry (Entry.directory name 3)) := by
  intro host path front leaf after
  have divided : Path.splitLeaf path = some (front, leaf) := by decide +kernel
  have consistent : host.medium.Consistent .small :=
    (Mounted.makeDirectory_orderly Host.untouched_blankRoot.orderly _).toConsistent
  -- the look-ups and the creation are evaluated together, since each of them reads the same sectors
  obtain ⟨missing, led, ended, found⟩ :
      outcome (Volume.small.resolve path) host = .error .notFound ∧
      outcome (Volume.small.resolve front) (afterwards (Volume.small.resolve path) host) =
        .ok ⟨2, Attributes.directory, 0⟩ ∧
      outcome (Volume.small.createDirectory path) host = .ok 3 ∧
      outcome (Volume.small.resolve path) after = .ok ⟨3, Attributes.directory, 0⟩ := by
    decide +kernel
  have created : Volume.small.createDirectory path host = .ok 3 after := ran_ok_iff.mpr ⟨ended, rfl⟩
  obtain ⟨component, components, makes⟩ :=
    (createDirectory_names_leaf .small path).2 front leaf divided
  obtain ⟨parent, name, opened, encoded, _, seeks, written⟩ := makes host _ missing led
  cases opened
  obtain ⟨stands, leads⟩ := written 3 after created
  exact ⟨divided, component, components, consistent, missing, created, name, encoded, seeks, stands,
    (leads consistent after rfl).2 (by rw [found]; simp [SparedByDisk])⟩

end Volume

end FatVolume
