import FatVolume.Proofs.Stages
import FatVolume.Proofs.Visibility

/-!
# Media before and after the last write

Each first part of the writes that create a directory leaves a medium that is partway, on
which the tree is the one that was there, until the last write completes the tree by the
new directory. A cluster comes into the tree by a single write, and it is claimed and
filled before.
-/

namespace FatVolume

namespace Medium

variable {medium base changed : Medium} {volume : Volume}

/-! ## Media that are partway -/

namespace Settled

variable (settled : medium.Settled base volume) (consistent : medium.Consistent volume)
include settled consistent

/-- A medium that is settled relative to a consistent one is consistent, since the tree
has been carried over into it. -/
theorem consistent_after : base.Consistent volume := by
  obtain ⟨_, carries⟩ := settled.carried
  exact carries.consistent_after consistent

/-- A medium that is settled relative to an orderly one is orderly, since the tree has
been carried over into it. -/
theorem orderly_after (orderly : medium.Orderly volume) : base.Orderly volume := by
  obtain ⟨_, carries⟩ := settled.carried
  exact carries.orderly_after consistent orderly

/-- A settled medium shows the tree that was there before: the same directories, with the
same entries, and the same files. -/
theorem sameTree : medium.SameTree base volume := by
  obtain ⟨_, carries⟩ := settled.carried
  exact carries.sameTree consistent

end Settled

namespace Spares

variable {spare : Nat} (spares : medium.Spares changed volume spare)
  (consistent : medium.Consistent volume) (unused : ¬ medium.Used volume spare)
include spares consistent unused

/-- Changes to the link and the sectors of a cluster that the tree does not use neither
add a cluster to the tree nor take one from it. -/
theorem used_iff {cluster : Nat} :
    changed.Used volume cluster ↔ medium.Used volume cluster := by
  rw [(spares.carries consistent unused).used_iff consistent]
  apply or_iff_left
  rintro ⟨_, _, member⟩
  cases member

end Spares

namespace Partway

variable (partway : medium.Partway changed volume) (consistent : medium.Consistent volume)
include partway consistent

/-- A medium that is partway from a consistent one is consistent itself, wherever the
writes that led to it were cut short. -/
theorem consistent_after : changed.Consistent volume := by
  obtain ⟨base, spare, settled, spares, unused⟩ := partway
  have before := settled.consistent_after consistent
  exact (spares.carries before unused).consistent_after before

/-- A medium that is partway from an orderly one is orderly itself, wherever the writes
that led to it were cut short. -/
theorem orderly_after (orderly : medium.Orderly volume) : changed.Orderly volume := by
  obtain ⟨base, spare, settled, spares, unused⟩ := partway
  have before := settled.consistent_after consistent
  exact (spares.carries before unused).orderly_after before
    (settled.orderly_after consistent orderly)

/-- A medium that is partway shows the tree that was there before: nothing has been added
to it, and nothing has been lost. -/
theorem sameTree : medium.SameTree changed volume := by
  obtain ⟨base, spare, settled, spares, unused⟩ := partway
  have before := settled.consistent_after consistent
  exact (settled.sameTree consistent).trans ((spares.carries before unused).sameTree before)

/-- Of the clusters that were free, one at most has been claimed without being part of the
tree on a medium that is partway. -/
theorem spare : ∃ spare, ∀ cluster, volume.DataCluster cluster →
    medium.link volume cluster = 0 → changed.link volume cluster ≠ 0 →
      ¬ changed.Used volume cluster → cluster = spare := by
  obtain ⟨base, spare, settled, spares, unused⟩ := partway
  have before := settled.consistent_after consistent
  refine ⟨spare, fun cluster data free claimed outside => ?_⟩
  by_contra other
  rw [spares.link cluster data other] at claimed
  rw [spares.used_iff before unused] at outside
  rcases (settled.accounted.claimed cluster data).mp claimed with old | used
  · exact old free
  · exact outside used

end Partway

/-! ## Media with the new directory -/

/-- The directory that a path names has been put into the tree of a medium, and nothing
else has been done to it that is not part of the tree. -/
def Completed (medium changed : Medium) (volume : Volume) (path : List Char)
    (cluster : Nat) : Prop :=
  ∃ front parent position name base prepared,
    Path.names path = front ++ [.ok name] ∧ medium.Awaits volume front parent name ∧
      medium.Settled base volume ∧ base.link volume cluster = 0 ∧
      base.Spares prepared volume cluster ∧
      prepared.Insertion volume parent position name cluster ∧
      changed = prepared.inserted position name cluster

/-- Whether a path awaits a directory of some name in some parent is told by the tree
alone, and so is the same for media with the same tree. -/
theorem SameTree.awaits (same : medium.SameTree changed volume)
    {front : List (Except Failure RawName)} {parent : Directory} {name : RawName}
    (awaits : medium.Awaits volume front parent name) :
    changed.Awaits volume front parent name where
  spelled := awaits.spelled
  led := by
    obtain ⟨above, led, opened⟩ := awaits.led
    exact ⟨above, (same.walk awaits.spelled.front).trans led, opened⟩
  absent := by
    rw [same.entries parent awaits.reachable]
    exact awaits.absent

namespace Completed

variable {path : List Char} {cluster : Nat}
  (completed : medium.Completed changed volume path cluster)
  (consistent : medium.Consistent volume)
include completed consistent

/-- The medium on which a directory was completed comes by its last write from one with
the same tree as at first, on which everything was ready for the entry. -/
theorem prepared : ∃ front parent position name prepared,
    Path.names path = front ++ [.ok name] ∧ medium.SameTree prepared volume ∧
      prepared.Awaits volume front parent name ∧
      prepared.Insertion volume parent position name cluster ∧
      changed = prepared.inserted position name cluster := by
  obtain ⟨front, parent, position, name, base, prepared, names, awaits, settled, free, spares,
    insertion, same⟩ := completed
  have unused : ¬ base.Used volume cluster := fun used => used.link_ne_zero free
  have tree := (Partway.of_spares settled spares unused).sameTree consistent
  exact ⟨front, parent, position, name, prepared, names, tree, tree.awaits awaits, insertion, same⟩

/-- A medium on which a directory has been completed is consistent, as the one before the
last write was and the entry fits into its tree. -/
theorem consistent_after : changed.Consistent volume := by
  obtain ⟨_, _, _, _, _, _, _, _, insertion, rfl⟩ := completed.prepared consistent
  exact insertion.consistent_after

/-- A walk along names that do not go through the new directory comes to what it came to
before, be it an entry or a failure. -/
theorem walk_other {names : List (Except Failure RawName)} (spelled : Spelled names)
    (elsewhere : ¬ Path.names path <+: names) :
    changed.walk volume names = medium.walk volume names := by
  obtain ⟨front, parent, position, name, prepared, named, same, awaits, insertion, rfl⟩ :=
    completed.prepared consistent
  rw [insertion.walk_other awaits spelled (named ▸ elsewhere), same.walk spelled]

/-- A medium on which a directory has been completed is orderly if the first one was, for
no entry of the parent carried the new name. -/
theorem orderly_after (orderly : medium.Orderly volume) : changed.Orderly volume := by
  obtain ⟨front, parent, position, name, base, prepared, names, awaits, settled, free, spares,
    insertion, rfl⟩ := completed
  have unused : ¬ base.Used volume cluster := fun used => used.link_ne_zero free
  have partway := Partway.of_spares settled spares unused
  exact insertion.orderly_after (partway.orderly_after consistent orderly)
    ((partway.sameTree consistent).awaits awaits).absent

/-- The path leads to the new directory, in the parent that awaited it, and the new
directory is empty. -/
theorem initialised : ∃ front parent name, Path.names path = front ++ [.ok name] ∧
    medium.Awaits volume front parent name ∧
      changed.resolve volume path = .ok (.ofEntry (Entry.directory name cluster)) ∧
      changed.Initialised volume cluster parent := by
  obtain ⟨front, parent, position, name, base, prepared, names, awaits, settled, free, spares,
    insertion, rfl⟩ := completed
  have unused : ¬ base.Used volume cluster := fun used => used.link_ne_zero free
  have tree := (Partway.of_spares settled spares unused).sameTree consistent
  refine ⟨front, parent, name, names, awaits, ?_, insertion.initialised⟩
  rw [resolve_eq_walk, names, insertion.walk_new (tree.awaits awaits)]

/-- On a medium on which a directory has been completed, every cluster that was claimed
since is part of the tree. -/
theorem accounted : medium.Accounted changed volume := by
  obtain ⟨front, parent, position, name, base, prepared, names, awaits, settled, free, spares,
    insertion, rfl⟩ := completed
  have before := settled.consistent_after consistent
  have unused : ¬ base.Used volume cluster := fun used => used.link_ne_zero free
  have used_iff {number : Nat} : (prepared.inserted position name cluster).Used volume number ↔
      base.Used volume number ∨ number = cluster := by
    rw [insertion.used_iff, spares.used_iff before unused]
  have unclaimed : medium.link volume cluster = 0 := by
    by_contra claimed
    exact (settled.accounted.claimed cluster insertion.data).mpr (.inl claimed) free
  constructor
  · intro number data
    by_cases new : number = cluster
    · have used : (prepared.inserted position name cluster).Used volume number :=
        used_iff.mpr (.inr new)
      exact iff_of_true used.link_ne_zero (.inr used)
    · rw [insertion.link data, spares.link number data new, settled.accounted.claimed number data,
        used_iff, or_iff_left new]
  · exact fun number used => used_iff.mpr (.inl (settled.accounted.kept number used))
  · intro number used
    rcases used_iff.mp used with old | rfl
    · exact settled.accounted.gained number old
    · exact .inr unclaimed

/-- On a medium on which a directory has been completed, no cluster has been claimed
without being part of the tree, so that one at most has. -/
theorem spare : ∃ spare, ∀ cluster, volume.DataCluster cluster →
    medium.link volume cluster = 0 → changed.link volume cluster ≠ 0 →
      ¬ changed.Used volume cluster → cluster = spare := by
  refine ⟨0, fun number data free claimed outside => ?_⟩
  rcases ((completed.accounted consistent).claimed number data).mp claimed with old | used
  · exact absurd free old
  · exact absurd used outside

end Completed

/-! ## The writes one after the other -/

namespace Creates

variable {path : List Char} {result : Except Failure Nat} {writes : List Write}

/-- When a slot was claimed and a free cluster found, the writes of the insertion complete
the directory: they prepare the cluster and put its entry into the slot. -/
theorem completed_of_created {parent : Directory} {name : RawName} {position : SlotPosition}
    {claiming : List Write} {cluster : Nat} (consistent : medium.Consistent volume)
    (vacant : medium.vacancy volume path = .ok (parent, name))
    (claims : medium.Claims volume parent (.ok position) claiming)
    (free : (medium.apply claiming).firstFree volume = some cluster) :
    medium.Completed (medium.apply (claiming ++
      (medium.apply claiming).insertionWrites volume parent name position cluster)) volume path
        cluster := by
  obtain ⟨front, names, awaits⟩ := vacancy_ok vacant
  have settled := claims.settled consistent awaits.reachable
  have before := settled.consistent_after consistent
  have reachable := (settled.sameTree consistent).reachable awaits.reachable
  obtain ⟨data, unlinked⟩ := firstFree_some free
  refine ⟨front, parent, position, name, medium.apply claiming, _, names, awaits, settled, unlinked,
    .of_preparing data List.prefix_rfl,
    .of_preparation before reachable (claims.vacant consistent awaits.reachable)
      awaits.spelled.last free, ?_⟩
  rw [insertionWrites, apply_append, apply_append]
  rfl

/-- A creation that succeeds with a cluster leaves a medium on which the directory of that
path has been completed in this cluster. -/
theorem completed {cluster : Nat} (creates : medium.Creates volume path (.ok cluster) writes)
    (consistent : medium.Consistent volume) :
    medium.Completed (medium.apply writes) volume path cluster := by
  cases creates with
  | created vacant claimed free => exact completed_of_created consistent vacant claimed free

/-- A creation succeeds where its name is vacant, its parent has a free slot and the
volume a free cluster: nothing else can make it fail. -/
theorem succeeds (creates : medium.Creates volume path result writes) {parent : Directory}
    {name : RawName} {position : SlotPosition} {cluster : Nat}
    (vacant : medium.vacancy volume path = .ok (parent, name))
    (slot : (medium.slots volume parent).freeSlot = .ok (some position))
    (free : medium.firstFree volume = some cluster) : result = .ok cluster := by
  have claimed {found : Except Failure SlotPosition} {claiming : List Write}
      (claims : medium.Claims volume parent found claiming) :
      found = .ok position ∧ claiming = [] := by
    cases claims with
    | found vacated =>
      rw [slot] at vacated
      cases vacated
      exact ⟨rfl, rfl⟩
    | grown full => rw [slot] at full; cases full
    | rootFull full => rw [slot] at full; cases full
    | exhausted full => rw [slot] at full; cases full
    | broken breaks => rw [slot] at breaks; cases breaks
  cases creates with
  | refused taken => rw [vacant] at taken; cases taken
  | unclaimed again claims =>
    rw [vacant] at again
    cases again
    cases (claimed claims).1
  | exhausted again claims none =>
    rw [vacant] at again
    cases again
    rw [(claimed claims).2, apply_nil, free] at none
    cases none
  | created again claims found =>
    rw [vacant] at again
    cases again
    rw [(claimed claims).2, apply_nil, free] at found
    cases found
    rfl

/-- Every first part of the writes leaves the tree as it was, or is all of them and has put
the directory into the tree. -/
theorem states (creates : medium.Creates volume path result writes)
    (consistent : medium.Consistent volume) {done : List Write} (begun : done <+: writes) :
    medium.Partway (medium.apply done) volume ∨
      done = writes ∧ ∃ cluster, result = .ok cluster ∧
        medium.Completed (medium.apply done) volume path cluster := by
  cases creates with
  | refused taken =>
    rw [List.prefix_nil.mp begun]
    exact .inl (Settled.refl consistent).partway
  | unclaimed vacant claimed =>
    obtain ⟨_, _, awaits⟩ := vacancy_ok vacant
    exact .inl (claimed.partway consistent awaits.reachable begun)
  | exhausted vacant claimed none =>
    obtain ⟨_, _, awaits⟩ := vacancy_ok vacant
    exact .inl (claimed.partway consistent awaits.reachable begun)
  | @created parent name position claiming cluster vacant claimed free =>
    obtain ⟨_, _, awaits⟩ := vacancy_ok vacant
    -- The writes claim a slot, prepare the cluster and put the entry down. All but the last leave
    -- the tree as it was.
    rcases prefix_append_cases begun with early | ⟨more, rfl, further⟩
    · exact .inl (claimed.partway consistent awaits.reachable early)
    obtain ⟨data, unlinked⟩ := firstFree_some free
    rcases prefix_append_cases further with preparing | ⟨last, rfl, entry⟩
    · rw [apply_append]
      exact .inl (.of_spares (claimed.settled consistent awaits.reachable)
        (.of_preparing data preparing) fun used => used.link_ne_zero unlinked)
    · rcases List.prefix_cons_iff.mp entry with rfl | ⟨rest, rfl, nothing⟩
      · rw [List.append_nil, apply_append]
        exact .inl (.of_spares (claimed.settled consistent awaits.reachable)
          (.of_preparing data List.prefix_rfl) fun used => used.link_ne_zero unlinked)
      · rw [List.prefix_nil.mp nothing]
        exact .inr ⟨rfl, cluster, rfl, completed_of_created consistent vacant claimed free⟩

/-- When nothing cuts the writes of a creation short, all that has been claimed is part of
the tree, whether the creation succeeded or not. -/
theorem accounted (creates : medium.Creates volume path result writes)
    (consistent : medium.Consistent volume) : medium.Accounted (medium.apply writes) volume := by
  cases creates with
  | refused taken => exact (Settled.refl consistent).accounted
  | unclaimed vacant claimed =>
    obtain ⟨_, _, awaits⟩ := vacancy_ok vacant
    exact (claimed.settled consistent awaits.reachable).accounted
  | exhausted vacant claimed none =>
    obtain ⟨_, _, awaits⟩ := vacancy_ok vacant
    exact (claimed.settled consistent awaits.reachable).accounted
  | created vacant claimed free =>
    exact (completed_of_created consistent vacant claimed free).accounted consistent

end Creates

/-- The cluster is claimed in every copy of the table, and holds nothing but zero bytes or
the empty directory that is to stand at a path. -/
def Prepared (original medium : Medium) (volume : Volume) (path : List Char) (cluster : Nat) :
    Prop :=
  medium.Claimed volume cluster ∧ (medium.Blank volume cluster ∨
    ∃ parent name, original.vacancy volume path = .ok (parent, name) ∧
      medium.Filled volume cluster parent)

/-- An empty run of writes has no first part that ends with a write, which settles the
cases in which nothing is written. -/
theorem not_concat_prefix_nil (done : List Write) (write : Write) : ¬ done ++ [write] <+: [] := by
  simp

/-- A write of the growth of a chain brings no cluster into the tree but the fresh one,
and only when that one is claimed in every copy and blank. -/
theorem Growing.prepared {first added : Nat} (growing : medium.Growing volume first added)
    {done : List Write} {write : Write}
    (begun : done ++ [write] <+:
      medium.growthWrites volume (medium.lastCluster volume first) added) {cluster : Nat}
    (used : (medium.apply (done ++ [write])).Used volume cluster) :
    (medium.apply done).Used volume cluster ∨
      (medium.apply done).Claimed volume cluster ∧ (medium.apply done).Blank volume cluster := by
  have still {part : List Write} (early : part <+: medium.freshWrites volume added) :
      (medium.apply part).Used volume cluster ↔ medium.Used volume cluster :=
    (growing.spares early).used_iff growing.consistent growing.unused
  rcases concat_prefix_cases begun with early | ⟨more, rfl, linking⟩
  · rw [still early] at used
    exact .inl ((still ((List.prefix_append _ _).trans early)).mpr used)
  · obtain ⟨copies, stored, same⟩ := linkWrites_prefix linking
    obtain ⟨fewer, _, rfl⟩ := linkWrites_prefix ((List.prefix_append more [write]).trans linking)
    have counted := congrArg List.length same
    simp only [linkWrites, List.length_append, List.length_map, List.length_range,
      List.length_singleton] at counted
    rw [List.append_assoc, same, apply_append] at used
    have grown := (growing.used_iff (by omega) stored).mp used
    rcases Nat.eq_zero_or_pos fewer with rfl | written
    · -- the first copy tells of the fresh cluster
      have none : medium.freshWrites volume added ++ (medium.apply
          (medium.freshWrites volume added)).linkWrites volume (medium.lastCluster volume first)
            (UInt16.ofNat added) 0 = medium.freshWrites volume added := by simp [linkWrites]
      rw [none]
      rcases grown with old | rfl
      · exact .inl ((still List.prefix_rfl).mpr old)
      · exact .inr growing.fresh
    · rw [apply_append]
      exact .inl ((growing.used_iff written (by omega)).mpr grown)

/-- A write of the claim of a slot brings no cluster into the tree unless it is claimed in
every copy and blank by then. -/
theorem Claims.prepared {parent : Directory} {claimed : Except Failure SlotPosition}
    {writes : List Write} (claims : medium.Claims volume parent claimed writes)
    (consistent : medium.Consistent volume) (reachable : medium.Reachable volume parent)
    {done : List Write} {write : Write} (begun : done ++ [write] <+: writes) {cluster : Nat}
    (used : (medium.apply (done ++ [write])).Used volume cluster) :
    (medium.apply done).Used volume cluster ∨
      (medium.apply done).Claimed volume cluster ∧ (medium.apply done).Blank volume cluster := by
  cases claims with
  | grown full free => exact Growing.prepared ⟨consistent, reachable, full, free⟩ begun used
  | found free => exact (not_concat_prefix_nil done write begun).elim
  | rootFull full => exact (not_concat_prefix_nil done write begun).elim
  | exhausted full none => exact (not_concat_prefix_nil done write begun).elim
  | broken breaks => exact (not_concat_prefix_nil done write begun).elim

/-- A write of the insertion brings no cluster into the tree but that of the new
directory, and only when this is claimed in every copy and laid out. -/
theorem prepared_of_insertionWrites {parent : Directory} {name : RawName}
    {position : SlotPosition} {number : Nat} (consistent : medium.Consistent volume)
    (reachable : medium.Reachable volume parent)
    (vacant : (medium.slots volume parent).freeSlot = .ok (some position))
    (canonical : ShortName.Canonical name) (free : medium.firstFree volume = some number)
    {done : List Write} {write : Write}
    (begun : done ++ [write] <+: medium.insertionWrites volume parent name position number)
    {cluster : Nat} (used : (medium.apply (done ++ [write])).Used volume cluster) :
    (medium.apply done).Used volume cluster ∨
      (medium.apply done).Claimed volume cluster ∧ (medium.apply done).Filled volume cluster parent := by
  obtain ⟨data, unlinked⟩ := firstFree_some free
  have still {part : List Write}
      (preparing : part <+: medium.preparationWrites volume number parent) :
      (medium.apply part).Used volume cluster ↔ medium.Used volume cluster :=
    (Spares.of_preparing data preparing).used_iff consistent fun used => used.link_ne_zero unlinked
  rcases concat_prefix_cases begun with preparing | ⟨last, rfl, entry⟩
  · rw [still preparing] at used
    exact .inl ((still ((List.prefix_append _ _).trans preparing)).mpr used)
  · obtain ⟨rfl, rfl⟩ : last = [] ∧ write = _ := by
      rcases List.prefix_cons_iff.mp entry with none | ⟨rest, whole, nothing⟩
      · exact absurd none (List.append_ne_nil_of_right_ne_nil last (List.cons_ne_nil write []))
      · rw [List.prefix_nil.mp nothing] at whole
        exact List.append_singleton_inj.mp (whole : last ++ [write] = [] ++ [_])
    rw [List.append_nil, apply_append] at used
    rw [List.append_nil]
    have insertion := Insertion.of_preparation consistent reachable vacant canonical free
    rcases insertion.used_iff.mp used with old | rfl
    · exact .inl old
    · exact .inr ⟨.of_claiming data fun _ => mem_initialWrites, insertion.filled⟩

/-- Whichever write of a creation brings a cluster into the tree, the cluster was prepared
before: claimed in every copy, and blank or laid out as an empty directory. -/
theorem Creates.prepared {path : List Char} {result : Except Failure Nat} {writes : List Write}
    (creates : medium.Creates volume path result writes) (consistent : medium.Consistent volume)
    {done : List Write} {write : Write} (begun : done ++ [write] <+: writes) {cluster : Nat}
    (used : (medium.apply (done ++ [write])).Used volume cluster) :
    (medium.apply done).Used volume cluster ∨
      medium.Prepared (medium.apply done) volume path cluster := by
  have claiming {parent : Directory} {name : RawName} {claimed : Except Failure SlotPosition}
      {part : List Write} (vacant : medium.vacancy volume path = .ok (parent, name))
      (claims : medium.Claims volume parent claimed part) (early : done ++ [write] <+: part) :
      (medium.apply done).Used volume cluster ∨
        medium.Prepared (medium.apply done) volume path cluster := by
    obtain ⟨_, _, awaits⟩ := vacancy_ok vacant
    rcases claims.prepared consistent awaits.reachable early used with old | ⟨claimed, blank⟩
    · exact .inl old
    · exact .inr ⟨claimed, .inl blank⟩
  cases creates with
  | refused taken => exact (not_concat_prefix_nil done write begun).elim
  | unclaimed vacant claimed => exact claiming vacant claimed begun
  | exhausted vacant claimed none => exact claiming vacant claimed begun
  | @created parent name position first number vacant claimed free =>
    rcases concat_prefix_cases begun with early | ⟨more, rfl, further⟩
    · exact claiming vacant claimed early
    obtain ⟨_, _, awaits⟩ := vacancy_ok vacant
    have settled := claimed.settled consistent awaits.reachable
    have reachable := (settled.sameTree consistent).reachable awaits.reachable
    rw [List.append_assoc, apply_append] at used
    rw [apply_append]
    rcases prepared_of_insertionWrites (settled.consistent_after consistent) reachable
      (claimed.vacant consistent awaits.reachable) awaits.spelled.last free further used with
      old | ⟨claimed, filled⟩
    · exact .inl old
    · exact .inr ⟨claimed, .inr ⟨parent, name, vacant, filled⟩⟩

end Medium

end FatVolume
