import FatVolume.Proofs.Contents
import FatVolume.Proofs.Entries

/-!
# Media that agree on some clusters

What is read of a chain depends on the links and sectors of the clusters that it comes
through and on nothing else. Two media that agree on a set of clusters which no link
leaves therefore show the same chains, slots, entries and contents from each cluster of
the set, whatever they hold elsewhere.
-/

namespace FatVolume.Medium

/-- The media have the same links and sectors for the clusters of a set, and no link of
the set leads out of it. -/
structure AgreesOn (medium changed : Medium) (volume : Volume) (held : Nat → Prop) : Prop where
  link : ∀ cluster, held cluster → changed.link volume cluster = medium.link volume cluster
  sector : ∀ cluster, held cluster → ∀ sector < volume.sectorsPerCluster,
    changed (volume.clusterStart cluster + sector) = medium (volume.clusterStart cluster + sector)
  closed : ∀ cluster successor, held cluster →
    medium.follow volume cluster = .ok (some successor) → held successor

variable {medium changed : Medium} {volume : Volume} {held : Nat → Prop}

/-- The slots of a cluster are told by its sectors: media with the same sectors there have
the same slots. -/
theorem clusterSlots_congr {cluster : Nat} (same : ∀ sector < volume.sectorsPerCluster,
    changed (volume.clusterStart cluster + sector) = medium (volume.clusterStart cluster + sector)) :
    changed.clusterSlots volume cluster = medium.clusterSlots volume cluster := by
  simp only [Medium.clusterSlots, Medium.slotsFrom]
  apply List.flatMap_congr
  intro sector member
  have within := (List.mem_range'_1.mp member).2
  simp only [sectorSlots, slotAt]
  rw [same sector (by omega)]

/-- No link leads out of a chain that is intact: from a cluster of it one comes to the
next, or to its end. -/
theorem ChainFrom.closed {first cluster successor : Nat} {clusters : List Nat}
    (chain : medium.ChainFrom volume first clusters) (member : cluster ∈ clusters)
    (followed : medium.follow volume cluster = .ok (some successor)) : successor ∈ clusters := by
  induction chain with
  | last data ends =>
    rw [List.mem_singleton.mp member, follow_of_ends ends] at followed
    cases followed
  | next data linked chain inductionHypothesis =>
    rcases List.mem_cons.mp member with rfl | later
    · rw [follow_of_linked chain.first_data linked] at followed
      cases followed
      exact List.mem_cons_of_mem _ chain.first_mem
    · exact List.mem_cons_of_mem _ (inductionHypothesis later)

/-- From a cluster of a set that no link leaves, links that lead the same way lead to the same
clusters, all of them in the set. -/
theorem beyond_congr
    (same : ∀ cluster, held cluster → changed.follow volume cluster = medium.follow volume cluster)
    (closed : ∀ cluster successor, held cluster →
      medium.follow volume cluster = .ok (some successor) → held successor)
    (links : Nat) {cluster : Nat} (inside : held cluster) :
    changed.beyond volume links cluster = medium.beyond volume links cluster ∧
      ∀ later ∈ (medium.beyond volume links cluster).items, held later := by
  -- Each link leads to a cluster on which the media agree, so the next one is read alike too.
  induction links generalizing cluster with
  | zero =>
    rw [beyond, beyond, same cluster inside]
    split
    · exact ⟨rfl, by simp⟩
    · exact ⟨rfl, by simp⟩
    · exact ⟨rfl, by simp⟩
  | succ links inductionHypothesis =>
    rw [beyond, beyond, same cluster inside]
    cases followed : medium.follow volume cluster with
    | error failure => exact ⟨rfl, by simp⟩
    | ok link =>
      cases link with
      | none => exact ⟨rfl, by simp⟩
      | some successor =>
        have entered := closed cluster successor inside followed
        obtain ⟨alike, further⟩ := inductionHypothesis entered
        dsimp only
        constructor
        · rw [alike]
        · intro later member
          rcases List.mem_cons.mp member with rfl | behind
          · exact entered
          · exact further later behind

namespace AgreesOn

variable (agrees : medium.AgreesOn changed volume held)
include agrees

/-- Links of clusters in the set lead to the same cluster on both media, or fail alike. -/
theorem follow {cluster : Nat} (inside : held cluster) :
    changed.follow volume cluster = medium.follow volume cluster := by
  simp only [Medium.follow]
  rw [agrees.link cluster inside]

/-- A chain that starts inside the set is a chain of both media, since links lead from the
set into the set. -/
theorem chain {first : Nat} {clusters : List Nat} (chain : medium.ChainFrom volume first clusters)
    (inside : held first) : changed.ChainFrom volume first clusters := by
  induction chain with
  | last data ends => exact .last data (by rwa [agrees.link _ inside])
  | next data linked chain inductionHypothesis =>
    have followed := follow_of_linked chain.first_data linked
    exact .next data (by rwa [agrees.link _ inside])
      (inductionHypothesis (agrees.closed _ _ inside followed))

/-- The clusters behind a cluster of the set are those of both media, and all of them are
in the set. The induction is on the links that may be followed. -/
theorem beyond (links : Nat) {cluster : Nat} (inside : held cluster) :
    changed.beyond volume links cluster = medium.beyond volume links cluster ∧
      ∀ later ∈ (medium.beyond volume links cluster).items, held later :=
  beyond_congr (fun _ => agrees.follow) agrees.closed links inside

/-- The slots of a cluster of the set are the same on both media. -/
theorem clusterSlots {cluster : Nat} (inside : held cluster) :
    changed.clusterSlots volume cluster = medium.clusterSlots volume cluster :=
  clusterSlots_congr (agrees.sector cluster inside)

/-- A directory whose first cluster is in the set has the same slots on both media, and
breaks off alike. -/
theorem slots {first : Nat} (inside : held first) :
    changed.slots volume (.chain first) = medium.slots volume (.chain first) := by
  simp only [Medium.slots]
  split
  · rfl
  · obtain ⟨same, further⟩ := agrees.beyond (volume.clusterCount - 1) inside
    rw [same, Course.flatMap_behind, Course.flatMap_behind, List.flatMap_singleton,
      List.flatMap_singleton, agrees.clusterSlots inside]
    simp only [Course.flatMap]
    rw [List.flatMap_congr fun later member => agrees.clusterSlots (further later member)]

/-! ### Contents -/

/-- A move to the next cluster is the same on both media, stays in the set, and comes to
the first byte of a cluster. -/
theorem hop {place : ChainPlace} (inside : held place.cluster) :
    changed.hop volume place = medium.hop volume place ∧
      ∀ next, medium.hop volume place = .ok next → held next.cluster ∧ next.position = 0 := by
  simp only [Medium.hop]
  rw [agrees.follow inside]
  constructor
  · rfl
  · intro next hopped
    split at hopped
    · cases followed : medium.follow volume place.cluster with
      | error failure => rw [followed] at hopped; cases hopped
      | ok link =>
        rw [followed] at hopped
        cases link with
        | none => cases hopped
        | some successor =>
          cases hopped
          exact ⟨agrees.closed _ _ inside followed, rfl⟩
    · cases hopped

/-- Skipping clusters leads to the same place on both media, inside the set, or fails
alike. -/
theorem skip (clusters : Nat) {place : ChainPlace} (inside : held place.cluster) :
    changed.skip volume clusters place = medium.skip volume clusters place ∧
      ∀ next, medium.skip volume clusters place = .ok next → held next.cluster := by
  induction clusters generalizing place with
  | zero =>
    constructor
    · rfl
    · intro next skipped
      cases skipped
      exact inside
  | succ clusters inductionHypothesis =>
    obtain ⟨same, entered⟩ := agrees.hop inside
    simp only [Medium.skip]
    rw [same]
    cases hopped : medium.hop volume place with
    | error failure => exact ⟨rfl, fun next skipped => by cases skipped⟩
    | ok next => exact inductionHypothesis (entered next hopped).1

/-- Moving on to where the next bytes lie is the same on both media. It ends inside a
cluster of the set. -/
theorem onward {place : ChainPlace} (inside : held place.cluster) :
    changed.onward volume place = medium.onward volume place ∧
      ∀ here, medium.onward volume place = .ok here →
        held here.cluster ∧ here.position < volume.clusterBytes := by
  simp only [Medium.onward]
  split
  · next within =>
    constructor
    · rfl
    · intro here same
      cases same
      exact ⟨inside, within⟩
  · obtain ⟨same, entered⟩ := agrees.hop inside
    refine ⟨same, fun here hopped => ?_⟩
    obtain ⟨member, first⟩ := entered here hopped
    exact ⟨member, first ▸ volume.usable.clusterBytes_pos⟩

/-- The sectors from which bytes are copied lie in clusters on which the media agree, so
the same bytes are copied. -/
theorem copyBytes (length : Nat) (place : ChainPlace) (copied : Array UInt8)
    (inside : held place.cluster) :
    changed.copyBytes volume length place copied = medium.copyBytes volume length place copied := by
  -- Every cluster from which bytes are taken is one on which the media agree.
  fun_induction Medium.copyBytes medium volume length place copied with
  | case1 place copied wanted inductionHypothesis =>
    obtain ⟨same, entered⟩ := agrees.onward inside
    rw [Medium.copyBytes, dif_pos wanted, same]
    refine bind_congr_ok fun here reached => ?_
    obtain ⟨member, within⟩ := entered here reached
    have clustered : here.position / 512 < volume.sectorsPerCluster := by
      simp only [Layout.clusterBytes] at within
      omega
    dsimp only
    rw [agrees.sector here.cluster member _ clustered]
    exact inductionHypothesis here member
  | case2 place copied enough => rw [Medium.copyBytes, dif_neg enough]

/-- A part of a chain that starts in the set reads alike on both media, bytes and
failures. -/
theorem content {first : Nat} (offset length : Nat) (inside : held first) :
    changed.content volume first offset length = medium.content volume first offset length := by
  have begun : held (ChainPlace.mk first 0 0).cluster := inside
  obtain ⟨same, entered⟩ := agrees.skip (offset / volume.clusterBytes) begun
  simp only [Medium.content]
  rw [same]
  cases skipped : medium.skip volume (offset / volume.clusterBytes) ⟨first, 0, 0⟩ with
  | error failure => rfl
  | ok place =>
    have bytes (position : Nat) :=
      agrees.copyBytes length { place with position } #[] (entered place skipped)
    simp only [bind, Except.bind, bytes]

end AgreesOn

end FatVolume.Medium
