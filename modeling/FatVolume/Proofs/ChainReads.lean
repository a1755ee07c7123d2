import FatVolume.Proofs.ChainBytes
import FatVolume.Proofs.Confinement.Requests
import FatVolume.Proofs.Enumeration
import FatVolume.Proofs.Service

/-!
# Reads along the links of a medium

What a read comes to is a matter of the links from its first cluster. Where they lead to the
cluster of the last byte, over fewer hops than the volume has clusters, the read returns the
bytes of the clusters that they lead through, even if some of these are met again. Where they
do not, the read fails, and its failure tells how the links end.

One end is told wrongly. The hops are counted before a link is followed, so behind a chain
that has all clusters of the volume a read is told that the chain is broken, instead of that
it is too short.
-/

namespace FatVolume

namespace Medium

/-- The byte at a position of a cluster. -/
def clusterByte (medium : Medium) (volume : Volume) (cluster position : Nat) : UInt8 :=
  (medium (volume.clusterStart cluster + position / 512)).get
    ⟨position % 512, Sector.position_lt position⟩

variable {medium : Medium} {volume : Volume}

/-! ## Hops -/

/-- A hop along a link to a data cluster comes to the start of that cluster, as long as
one more hop is allowed. -/
theorem hop_of_linked {cluster successor position hops : Nat} (next : volume.DataCluster successor)
    (linked : (medium.link volume cluster).toNat = successor)
    (room : hops + 1 < volume.clusterCount) :
    medium.hop volume ⟨cluster, position, hops⟩ = .ok ⟨successor, 0, hops + 1⟩ := by
  simp only [hop]
  rw [if_pos room, follow_of_linked next linked]
  rfl

/-- At the last cluster of a chain a hop is refused, as the end of a chain where one more
hop is allowed, and as a broken chain where none is. -/
theorem hop_of_ends {cluster position hops : Nat}
    (ends : Link.endsChain (medium.link volume cluster) = true) :
    medium.hop volume ⟨cluster, position, hops⟩ =
      .error (if hops + 1 < volume.clusterCount then .chainTooShort else .brokenChain) := by
  simp only [hop]
  split
  · rw [follow_of_ends ends]
    rfl
  · rfl

/-- A hop that is made follows the link of its cluster to a data cluster, counts as one,
and is one of those that are allowed. -/
theorem linked_of_hop {place next : ChainPlace} (hopped : medium.hop volume place = .ok next) :
    volume.DataCluster next.cluster ∧
      (medium.link volume place.cluster).toNat = next.cluster ∧
      next.hops = place.hops + 1 ∧ next.hops < volume.clusterCount := by
  have followed := (hop_ok hopped).1
  refine ⟨follow_data followed, linked_of_follow followed, ?_⟩
  simp only [hop] at hopped
  split at hopped
  · next room =>
    rw [followed] at hopped
    have counted : place.hops + 1 = next.hops := congrArg ChainPlace.hops (Except.ok.inj hopped)
    exact ⟨counted.symm, counted ▸ room⟩
  · cases hopped

/-! ## Skipping along a trail -/

namespace Trail

variable {first value : Nat} {clusters : List Nat}

/-- The links of a trail are skipped without a failure up to its last cluster, as long as
so many hops are allowed. -/
theorem skip_within (trail : medium.Trail volume first clusters value) {links position hops : Nat}
    (inside : links < clusters.length) (room : hops + links < volume.clusterCount) :
    ∃ next, medium.skip volume links ⟨first, position, hops⟩ = .ok next := by
  induction trail generalizing links position hops with
  | stop data =>
    obtain rfl : links = 0 := Nat.lt_one_iff.mp inside
    exact ⟨_, rfl⟩
  | step data linked trail inductionHypothesis =>
    cases links with
    | zero => exact ⟨_, rfl⟩
    | succ links =>
      rw [skip, hop_of_linked trail.first_data linked (by omega)]
      exact inductionHypothesis (Nat.lt_of_succ_lt_succ inside) (by omega)

/-- Following so many links from the first cluster of a trail leads to the cluster that
stands there in the trail. -/
theorem getElem?_eq_passed (trail : medium.Trail volume first clusters value) {links : Nat}
    (inside : links < clusters.length) :
    clusters[links]? = some (medium.passed volume links first) := by
  induction trail generalizing links with
  | stop data =>
    obtain rfl : links = 0 := Nat.lt_one_iff.mp inside
    rfl
  | step data linked trail inductionHypothesis =>
    cases links with
    | zero => rfl
    | succ links =>
      rw [List.getElem?_cons_succ, passed, follow_of_linked trail.first_data linked]
      exact inductionHypothesis (Nat.lt_of_succ_lt_succ inside)

end Trail

/-- When links are skipped without a failure, they form a trail of one cluster more than
there are links, and that many hops are allowed. -/
theorem trail_of_skip {links : Nat} {place next : ChainPlace}
    (data : volume.DataCluster place.cluster) (begun : place.hops < volume.clusterCount)
    (skipped : medium.skip volume links place = .ok next) :
    place.hops + links < volume.clusterCount ∧
      ∃ clusters value, medium.Trail volume place.cluster clusters value ∧
        clusters.length = links + 1 := by
  -- Each hop adds one cluster in front of the trail of the others.
  induction links generalizing place with
  | zero => exact ⟨begun, _, _, .stop data, rfl⟩
  | succ links inductionHypothesis =>
    obtain ⟨between, hopped, skipped⟩ := ok_of_bind skipped
    obtain ⟨onward, linked, counted, allowed⟩ := linked_of_hop hopped
    obtain ⟨room, clusters, value, trail, length⟩ := inductionHypothesis onward allowed skipped
    refine ⟨by omega, place.cluster :: clusters, value, .step data linked trail, ?_⟩
    rw [List.length_cons, length]

/-- An intact chain is a trail, the last link of which is one of the marks that end a
chain. -/
theorem ChainFrom.trail {first : Nat} {clusters : List Nat}
    (chain : medium.ChainFrom volume first clusters) :
    ∃ value, 0xFFF8 ≤ value ∧ medium.Trail volume first clusters value := by
  induction chain with
  | last data ends => exact ⟨_, (Link.endsChain_iff _).mp ends, .stop data⟩
  | next data linked _ inductionHypothesis =>
    obtain ⟨value, ends, trail⟩ := inductionHypothesis
    exact ⟨value, ends, .step data linked trail⟩

/-- Skipping more links than an intact chain has stops at its end if one more hop is
allowed there, and counts as a broken chain otherwise. -/
theorem ChainFrom.skip_behind {first : Nat} {clusters : List Nat}
    (chain : medium.ChainFrom volume first clusters) {links position hops : Nat}
    (behind : clusters.length ≤ links) (room : hops + clusters.length ≤ volume.clusterCount) :
    medium.skip volume links ⟨first, position, hops⟩ =
      .error (if hops + clusters.length < volume.clusterCount then .chainTooShort
        else .brokenChain) := by
  -- A hop takes one cluster from the chain and one from the hops that are left, so the end
  -- decides.
  induction chain generalizing links position hops with
  | last data ends =>
    obtain ⟨further, rfl⟩ := Nat.exists_eq_add_of_le' behind
    rw [List.length_singleton, skip, hop_of_ends ends]
    rfl
  | @next cluster successor rest data linked chain inductionHypothesis =>
    rw [List.length_cons] at behind room ⊢
    have nonempty := List.length_pos_of_mem chain.first_mem
    obtain ⟨further, rfl⟩ := Nat.exists_eq_add_of_le' (Nat.le_trans (Nat.le_add_left 1 _) behind)
    rw [skip, hop_of_linked chain.first_data linked (by omega)]
    change medium.skip volume further _ = _
    rw [inductionHypothesis (by omega) (by omega), Nat.add_assoc, Nat.add_comm 1]

/-! ## What is read -/

/-- Reading from a data cluster on ends as skipping the links to the cluster of the last
byte does; when these are skipped, all bytes are read. -/
theorem content_of_data {first offset length : Nat} (data : volume.DataCluster first)
    (asked : 0 < length) :
    medium.content volume first offset length =
      medium.skip volume ((offset + length - 1) / volume.clusterBytes) ⟨first, 0, 0⟩ >>= fun _ =>
        .ok (medium.chainBytes volume first offset length) := by
  rw [content_eq first offset asked, reach, (Layout.checkCluster_ok_iff first).mpr data]
  change (medium.skip volume _ _ >>= fun _ => Except.ok ()) >>= _ = _
  rw [bind_assoc]
  rfl

/-- A byte of a chain is the byte of the cluster to which as many links lead as there are
full clusters in front of it. -/
theorem chainByte_eq (medium : Medium) (volume : Volume) (first position : Nat) :
    medium.chainByte volume first position =
      medium.clusterByte volume (medium.passed volume (position / volume.clusterBytes) first)
        (position % volume.clusterBytes) := by
  have same : position % volume.clusterBytes % 512 = position % 512 :=
    Nat.mod_mod_of_dvd position (Nat.dvd_mul_left 512 volume.sectorsPerCluster)
  simp only [chainByte, clusterByte, same]

end Medium

namespace Volume

variable {volume : Volume} {host : Host} {first offset length : Nat}

/-- A read that no host disturbs ends as skipping the links to the cluster of its last
byte does, and then gives the bytes of the chain. -/
theorem readContent_outcome (sized : host.disk.sectorSize = 512)
    (data : volume.DataCluster first) (asked : 0 < length)
    (undisturbed : host.Undisturbed (afterwards (volume.readContent first offset length) host)) :
    outcome (volume.readContent first offset length) host =
      host.medium.skip volume ((offset + length - 1) / volume.clusterBytes) ⟨first, 0, 0⟩ >>=
        fun _ => .ok (host.medium.chainBytes volume first offset length) := by
  rw [← Medium.content_of_data data asked]
  exact ((readContent_reads first offset length host rfl).carriedOut sized undisturbed).1

/-- A volume has one data cluster at least, so that a chain of one cluster needs no hop
that is not allowed. -/
theorem clusterCount_pos (volume : Volume) : 0 < volume.clusterCount :=
  Nat.sub_pos_of_lt volume.usable.two_le_maxCluster

/-- An undisturbed read succeeds exactly where the links lead to the cluster of its last byte
over fewer hops than the volume has clusters. Each byte that it returns is the one at its place
in the cluster to which as many links lead as there are whole clusters in front of it. -/
theorem readContent_exact (sized : host.disk.sectorSize = 512)
    (data : volume.DataCluster first) (asked : 0 < length)
    (undisturbed : host.Undisturbed (afterwards (volume.readContent first offset length) host)) :
    let last := (offset + length - 1) / volume.clusterBytes
    ((∃ bytes, outcome (volume.readContent first offset length) host = .ok bytes) ↔
      last < volume.clusterCount ∧ ∃ clusters value,
        host.medium.Trail volume first clusters value ∧ clusters.length = last + 1) ∧
    ∀ bytes, outcome (volume.readContent first offset length) host = .ok bytes →
      bytes.size = length ∧ ∀ clusters value, host.medium.Trail volume first clusters value →
        clusters.length = last + 1 → ∀ byte < length,
          ∃ cluster, clusters[(offset + byte) / volume.clusterBytes]? = some cluster ∧
            bytes[byte]? = some
              (host.medium.clusterByte volume cluster ((offset + byte) % volume.clusterBytes)) := by
  intro last
  rw [readContent_outcome sized data asked undisturbed]
  refine ⟨⟨fun ⟨bytes, read⟩ => ?_, fun ⟨room, clusters, value, trail, counted⟩ => ?_⟩,
    fun bytes read => ?_⟩
  · obtain ⟨next, skipped, _⟩ := ok_of_bind read
    have allowed := Medium.trail_of_skip data volume.clusterCount_pos skipped
    rwa [Nat.zero_add] at allowed
  · obtain ⟨next, skipped⟩ : ∃ next, host.medium.skip volume last ⟨first, 0, 0⟩ = .ok next :=
      trail.skip_within (by omega) (by omega)
    exact ⟨_, by rw [skipped]; rfl⟩
  · obtain ⟨_, _, same⟩ := ok_of_bind read
    cases same
    refine ⟨Medium.chainBytes_size first offset length, fun clusters value trail counted byte
      inside => ?_⟩
    have before : (offset + byte) / volume.clusterBytes ≤ last :=
      Nat.div_le_div_right (by omega)
    refine ⟨_, trail.getElem?_eq_passed (by omega), ?_⟩
    rw [← Medium.chainByte_eq, Medium.chainBytes, Array.getElem?_ofFn, dif_pos inside]

/-- On the disk with two linked clusters the chain from the first of them consists of
these two. -/
theorem linkedHost_chain : Cursor.linkedHost.medium.ChainFrom .small 2 [2, 5] := by
  have led : (Cursor.linkedHost.medium.link .small 2).toNat = 5 := by decide +kernel
  have ends : Link.endsChain (Cursor.linkedHost.medium.link .small 5) = true := by decide +kernel
  exact .next ⟨by decide, by decide⟩ led (.last ⟨by decide, by decide⟩ ends)

/-- The disk with two linked clusters serves the small volume: its sectors are of the
expected size, and no transfer of it fails. -/
theorem linkedHost_serves : Cursor.linkedHost.Serves .small :=
  .of_capacity rfl (by decide) fun _ _ => rfl

/-- A host that serves a volume disturbs no read of fewer than four gibibytes from any
cluster of it. -/
theorem readContent_undisturbed (serves : host.Serves volume) (bounded : length < 2 ^ 32) :
    host.Undisturbed (afterwards (volume.readContent first offset length) host) :=
  have confined : Confined volume.toLayout AnyTransfer _ _ :=
    readContent_confined (fun _ => trivial) first offset bounded
  (confined host).1.served serves

/-- On the disk with two linked clusters, seven hundred bytes from position one thousand
on are read: the last ones of one cluster and the first ones of the next. -/
theorem readContent_exact_linked :
    let host := Cursor.linkedHost
    host.disk.sectorSize = 512 ∧ small.DataCluster 2 ∧
      host.Undisturbed (afterwards (small.readContent 2 1000 700) host) ∧
      ∃ bytes, outcome (small.readContent 2 1000 700) host = .ok bytes ∧ bytes.size = 700 ∧
        ∀ byte < 700, ∃ cluster, [2, 5][(1000 + byte) / 1024]? = some cluster ∧
          bytes[byte]? =
            some (host.medium.clusterByte .small cluster ((1000 + byte) % 1024)) := by
  intro host
  have data : small.DataCluster 2 := linkedHost_chain.first_data
  have calm : host.Undisturbed (afterwards (small.readContent 2 1000 700) host) :=
    readContent_undisturbed linkedHost_serves (by decide)
  obtain ⟨succeeds, returned⟩ := readContent_exact rfl data (by decide) calm
  obtain ⟨value, _, trail⟩ := linkedHost_chain.trail
  obtain ⟨bytes, read⟩ := succeeds.mpr ⟨by decide, [2, 5], _, trail, rfl⟩
  obtain ⟨size, told⟩ := returned bytes read
  exact ⟨rfl, data, calm, bytes, read, size, told [2, 5] value trail rfl⟩

/-- An undisturbed read behind an intact chain is told that the chain is too short, as long as
the chain has fewer clusters than the volume. A chain is told to be broken only if links that
the read needs come to a value that cannot be followed or back to a cluster, or if it is intact
and has all clusters of the volume. -/
theorem readContent_classifies (sized : host.disk.sectorSize = 512)
    (data : volume.DataCluster first) (asked : 0 < length)
    (undisturbed : host.Undisturbed (afterwards (volume.readContent first offset length) host)) :
    (∀ clusters, host.medium.ChainFrom volume first clusters → clusters.Nodup →
      clusters.length * volume.clusterBytes < offset + length →
        outcome (volume.readContent first offset length) host =
          .error (if clusters.length < volume.clusterCount then .chainTooShort
            else .brokenChain)) ∧
    (outcome (volume.readContent first offset length) host = .error .brokenChain →
      ∃ clusters value, host.medium.Trail volume first clusters value ∧ clusters.Nodup ∧
        clusters.length ≤ (offset + length - 1) / volume.clusterBytes ∧
        (value < 0xFFF8 ∧ ¬ volume.DataCluster value ∨ value ∈ clusters ∨
          0xFFF8 ≤ value ∧ clusters.length = volume.clusterCount)) := by
  rw [readContent_outcome sized data asked undisturbed]
  constructor
  · intro clusters chain distinct beyond
    have behind : clusters.length ≤ (offset + length - 1) / volume.clusterBytes :=
      (Nat.le_div_iff_mul_le volume.usable.clusterBytes_pos).mpr (by omega)
    have room := chain.length_le distinct
    rw [chain.skip_behind behind (by rwa [Nat.zero_add]), Nat.zero_add]
    rfl
  · intro failed
    obtain ⟨clusters, value, trail, distinct, ends⟩ :=
      (Medium.Trail.stop data : host.medium.Trail volume first _ _).exists_ending
        (List.nodup_singleton first)
    have room := Medium.length_le_clusterCount trail.data distinct
    have behind : clusters.length ≤ (offset + length - 1) / volume.clusterBytes := by
      -- If the cluster of the last byte were among them, the read would have succeeded.
      by_contra inside
      obtain ⟨next, skipped⟩ : ∃ next, host.medium.skip volume
          ((offset + length - 1) / volume.clusterBytes) ⟨first, 0, 0⟩ = .ok next :=
        trail.skip_within (Nat.not_le.mp inside) (by omega)
      rw [skipped] at failed
      cases failed
    refine ⟨clusters, value, trail, distinct, behind, ?_⟩
    rcases ends with other | back
    · by_cases low : value < 0xFFF8
      · exact .inl ⟨low, other⟩
      · have ended := Nat.not_lt.mp low
        rw [(trail.chain ended).skip_behind behind (by rwa [Nat.zero_add]), Nat.zero_add] at failed
        split at failed
        · cases failed
        · next full => exact .inr (.inr ⟨ended, Nat.le_antisymm room (Nat.not_lt.mp full)⟩)
    · exact .inr (.inl back)

/-- On the disk with two linked clusters, the chain is too short for a byte that would lie
in a third one. -/
theorem readContent_classifies_linked :
    let host := Cursor.linkedHost
    host.disk.sectorSize = 512 ∧ small.DataCluster 2 ∧
      host.Undisturbed (afterwards (small.readContent 2 2048 1) host) ∧
      host.medium.ChainFrom .small 2 [2, 5] ∧
      outcome (small.readContent 2 2048 1) host = .error .chainTooShort := by
  intro host
  have calm : host.Undisturbed (afterwards (small.readContent 2 2048 1) host) :=
    readContent_undisturbed linkedHost_serves (by decide)
  have told := (readContent_classifies rfl linkedHost_chain.first_data (by decide) calm).1
    [2, 5] linkedHost_chain (by decide) (by decide)
  rw [if_pos (by decide)] at told
  exact ⟨rfl, linkedHost_chain.first_data, calm, linkedHost_chain, told⟩

/-- A volume with two clusters. -/
def narrow : Volume where
  base := 0
  sectorsPerCluster := 2
  reservedSectors := 1
  tableCopies := 2
  rootEntries := 16
  tableSectors := 1
  totalSectors := 8
  usable := by constructor <;> decide

/-- A host with a disk of eight sectors on which a chain leads from cluster 2 to cluster 3 and
ends there. -/
def filledHost : Host where
  disk :=
    { capacity := 8
      contents := (∅ : Std.TreeMap Nat Sector).insert 1
        ((Sector.zero.setWord (Layout.linkIndex 2) 3).setWord (Layout.linkIndex 3) 0xFFFF) }
  largestBlock := 4096

/-- Behind an intact chain that has all clusters of the volume, a read is told that the chain
is broken. No link of it is, and none leads back. -/
theorem filledHost_told_broken :
    filledHost.medium.ChainFrom narrow 2 [2, 3] ∧ [2, 3].Nodup ∧
      [2, 3].length = narrow.clusterCount ∧ [2, 3].length * narrow.clusterBytes < 0 + 2049 ∧
      filledHost.Serves narrow ∧
      outcome (narrow.readContent 2 0 2049) filledHost = .error .brokenChain ∧
      outcome (narrow.readContent 2 0 2049) filledHost ≠ .error .chainTooShort := by
  have led : (filledHost.medium.link narrow 2).toNat = 3 := by decide +kernel
  have ends : Link.endsChain (filledHost.medium.link narrow 3) = true := by decide +kernel
  have chain : filledHost.medium.ChainFrom narrow 2 [2, 3] :=
    .next ⟨by decide, by decide⟩ led (.last ⟨by decide, by decide⟩ ends)
  have serves : filledHost.Serves narrow :=
    { sized := rfl
      reached := fun _ owned => Nat.lt_of_lt_of_le owned.lt_dataEnd (by decide)
      granted := fun _ _ _ => rfl }
  have calm : filledHost.Undisturbed (afterwards (narrow.readContent 2 0 2049) filledHost) :=
    readContent_undisturbed serves (by decide)
  have told : outcome (narrow.readContent 2 0 2049) filledHost = .error .brokenChain := by
    rw [readContent_outcome rfl chain.first_data (by decide) calm,
      chain.skip_behind (by decide) (by decide), if_neg (by decide)]
    rfl
  exact ⟨chain, by decide, by decide, by decide, serves, told, by rw [told]; nofun⟩

end Volume

end FatVolume
