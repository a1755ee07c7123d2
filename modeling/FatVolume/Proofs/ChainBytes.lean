import FatVolume.Proofs.Contents

/-!
# The bytes of a chain

A chain is a sequence of bytes: position after position of its clusters in the order of the
links. What a read returns is a part of that sequence. It fails for one reason only, that
the links do not lead to the cluster of its last byte, and how it fails depends on that
cluster alone. How the read comes there does not matter, whether it skips clusters or reads
them.
-/

namespace FatVolume

namespace Medium

variable (medium : Medium) (volume : Volume)

/-- The cluster to which so many links lead, or the last one that they lead to. -/
def passed : Nat → Nat → Nat
  | 0, cluster => cluster
  | links + 1, cluster =>
    match medium.follow volume cluster with
    | .ok (some successor) => passed links successor
    | _ => cluster

/-- The byte at a position of the chain from a cluster. -/
def chainByte (first position : Nat) : UInt8 :=
  let cluster := medium.passed volume (position / volume.clusterBytes) first
  (medium (volume.clusterStart cluster + position % volume.clusterBytes / 512)).get
    ⟨position % 512, Sector.position_lt position⟩

/-- So many bytes of the chain from a cluster, from a position on. -/
def chainBytes (first position length : Nat) : Array UInt8 :=
  .ofFn fun byte : Fin length => medium.chainByte volume first (position + byte)

/-- The links from a cluster are followed as far as the cluster of a position. -/
def reach (first position : Nat) : Except Failure Unit := do
  volume.checkCluster first
  let _ ← medium.skip volume (position / volume.clusterBytes) ⟨first, 0, 0⟩

variable {medium volume}

/-! ## Skipping clusters -/

/-- Skipping clusters can be done in two parts, the second one from where the first one
has led. -/
theorem skip_add (clusters further : Nat) (place : ChainPlace) :
    medium.skip volume (clusters + further) place =
      medium.skip volume clusters place >>= medium.skip volume further := by
  induction clusters generalizing place with
  | zero =>
    rw [Nat.zero_add]
    rfl
  | succ clusters inductionHypothesis =>
    rw [Nat.succ_add]
    simp only [skip, bind_assoc]
    exact bind_congr inductionHypothesis

/-- The links that are followed do not depend on the byte at which one stands, so whether
clusters can be skipped is a matter of the cluster alone. -/
theorem skip_position {α : Type} (clusters position : Nat) (place : ChainPlace) (result : α) :
    (medium.skip volume clusters { place with position } >>= fun _ => .ok result) =
      medium.skip volume clusters place >>= fun _ => .ok result := by
  cases clusters <;> rfl

/-- A move that succeeds has followed the link of the cluster, and stands at the first
byte of the next one. -/
theorem hop_ok {place next : ChainPlace} (hopped : medium.hop volume place = .ok next) :
    medium.follow volume place.cluster = .ok (some next.cluster) ∧ next.position = 0 := by
  simp only [hop] at hopped
  split at hopped
  · obtain ⟨link, followed, hopped⟩ := ok_of_bind hopped
    cases link with
    | none => cases hopped
    | some successor =>
      cases hopped
      exact ⟨followed, rfl⟩
  · cases hopped

/-- Behind the bytes of a cluster stand those of the cluster to which its link leads. -/
theorem chainByte_hop {cluster successor : Nat}
    (followed : medium.follow volume cluster = .ok (some successor)) (position : Nat) :
    medium.chainByte volume cluster (volume.clusterBytes + position) =
      medium.chainByte volume successor position := by
  have same : (volume.clusterBytes + position) % 512 = position % 512 := by
    simp only [Layout.clusterBytes, Nat.mul_add_mod_self_right]
  simp only [chainByte, same, Nat.add_mod_left]
  rw [Nat.add_div_left position volume.usable.clusterBytes_pos, passed, followed]

/-- Behind the clusters that were skipped stand the bytes of the rest of the chain,
counted from the place to which skipping has led. -/
theorem chainByte_skip {clusters : Nat} {place next : ChainPlace}
    (skipped : medium.skip volume clusters place = .ok next) (position : Nat) :
    medium.chainByte volume place.cluster (clusters * volume.clusterBytes + position) =
      medium.chainByte volume next.cluster position := by
  induction clusters generalizing place with
  | zero =>
    cases skipped
    rw [Nat.zero_mul, Nat.zero_add]
  | succ clusters inductionHypothesis =>
    obtain ⟨between, hopped, skipped⟩ := ok_of_bind skipped
    rw [← inductionHypothesis skipped, ← chainByte_hop (hop_ok hopped).1, Nat.succ_mul]
    congr 1
    omega

/-- Links that lead to a position lead to every earlier one: fewer links are followed for
it. -/
theorem reach_mono {first earlier later : Nat} (reached : medium.reach volume first later = .ok ())
    (before : earlier ≤ later) : medium.reach volume first earlier = .ok () := by
  obtain ⟨_, checked, reached⟩ := ok_of_bind reached
  obtain ⟨_, skipped, _⟩ := ok_of_bind reached
  have fewer := Nat.div_le_div_right (c := volume.clusterBytes) before
  rw [← Nat.add_sub_cancel' fewer, skip_add] at skipped
  obtain ⟨_, reached, _⟩ := ok_of_bind skipped
  rw [reach, checked]
  change medium.skip volume _ _ >>= _ = _
  rw [reached]
  rfl

/-- The bytes of a chain from behind its first cluster on are those of the chain that
starts at the next cluster. -/
theorem chainBytes_hop {cluster successor : Nat}
    (followed : medium.follow volume cluster = .ok (some successor)) (position length : Nat) :
    medium.chainBytes volume cluster (volume.clusterBytes + position) length =
      medium.chainBytes volume successor position length := by
  simp only [chainBytes, Nat.add_assoc, chainByte_hop followed]

/-- The bytes of a chain from behind some skipped clusters on are those of the chain that
starts where skipping has led. -/
theorem chainBytes_skip {clusters : Nat} {place next : ChainPlace}
    (skipped : medium.skip volume clusters place = .ok next) (position length : Nat) :
    medium.chainBytes volume place.cluster (clusters * volume.clusterBytes + position) length =
      medium.chainBytes volume next.cluster position length := by
  simp only [chainBytes, Nat.add_assoc, chainByte_skip skipped]

/-! ## Copying sector by sector -/

/-- As many bytes are described of a chain as are asked for. Whether they can be read is
told by the links. -/
theorem chainBytes_size (first position length : Nat) :
    (medium.chainBytes volume first position length).size = length := Array.size_ofFn

/-- The first bytes of a chain are those of the sectors of its first cluster, in order. -/
theorem chainByte_near {cluster sector byte : Nat} (inside : sector < volume.sectorsPerCluster)
    (within : byte < 512) :
    medium.chainByte volume cluster (512 * sector + byte) =
      (medium (volume.clusterStart cluster + sector))[byte] := by
  have front : 512 * sector + byte < volume.clusterBytes := by
    simp only [Layout.clusterBytes]
    omega
  have sectors : (512 * sector + byte) / 512 = sector := by omega
  have rest : (512 * sector + byte) % 512 = byte := by omega
  simp only [chainByte]
  simp only [Nat.div_eq_of_lt front, Nat.mod_eq_of_lt front, passed, sectors, rest]
  rfl

/-- A place inside a cluster stays inside it, or comes to stand at its end, behind the bytes
that its sector adds. -/
theorem runLength_inside {position : Nat} (inside : position < volume.clusterBytes)
    (copied length : Nat) :
    position + Sector.runLength position copied length ≤ volume.clusterBytes := by
  have within := Sector.runLength_le position copied length
  simp only [Layout.clusterBytes] at inside ⊢
  omega

/-- The bytes that a sector adds are the next bytes of its chain. It adds no byte that
belongs to another sector. -/
theorem run_eq_chainBytes {cluster position : Nat} (inside : position < volume.clusterBytes)
    (copied length : Nat) :
    (medium (volume.clusterStart cluster + position / 512)).run position copied length =
      medium.chainBytes volume cluster position (Sector.runLength position copied length) := by
  have clustered : position / 512 < volume.sectorsPerCluster := by
    simp only [Layout.clusterBytes] at inside
    omega
  apply Array.ext
  · rw [Sector.run_size, chainBytes_size]
  · intro byte before _
    rw [Sector.run_size] at before
    have within := Sector.runLength_le position copied length
    have same : 512 * (position / 512) + (position % 512 + byte) = position + byte := by omega
    simp only [Sector.run, Array.getElem_extract, Vector.getElem_toArray, chainBytes,
      Array.getElem_ofFn]
    rw [← chainByte_near clustered (by omega), same]

/-- Some bytes of a chain, and behind them those that follow there, are the bytes of the
chain from the same position on. -/
theorem chainBytes_append (first position : Nat) {earlier length : Nat}
    (part : earlier ≤ length) :
    medium.chainBytes volume first position earlier ++
        medium.chainBytes volume first (position + earlier) (length - earlier) =
      medium.chainBytes volume first position length := by
  apply Array.ext
  · simp only [Array.size_append, chainBytes_size]
    omega
  · intro byte _ _
    rw [Array.getElem_append]
    split
    · simp only [chainBytes, Array.getElem_ofFn]
    · next behind =>
      rw [chainBytes_size] at behind
      have same : position + earlier + (byte - earlier) = position + byte := by omega
      simp only [chainBytes, Array.getElem_ofFn, Array.size_ofFn, same]

/-- Copying appends the bytes of the chain that are wanted, if its links lead to the cluster
of the last of them. -/
theorem copyBytes_eq (length : Nat) (place : ChainPlace) (copied : Array UInt8)
    (inside : place.position ≤ volume.clusterBytes) :
    medium.copyBytes volume length place copied =
      medium.skip volume
          ((place.position + (length - copied.size) - 1) / volume.clusterBytes) place >>=
        fun _ => .ok (copied ++ medium.chainBytes volume place.cluster place.position
          (length - copied.size)) := by
  have positive := volume.usable.clusterBytes_pos
  fun_induction copyBytes medium volume length place copied with
  | case1 place copied wanted inductionHypothesis =>
    -- the sector of a place inside its cluster, and behind it what the induction gives
    have readOn (here : ChainPlace) (within : here.position < volume.clusterBytes) :
        medium.copyBytes volume length
            { here with position := here.position +
              Sector.runLength here.position copied.size length }
            (copied ++ (medium (volume.clusterStart here.cluster + here.position / 512)).run
              here.position copied.size length) =
          medium.skip volume
              ((here.position + (length - copied.size) - 1) / volume.clusterBytes) here >>=
            fun _ => .ok (copied ++ medium.chainBytes volume here.cluster here.position
              (length - copied.size)) := by
      have enough : Sector.runLength here.position copied.size length ≤ length - copied.size :=
        Nat.min_le_right _ _
      have rest : length - (copied ++ (medium (volume.clusterStart here.cluster +
          here.position / 512)).run here.position copied.size length).size =
            length - copied.size - Sector.runLength here.position copied.size length := by
        rw [Array.size_append, Sector.run_size, Nat.sub_add_eq]
      have last : here.position + Sector.runLength here.position copied.size length +
          (length - copied.size - Sector.runLength here.position copied.size length) - 1 =
            here.position + (length - copied.size) - 1 := by omega
      rw [inductionHypothesis here (runLength_inside within _ _), rest, last, skip_position,
        Array.append_assoc, run_eq_chainBytes within, chainBytes_append _ _ enough]
    by_cases within : place.position < volume.clusterBytes
    · rw [onward, if_pos within]
      exact readOn place within
    · have ended : place.position = volume.clusterBytes := by omega
      have beyond : (place.position + (length - copied.size) - 1) / volume.clusterBytes =
          1 + (length - copied.size - 1) / volume.clusterBytes := by
        rw [ended, Nat.add_sub_assoc (by omega), Nat.add_div_left _ positive, Nat.add_comm]
      rw [onward, if_neg within, beyond, skip_add, bind_assoc]
      change _ = (medium.hop volume place >>= pure) >>= _
      rw [bind_pure]
      refine bind_congr_ok fun next hopped => ?_
      obtain ⟨followed, first⟩ := hop_ok hopped
      have moved := chainBytes_hop followed 0 (length - copied.size)
      rw [Nat.add_zero] at moved
      rw [readOn next (by rw [first]; exact positive), first, Nat.zero_add, ended, moved]
  | case2 place copied enough =>
    have none : length - copied.size = 0 := by omega
    have here : (place.position + 0 - 1) / volume.clusterBytes = 0 :=
      Nat.div_eq_of_lt (by omega)
    rw [none, here]
    change Except.ok copied = Except.ok (copied ++ medium.chainBytes volume place.cluster _ 0)
    rw [chainBytes, Array.ofFn_zero, Array.append_empty]

/-! ## Reading bytes -/

/-- A part of some bytes of a chain is bytes of the chain, at the position where the part
begins. -/
theorem extract_chainBytes (first position length start : Nat) {stop : Nat}
    (inside : stop ≤ length) :
    (medium.chainBytes volume first position length).extract start stop =
      medium.chainBytes volume first (position + start) (stop - start) := by
  apply Array.ext
  · simp only [Array.size_extract, chainBytes_size]
    omega
  · intro byte _ _
    simp only [chainBytes, Array.getElem_extract, Array.getElem_ofFn]
    congr 1
    omega

/-- The cluster of the last byte of a read, counted by the clusters that are skipped and those
that are copied from behind them. -/
theorem cluster_of_last (volume : Volume) (offset : Nat) {length : Nat} (some : 0 < length) :
    (offset + length - 1) / volume.clusterBytes =
      offset / volume.clusterBytes +
        (offset % volume.clusterBytes + length - 1) / volume.clusterBytes := by
  have divided := Nat.div_add_mod offset volume.clusterBytes
  have split : offset + length - 1 =
      volume.clusterBytes * (offset / volume.clusterBytes) +
        (offset % volume.clusterBytes + length - 1) := by
    omega
  rw [split, Nat.mul_add_div volume.usable.clusterBytes_pos]

/-- What is read of a chain is bytes of the chain, if its links lead to the last of them;
otherwise the read fails as following the links does. -/
theorem content_eq (first offset : Nat) {length : Nat} (some : 0 < length) :
    medium.content volume first offset length =
      medium.reach volume first (offset + length - 1) >>= fun _ =>
        .ok (medium.chainBytes volume first offset length) := by
  have within := Nat.mod_lt offset volume.usable.clusterBytes_pos
  rw [content, if_neg (Nat.ne_of_gt some), reach, cluster_of_last volume offset some, skip_add]
  simp only [bind_assoc]
  refine bind_congr fun _ => bind_congr_ok fun place skipped => ?_
  rw [copyBytes_eq _ _ _ (Nat.le_of_lt within)]
  dsimp only
  rw [skip_position, Array.empty_append, Array.size_empty, Nat.sub_zero]
  refine bind_congr fun _ => ?_
  change Except.ok _ = Except.ok _
  -- the bytes are counted from the cluster that was skipped to, and have to be from the first
  rw [← chainBytes_skip skipped, Nat.mul_comm, Nat.div_add_mod]

/-- Where a whole read succeeds, so does that of any part that is not empty, with the same
bytes. This is why windows show what a whole read shows. -/
theorem content_part {first size : Nat} {bytes : Array UInt8}
    (whole : medium.content volume first 0 size = .ok bytes) {offset length : Nat}
    (some : 0 < length) (inside : offset + length ≤ size) :
    medium.content volume first offset length = .ok (bytes.extract offset (offset + length)) := by
  rw [content_eq first 0 (by omega)] at whole
  obtain ⟨_, reached, same⟩ := ok_of_bind whole
  cases same
  rw [content_eq first offset some, reach_mono reached (by omega),
    extract_chainBytes _ _ _ _ inside, Nat.zero_add, Nat.add_sub_cancel_left]
  rfl

/-- A whole read that succeeds returns as many bytes as the size says. -/
theorem content_size {first size : Nat} {bytes : Array UInt8}
    (whole : medium.content volume first 0 size = .ok bytes) (some : 0 < size) :
    bytes.size = size := by
  rw [content_eq first 0 some] at whole
  obtain ⟨_, _, same⟩ := ok_of_bind whole
  cases same
  exact chainBytes_size first 0 size

/-- Where a whole read fails, a read of its last bytes fails in the same way: it is the
cluster of the last byte that cannot be reached. -/
theorem content_last {first size : Nat} {failure : Failure}
    (failed : medium.content volume first 0 size = .error failure) {offset length : Nat}
    (some : 0 < length) (reaches : offset + length = size) :
    medium.content volume first offset length = .error failure := by
  rw [content_eq first 0 (by omega), Nat.zero_add, ← reaches] at failed
  rw [content_eq first offset some]
  cases reached : medium.reach volume first (offset + length - 1) with
  | error cause =>
    rw [reached] at failed
    exact failed
  | ok _ =>
    rw [reached] at failed
    cases failed

end Medium

end FatVolume
