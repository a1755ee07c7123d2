import FatVolume.Proofs.ChainBytes
import FatVolume.Proofs.Formatted
import FatVolume.Proofs.Views
import Mathlib.Algebra.GroupWithZero.Nat

/-!
# Reading a file in parts

A file can be read as a whole or window by window. Where the whole can be read, every window
shows its part of the same bytes, so a reader that goes through the file with buffers of any
sizes comes to the bytes of the whole. Where the whole cannot be read, the window with the
last byte cannot be read either, and fails in the same way. The one difference is room: a
whole file needs a block of the heap.
-/

namespace FatVolume

namespace Mounted

/-- The result of filling a buffer with some bytes from an offset on: how many were filled,
and the buffer, which keeps the rest of its bytes. -/
structure Fills (bytes : Array UInt8) (offset : Nat) (buffer : Array UInt8)
    (result : Nat × Array UInt8) : Prop where
  counted : result.1 = min buffer.size (bytes.size - offset)
  sized : result.2.size = buffer.size
  filled : ∀ place < result.1, result.2[place]? = bytes[offset + place]?
  kept : ∀ place ≥ result.1, result.2[place]? = buffer[place]?

variable (mounted : Mounted)

/-- The bytes that a reader receives who fills one buffer after the other with the bytes of
a file, from an offset on, and stops at the end of the file. -/
def readInTurn (path : List Char) : Nat → List (Array UInt8) → HostM (Array UInt8)
  | _, [] => return #[]
  | offset, buffer :: rest => do
    match ← observe (mounted.readWindow path offset buffer) with
    | .ok (filled, after) =>
      return after.extract 0 filled ++ (← readInTurn path (offset + filled) rest)
    | .error .endOfFile => return #[]
    | .error failure => throw failure

/-- The windows of a file of some size show what reading it as a whole has shown, or fail as
that has failed. -/
structure ShowsInParts (path : List Char) (host : Host) (size : Nat)
    (whole : Except Failure (Array UInt8)) : Prop where
  sized : ∀ bytes, whole = .ok bytes → bytes.size = size
  window : ∀ bytes, whole = .ok bytes → ∀ offset < size, ∀ buffer : Array UInt8,
    0 < buffer.size → ∃ result, outcome (mounted.readWindow path offset buffer) host = .ok result ∧
      Fills bytes offset buffer result
  assembled : ∀ bytes, whole = .ok bytes → ∀ buffers : List (Array UInt8),
    size ≤ (buffers.map Array.size).sum →
      outcome (mounted.readInTurn path 0 buffers) host = .ok bytes
  failing : ∀ failure, whole = .error failure → ∀ offset < size, ∀ buffer : Array UInt8,
    size ≤ offset + buffer.size →
      outcome (mounted.readWindow path offset buffer) host = .error failure
  ended : ∀ offset ≥ size, ∀ buffer : Array UInt8, 0 < buffer.size →
    outcome (mounted.readWindow path offset buffer) host = .error .endOfFile

/-- A buffer whose first bytes are overwritten by a part of some others, as long as it has
room and there are more, is filled from them. -/
theorem overwrite_fills {bytes buffer : Array UInt8} {offset filled : Nat}
    (counted : filled = min buffer.size (bytes.size - offset)) :
    Fills bytes offset buffer
      (filled, overwrite buffer (bytes.extract offset (offset + filled))) := by
  have size : (bytes.extract offset (offset + filled)).size = filled := by
    rw [Array.size_extract]
    omega
  refine ⟨counted, ?_, fun place before => ?_, fun place behind => ?_⟩
  · rw [overwrite, Array.size_append, size, Array.size_extract]
    omega
  · change place < filled at before
    dsimp only [overwrite]
    rw [Array.getElem?_append_left (by omega), Array.getElem?_extract, if_pos (by omega)]
  · change filled ≤ place at behind
    dsimp only [overwrite]
    rw [Array.getElem?_append_right (by omega), size, Array.getElem?_extract]
    split
    · congr 1
      omega
    · rw [Array.getElem?_eq_none (by omega)]

/-- The first bytes of a buffer into which bytes were put are those bytes. -/
theorem extract_overwrite (buffer : Array UInt8) {bytes : Array UInt8} {filled : Nat}
    (sized : bytes.size = filled) : (overwrite buffer bytes).extract 0 filled = bytes := by
  rw [overwrite, ← sized, Array.extract_append_left, Array.extract_size]

/-- A part of some bytes that is clamped to their end, with a further part behind it, is
the part of both lengths together. -/
theorem extract_clamped (bytes : Array UInt8) (offset room more : Nat) :
    let filled := min room (bytes.size - offset)
    bytes.extract offset (offset + filled) ++
        bytes.extract (offset + filled) (offset + filled + more) =
      bytes.extract offset (offset + (room + more)) := by
  intro filled
  rw [Array.extract_append_extract, Nat.min_eq_left (Nat.le_add_right _ _),
    Nat.max_eq_right (Nat.le_add_right _ _), Array.extract_eq_extract_right]
  omega

variable {mounted} {medium : Medium} {path : List Char} {resolved : Resolved}

section Named

variable (named : medium.lookup mounted.volume path = .ok resolved)
  (file : resolved.isDirectory = false)
include named file

/-- A path that names a file is looked up as that file on the medium. -/
theorem lookupFile_named : medium.lookupFile mounted.volume path = .ok resolved := by
  rw [Medium.lookupFile, named]
  change (if resolved.isDirectory = true then _ else _) = _
  rw [if_neg (by rw [file]; exact Bool.false_ne_true)]
  rfl

/-- Reading a file in one piece, where it is not empty and a block of its size can be had,
reads its chain from the start in full length. -/
theorem readWhole_named {largestBlock : Nat} (nonempty : 0 < resolved.size)
    (granted : resolved.size ≤ largestBlock) :
    medium.readWhole mounted.volume largestBlock path =
      medium.content mounted.volume resolved.cluster 0 resolved.size := by
  rw [Medium.readWhole, lookupFile_named named file]
  change (if resolved.size = 0 then _ else _) = _
  rw [if_neg (Nat.ne_of_gt nonempty), if_neg (Nat.not_lt.mpr granted)]

/-- Reading a window that begins inside a file reads its chain from there, as far as the
buffer has room and the file has bytes. -/
theorem readWindow_named {offset : Nat} (inside : offset < resolved.size) {buffer : Array UInt8}
    (room : 0 < buffer.size) :
    medium.readWindow mounted.volume path offset buffer =
      let filled := min buffer.size (resolved.size - offset)
      medium.content mounted.volume resolved.cluster offset filled >>= fun bytes =>
        .ok (filled, overwrite buffer bytes) := by
  rw [Medium.readWindow, if_neg (Nat.ne_of_gt room), lookupFile_named named file]
  change (if resolved.size ≤ offset then _ else _) = _
  rw [if_neg (Nat.not_le.mpr inside)]
  rfl

/-- Reading a window that begins behind the last byte of a file fails as the end of the
file, whatever its chain is like. -/
theorem readWindow_behind {offset : Nat} (behind : resolved.size ≤ offset) {buffer : Array UInt8}
    (room : 0 < buffer.size) :
    medium.readWindow mounted.volume path offset buffer = .error .endOfFile := by
  rw [Medium.readWindow, if_neg (Nat.ne_of_gt room), lookupFile_named named file]
  change (if resolved.size ≤ offset then _ else _) = _
  rw [if_pos behind]
  rfl

/-- A window that begins inside a file which can be read in one piece is filled with a
part of those same bytes. -/
theorem readWindow_part {bytes : Array UInt8}
    (whole : medium.content mounted.volume resolved.cluster 0 resolved.size = .ok bytes)
    {offset : Nat} (inside : offset < resolved.size) {buffer : Array UInt8}
    (room : 0 < buffer.size) :
    medium.readWindow mounted.volume path offset buffer =
      let filled := min buffer.size (resolved.size - offset)
      .ok (filled, overwrite buffer (bytes.extract offset (offset + filled))) := by
  rw [readWindow_named named file inside room]
  dsimp only
  rw [Medium.content_part whole (by omega) (by omega)]
  rfl

/-- Reading windows in turn from an offset on shows the bytes of the file from there, as
far as the buffers reach together. -/
theorem readInTurn_answers {bytes : Array UInt8} (nonempty : 0 < resolved.size)
    (whole : medium.content mounted.volume resolved.cluster 0 resolved.size = .ok bytes)
    (buffers : List (Array UInt8)) (offset : Nat) :
    Answers mounted.volume (mounted.readInTurn path offset buffers) medium
      (.ok (bytes.extract offset (offset + (buffers.map Array.size).sum))) := by
  have size := Medium.content_size whole nonempty
  -- Buffer by buffer: each window is filled as far as there are bytes, and the next one begins
  -- behind it.
  induction buffers generalizing offset with
  | nil =>
    have nothing : bytes.extract offset offset = #[] :=
      Array.extract_empty_of_stop_le_start (Nat.le_refl offset)
    rw [readInTurn, List.map_nil, List.sum_nil, Nat.add_zero, nothing]
    exact .pure _
  | cons buffer rest inductionHypothesis =>
    -- Whatever comes of the first window, the others show what follows it.
    have further (filled : Nat) (after : Array UInt8)
        (counted : filled = min buffer.size (bytes.size - offset))
        (front : after.extract 0 filled = bytes.extract offset (offset + filled)) :
        Answers mounted.volume (do
            return after.extract 0 filled ++ (← mounted.readInTurn path (offset + filled) rest))
          medium (.ok (bytes.extract offset
            (offset + (buffer.size + (rest.map Array.size).sum)))) := by
      apply (inductionHypothesis (offset + filled)).bind
      rw [front, counted, extract_clamped]
      exact .pure _
    rw [readInTurn, List.map_cons, List.sum_cons]
    apply (readWindow_answers path offset buffer).observe.bind
    by_cases empty : buffer.size = 0
    · rw [Medium.readWindow, if_pos empty]
      refine further 0 buffer (by omega) ?_
      rw [Nat.add_zero, Array.extract_empty_of_stop_le_start (Nat.le_refl 0),
        Array.extract_empty_of_stop_le_start (Nat.le_refl offset)]
    · by_cases inside : offset < resolved.size
      · rw [readWindow_part named file whole inside (Nat.pos_of_ne_zero empty)]
        refine further _ _ (by rw [size]) (extract_overwrite buffer ?_)
        rw [Array.size_extract]
        omega
      · rw [readWindow_behind named file (Nat.not_lt.mp inside) (Nat.pos_of_ne_zero empty)]
        have nothing : bytes.extract offset
            (offset + (buffer.size + (rest.map Array.size).sum)) = #[] := by
          apply Array.extract_empty_of_size_le_start
          omega
        rw [nothing]
        exact .pure _

end Named

/-- Reading a file as a whole and reading it window by window show the same bytes, or fail in
the same way. -/
theorem readWhole_showsInParts {host later : Host} (serves : host.Serves mounted.volume)
    (stillServes : later.Serves mounted.volume) (kept : later.medium = host.medium)
    (named : outcome (mounted.lookup path) host = .ok resolved)
    (file : resolved.isDirectory = false) (nonempty : 0 < resolved.size)
    (granted : resolved.size ≤ host.largestBlock) :
    mounted.ShowsInParts path later resolved.size (outcome (mounted.readWhole path) host) := by
  rw [(lookup_answers path host rfl serves).1] at named
  have answered (offset : Nat) (buffer : Array UInt8) :=
    (readWindow_answers path offset buffer later kept stillServes).1
  rw [(readWhole_answers path rfl serves).1, readWhole_named named file nonempty granted]
  constructor
  case sized => exact fun bytes whole => Medium.content_size whole nonempty
  case window =>
    intro bytes whole offset inside buffer room
    have size := Medium.content_size whole nonempty
    rw [answered, readWindow_part named file whole inside room]
    exact ⟨_, rfl, overwrite_fills (by rw [size])⟩
  case assembled =>
    intro bytes whole buffers covered
    have size := Medium.content_size whole nonempty
    rw [(readInTurn_answers named file nonempty whole buffers 0 later kept stillServes).1,
      Nat.zero_add, Array.extract_eq_self_of_le (by omega)]
  case failing =>
    intro failure failed offset inside buffer reaches
    rw [answered, readWindow_named named file inside (by omega)]
    dsimp only
    rw [Medium.content_last failed (by omega) (by omega)]
    rfl
  case ended =>
    intro offset behind buffer room
    rw [answered, readWindow_behind named file behind room]

/-- The bytes of the chain of the file: those of both sectors of its first cluster, and behind
them the first ones of its second cluster. -/
theorem fileHost_chainBytes :
    fileHost.medium.chainBytes .small 2 0 1500 = .replicate 1024 0x61 ++ .replicate 476 0x62 := by
  have linked : fileHost.medium.follow .small 2 = .ok (some 5) := by decide +kernel
  have first (sector : Nat) (inside : sector < 2) :
      fileHost.medium (Volume.small.clusterStart 2 + sector) = .replicate 512 0x61 := by
    have start : Volume.small.clusterStart 2 = 4 := by decide
    simp only [Host.medium, fileHost, Disk.sector_setSector, start]
    obtain rfl | rfl : sector = 0 ∨ sector = 1 := by omega
    · rfl
    · rfl
  have second : fileHost.medium (Volume.small.clusterStart 5 + 0) = .replicate 512 0x62 := by
    have start : Volume.small.clusterStart 5 = 10 := by decide
    simp only [Host.medium, fileHost, Disk.sector_setSector, start]
    rfl
  apply Array.ext
  · rw [Medium.chainBytes_size, Array.size_append, Array.size_replicate, Array.size_replicate]
  · intro place inside _
    rw [Medium.chainBytes_size] at inside
    simp only [Medium.chainBytes, Array.getElem_ofFn, Nat.zero_add]
    rw [Array.getElem_append]
    split
    · next near =>
      rw [Array.size_replicate] at near
      have clustered : place / 512 < Volume.small.sectorsPerCluster := by
        change place / 512 < 2
        omega
      have byte : fileHost.medium.chainByte .small 2 (512 * (place / 512) + place % 512) =
          (fileHost.medium (Volume.small.clusterStart 2 + place / 512))[place % 512] :=
        Medium.chainByte_near clustered (Nat.mod_lt _ (by decide))
      rw [Nat.div_add_mod] at byte
      simp only [byte, first _ clustered, Vector.getElem_replicate, Array.getElem_replicate]
    · next behind =>
      rw [Array.size_replicate] at behind
      obtain ⟨rest, rfl⟩ : ∃ rest, place = Volume.small.clusterBytes + rest :=
        Nat.exists_eq_add_of_le (Nat.not_lt.mp behind)
      have within : rest < 512 := by
        change 1024 + rest < 1500 at inside
        omega
      have byte : fileHost.medium.chainByte .small 5 (512 * 0 + rest) =
          (fileHost.medium (Volume.small.clusterStart 5 + 0))[rest] :=
        Medium.chainByte_near (by decide) within
      rw [Nat.mul_zero, Nat.zero_add] at byte
      rw [Medium.chainByte_hop linked, byte]
      simp only [second, Vector.getElem_replicate, Array.getElem_replicate]

/-- A file of 1500 bytes is read as a whole: first the letters of its first cluster, then those
of its second one. Windows of any size show its parts, whatever they have shown before. -/
theorem readWhole_showsInParts_small :
    let mounted : Mounted := ⟨0, .small, ⟨0, 20, 4⟩⟩
    let path := ['/', 'a']
    let bytes := Array.replicate 1024 0x61 ++ Array.replicate 476 0x62
    outcome (mounted.lookup path) fileHost = .ok ⟨2, 0, 1500⟩ ∧
      outcome (mounted.readWhole path) fileHost = .ok bytes ∧
      mounted.ShowsInParts path fileHost 1500 (.ok bytes) := by
  intro mounted path bytes
  have named : outcome (mounted.lookup path) fileHost = .ok ⟨2, 0, 1500⟩ := by decide +kernel
  have led : fileHost.medium.lookup mounted.volume path = .ok ⟨2, 0, 1500⟩ :=
    (lookup_answers path fileHost rfl fileHost_serves).1.symm.trans named
  have reached : fileHost.medium.reach .small 2 (0 + 1500 - 1) = .ok () := by decide +kernel
  have read : outcome (mounted.readWhole path) fileHost = .ok bytes := by
    rw [(readWhole_answers path rfl fileHost_serves).1, readWhole_named led (by decide) (by decide)
      (by decide), Medium.content_eq 2 0 (by decide), reached]
    exact congrArg Except.ok fileHost_chainBytes
  have shows := readWhole_showsInParts fileHost_serves fileHost_serves rfl named (by decide)
    (by decide) (by decide)
  rw [read] at shows
  exact ⟨named, read, shows⟩

end Mounted

end FatVolume
