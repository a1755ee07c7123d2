import FatVolume.Proofs.LinkWrites

/-!
# Bytes of the table

The entry of a cluster stands in each copy of the table as two bytes, the less significant
one first, at twice the number of the cluster. These are the bytes that a change of the
entry is about: in the copies that were changed they hold the new value, and every other
byte of the disk is what it was.
-/

namespace FatVolume

/-- The offset of the entry of a cluster in a copy of the table. -/
def Layout.linkOffset (layout : Layout) (copy cluster : Nat) : Nat :=
  512 * (layout.tableStart + copy * layout.tableSectors) + 2 * cluster

/-- The byte at an offset belongs to the entry of a cluster in a copy of the table. -/
def Layout.InLink (layout : Layout) (copy cluster offset : Nat) : Prop :=
  offset = layout.linkOffset copy cluster ∨ offset = layout.linkOffset copy cluster + 1

/-- The entry of a cluster, as its bytes stand in a copy of the table. -/
def Disk.tableEntry (disk : Disk) (layout : Layout) (copy cluster : Nat) : UInt16 :=
  LittleEndian.word (disk.byte (layout.linkOffset copy cluster))
    (disk.byte (layout.linkOffset copy cluster + 1))

namespace Sector

/-- Two sectors have the same byte at a position where they have the same word around that
position. -/
theorem getElem_eq_of_word {sector other : Sector} {position : Nat} (inside : position < 512)
    (same : sector.word ⟨position / 2, by omega⟩ = other.word ⟨position / 2, by omega⟩) :
    sector[position] = other[position] := by
  simp only [word] at same
  have lows := congrArg LittleEndian.lowByte same
  have highs := congrArg LittleEndian.highByte same
  simp only [LittleEndian.lowByte_word, LittleEndian.highByte_word] at lows highs
  rcases Nat.mod_two_eq_zero_or_one position with even | odd
  · have place : 2 * (position / 2) = position := by omega
    simpa only [place] using lows
  · have place : 2 * (position / 2) + 1 = position := by omega
    simpa only [place] using highs

/-- Two sectors are the same if all of their words are. -/
theorem ext_word {sector other : Sector} (same : ∀ index, sector.word index = other.word index) :
    sector = other :=
  Vector.ext fun _ inside => getElem_eq_of_word inside (same _)

end Sector

namespace Medium

/-- The byte at an offset from the start of a medium. -/
def byte (medium : Medium) (offset : Nat) : UInt8 :=
  (medium (offset / 512)).get ⟨offset % 512, Sector.position_lt offset⟩

variable {medium changed : Medium} {volume : Volume} {cluster : Nat} {value : UInt16}

/-- Two media have the same byte at an offset where they have the same sector around that
offset. -/
theorem byte_eq_of_sector {offset : Nat} (same : changed (offset / 512) = medium (offset / 512)) :
    changed.byte offset = medium.byte offset := by
  rw [byte, byte, same]

/-- Two media have the same byte at an offset where they have the same word around that
offset. -/
theorem byte_eq_of_word {offset : Nat}
    (same : (changed (offset / 512)).word ⟨offset % 512 / 2, by omega⟩ =
      (medium (offset / 512)).word ⟨offset % 512 / 2, by omega⟩) :
    changed.byte offset = medium.byte offset :=
  Sector.getElem_eq_of_word (Sector.position_lt offset) same

/-- An offset belongs to the entry of a cluster in a copy of the table if its sector and
its word are those of that entry. -/
theorem inLink_of_word {layout : Layout} {copy offset : Nat}
    (sector : offset / 512 = layout.linkSector copy cluster)
    (word : (⟨offset % 512 / 2, by omega⟩ : Fin 256) = Layout.linkIndex cluster) :
    layout.InLink copy cluster offset := by
  have index : offset % 512 / 2 = cluster % 256 := congrArg Fin.val word
  simp only [Layout.linkSector] at sector
  simp only [Layout.InLink, Layout.linkOffset]
  omega

/-- Changing a link in some copies leaves every byte alone that belongs to the entry of
the cluster in none of these copies. -/
theorem byte_linkWrites {copies offset : Nat} (data : volume.DataCluster cluster)
    (elsewhere : ∀ copy < copies, ¬ volume.InLink copy cluster offset) :
    (medium.apply (medium.linkWrites volume cluster value copies)).byte offset =
      medium.byte offset :=
  byte_eq_of_word (word_linkWrites_elsewhere data fun copy inside sector word =>
    elsewhere copy inside (inLink_of_word sector word))

end Medium

/-- The two bytes of an entry in a copy of the table, put together, are the link that is
read from that copy. -/
theorem Host.tableEntry_eq_linkIn (host : Host) (volume : Volume) (copy cluster : Nat) :
    host.disk.tableEntry volume.toLayout copy cluster = host.medium.linkIn volume copy cluster := by
  have sector : volume.linkOffset copy cluster / 512 = volume.linkSector copy cluster ∧
      (volume.linkOffset copy cluster + 1) / 512 = volume.linkSector copy cluster := by
    simp only [Layout.linkOffset, Layout.linkSector]
    omega
  have place : volume.linkOffset copy cluster % 512 = 2 * (cluster % 256) ∧
      (volume.linkOffset copy cluster + 1) % 512 = 2 * (cluster % 256) + 1 := by
    simp only [Layout.linkOffset]
    omega
  simp only [Disk.tableEntry, Disk.byte, Medium.linkIn, Sector.word, Host.medium,
    Layout.linkIndex, sector, place]

end FatVolume
