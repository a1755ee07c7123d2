import FatVolume.ListingRecord
import FatVolume.Proofs.Spellings

/-!
# What a listing record tells

A record keeps the name of an entry as it is shown. Such a name is ASCII without a zero byte and
much shorter than its room, so it is read back from the record as it was put there.
-/

namespace FatVolume

namespace ShortName

/-- Every byte of a name is shown as an ASCII character other than zero, also where the
byte lies outside of ASCII. -/
theorem displayByte_ascii : ∀ byte : UInt8,
    0 < (displayByte byte).toNat ∧ (displayByte byte).toNat < 128 := by
  apply Text.forall_byte
  decide +kernel

/-- A name is shown in ASCII characters other than zero, and in twelve of them at most. -/
theorem display_ascii (name : RawName) :
    (∀ character ∈ display name, 0 < character.toNat ∧ character.toNat < 128) ∧
      (display name).length ≤ 12 := by
  have part (bytes : List UInt8) :
      (∀ character ∈ displayPart bytes, 0 < character.toNat ∧ character.toNat < 128) ∧
        (displayPart bytes).length ≤ bytes.length := by
    constructor
    · intro character member
      obtain ⟨byte, _, rfl⟩ := List.mem_map.mp member
      exact displayByte_ascii byte
    · rw [displayPart, List.length_map]
      exact (List.takeWhile_prefix _).length_le
  obtain ⟨stem, short⟩ := part (name.toList.take 8)
  obtain ⟨extension, shorter⟩ := part (name.toList.drop 8)
  rw [List.length_take, Vector.length_toList] at short
  rw [List.length_drop, Vector.length_toList] at shorter
  simp only [display]
  split
  · exact ⟨stem, by omega⟩
  · constructor
    · intro character member
      rcases List.mem_append.mp member with inStem | behind
      · exact stem character inStem
      · rcases List.mem_cons.mp behind with rfl | inExtension
        · decide
        · exact extension character inExtension
    · rw [List.length_append, List.length_cons]
      omega

end ShortName

namespace ListingRecord

/-- Bytes that fit into a field of some width stand at its front, and are followed by zero
bytes. -/
theorem toList_field {bytes : List UInt8} {width : Nat} (fits : bytes.length ≤ width) :
    (Vector.ofFn fun position : Fin width => (bytes[position.val]?).getD 0).toList =
      bytes ++ List.replicate (width - bytes.length) 0 := by
  apply List.ext_getElem
  · rw [Vector.length_toList, List.length_append, List.length_replicate]
    omega
  · intro number inside within
    rw [Vector.getElem_toList, Vector.getElem_ofFn, List.getElem_append]
    split
    next among => rw [List.getElem?_eq_getElem among]; rfl
    next behind =>
      rw [List.getElem?_eq_none (Nat.not_lt.mp behind), List.getElem_replicate]
      rfl

/-- A short name without a zero byte is read back from its field, up to the first zero
byte, as it was written. -/
theorem takeWhile_nameField {bytes : List UInt8} (short : bytes.length < 64)
    (nonzero : ∀ byte ∈ bytes, byte ≠ 0) : (nameField bytes).toList.takeWhile (· != 0) = bytes := by
  obtain ⟨more, rest⟩ : ∃ more, 64 - bytes.length = more + 1 := ⟨63 - bytes.length, by omega⟩
  rw [nameField, toList_field (by omega), List.takeWhile_append_of_pos (by simpa using nonzero),
    rest, List.replicate_succ]
  exact List.append_nil bytes

/-- The record of an entry tells its name as it is shown, its kind, and the size of a
file, or zero for a directory. -/
theorem ofEntry_tells (entry : Entry) :
    (ofEntry entry).nameBytes = Text.utf8 entry.displayName ∧
      (ofEntry entry).kind? = some entry.kind ∧
      (ofEntry entry).size = if entry.isDirectory then 0 else entry.size := by
  obtain ⟨ascii, short⟩ := ShortName.display_ascii entry.name
  have bytes : Text.utf8 entry.displayName = _ := Text.utf8_ascii fun character member =>
    (ascii character member).2
  have bounded : (Text.utf8 entry.displayName).length ≤ 12 := by
    rw [bytes, List.length_map]
    exact short
  have nonzero : ∀ byte ∈ Text.utf8 entry.displayName, byte ≠ 0 := by
    rintro byte member rfl
    obtain ⟨character, inside, zero⟩ := (Text.mem_utf8_iff (by decide)).mp member
    exact Nat.ne_of_gt (ascii character inside).1 zero
  refine ⟨?_, EntryKind.ofTag_tag entry.kind, rfl⟩
  rw [nameBytes, ofEntry, ofParts, List.take_of_length_le (by omega)]
  exact takeWhile_nameField (by omega) nonzero

end ListingRecord

end FatVolume
