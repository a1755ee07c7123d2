import FatVolume.Proofs.Names

/-!
# Records of slots

A record is read back as the entry it was written for, unless the entry has a name or
attributes that mark a slot as something else. A record that was read as an entry is written
back as it was, but for its time stamps, which are cleared.

Only records that hold a live entry are spoken of in the second direction: what other records
hold is not kept when they are read.
-/

namespace FatVolume

/-- A record with zero bytes for the time stamps. -/
def Record.unstamped (record : Record) : Record :=
  Vector.ofFn fun position =>
    if 12 ≤ position.val ∧ position.val < 26 then 0 else record[position.val]

namespace Slot

/-- The record of an entry that was read has the bytes that were read, except for the time
stamps, which become zero. -/
theorem encode_fields (record : Record) : (fields record).encode = record.unstamped := by
  ext position inside
  rw [Record.unstamped, Vector.getElem_ofFn, Entry.encode, Vector.getElem_ofFn]
  dsimp only
  by_cases inName : position < 11
  · rw [dif_pos inName, if_neg (by omega), fields, Vector.getElem_ofFn]
  · rw [dif_neg inName]
    split
    case h_8 =>
      have stamped : 12 ≤ position ∧ position < 26 := by grind
      rw [if_pos stamped]
    -- Each of the other bytes is one that the fields were read from.
    all_goals simp [fields, LittleEndian.lowByte_word, LittleEndian.highByte_word,
      LittleEndian.lowHalf_doubleWord, LittleEndian.highHalf_doubleWord]

/-- An entry is read back from its own record if and only if it is live, by its name and
its attributes. -/
theorem decode_encode_iff (entry : Entry) : decode entry.encode = .live entry ↔ entry.IsLive := by
  rw [decode_eq_live_iff, and_iff_right (fields_encode entry)]

/-- Bytes that begin with a record are read as a slot as that record is, whatever stands
behind. -/
theorem decodeBytes_record (record : Record) (rest : List UInt8) :
    decodeBytes (record.toList ++ rest) = .ok (decode record) := by
  have width : record.toList.length = 32 := record.length_toList
  have enough : 32 ≤ (record.toList ++ rest).length := by
    rw [List.length_append, width]
    exact Nat.le_add_right _ _
  rw [decodeBytes, dif_pos enough]
  apply congrArg (Except.ok ∘ decode)
  ext position inside
  rw [Vector.getElem_ofFn, List.getElem_append_left (by omega), Vector.getElem_toList]

end Slot

namespace Entry

variable {entry : Entry} {buffer : List UInt8}

/-- An entry with the attributes of a long-name fragment is not live, since a slot with
these is skipped. -/
theorem not_isLive_of_longName
    (fragment : entry.attributes &&& Attributes.meaningful = Attributes.longName) :
    ¬ entry.IsLive := fun live => live.unlabelled (Slot.labelled_of_longName _ fragment)

/-- Storing an entry into a buffer of fewer than 32 bytes is refused, and leaves the
buffer as it is. -/
theorem store_of_short (short : buffer.length < 32) :
    entry.store buffer = .error .malformed buffer := by
  rw [store, bind_of_ok (outcome_get buffer)]
  dsimp only [afterwards_get]
  rw [if_pos short]
  rfl

/-- Storing an entry into a buffer of 32 bytes or more puts its record down at the front,
and leaves all other bytes as they are. -/
theorem store_of_long (enough : 32 ≤ buffer.length) :
    entry.store buffer = .ok () (entry.encode.toList ++ buffer.drop 32) := by
  rw [store, bind_of_ok (outcome_get buffer)]
  dsimp only [afterwards_get]
  rw [if_neg (Nat.not_lt.mpr enough)]
  rfl

/-- A buffer that is long enough is changed in its first 32 bytes only, and the entry is read back
from it if and only if it is live. -/
theorem store_reads_back (enough : 32 ≤ buffer.length) :
    let after := afterwards entry.store buffer
    outcome entry.store buffer = .ok () ∧ after.length = buffer.length ∧
      after.drop 32 = buffer.drop 32 ∧
      (Slot.decodeBytes after = .ok (.live entry) ↔ entry.IsLive) := by
  have ran : entry.store buffer = .ok () _ := store_of_long enough
  obtain ⟨ended, left⟩ := ran_ok_iff.mp ran
  have width : entry.encode.toList.length = 32 := entry.encode.length_toList
  dsimp only
  rw [left]
  refine ⟨ended, ?_, List.drop_left' width, ?_⟩
  · rw [List.length_append, List.length_drop, width]
    omega
  · rw [Slot.decodeBytes_record, Except.ok.injEq]
    exact Slot.decode_encode_iff entry

end Entry

end FatVolume
