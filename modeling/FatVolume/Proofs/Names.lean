import FatVolume.Slot
import FatVolume.Proofs.Outcome

/-!
# Names and records that are written

A component is encoded to a name in upper case whose first byte marks no slot, so folding
the case of such names changes nothing and none of them is that of the directory itself or
its parent. A directory entry with such a name is read back from its record as it was
written.
-/

namespace FatVolume

namespace Text

/-- A statement about all bytes can be tried out on the numbers below 256. Such facts
about single bytes are decided and not argued. -/
theorem forall_byte {holds : UInt8 → Prop} (tried : ∀ number : Fin 256, holds (.ofNat number.val))
    (byte : UInt8) : holds byte := by
  have same := tried ⟨byte.toNat, byte.toNat_lt⟩
  rwa [UInt8.ofNat_toNat] at same

/-- Folding the case of a byte twice is folding it once: an upper-case letter is left
alone. -/
theorem upperByte_upperByte (byte : UInt8) : upperByte (upperByte byte) = upperByte byte := by
  revert byte
  apply forall_byte
  decide +kernel

end Text

namespace ShortName

/-- A name that a component can be encoded to: it is in upper case, and its first byte
neither marks a slot nor is a dot. -/
structure Canonical (name : RawName) : Prop where
  upper : name.map Text.upperByte = name
  marked : name[0] ≠ Slot.endByte
  erased : name[0] ≠ Slot.erasedByte
  dotted : name[0] ≠ dot

/-- A byte that may stand in a short name is, with its case folded, none of the bytes that
mark a slot, and no dot. Encoded names are thus never taken for markers. -/
theorem isAllowed_first : ∀ byte : UInt8, isAllowed byte = true →
    Text.upperByte byte ≠ Slot.endByte ∧ Text.upperByte byte ≠ Slot.erasedByte ∧
      Text.upperByte byte ≠ dot := by
  apply Text.forall_byte
  decide +kernel

/-- Bytes in upper case, filled with spaces up to a width. -/
def padded (width : Nat) (bytes : List UInt8) : Vector UInt8 width :=
  Vector.ofFn fun position => (bytes[position.val]?.map Text.upperByte).getD padding

/-- A part of a name is encoded if and only if all of its bytes are allowed, and then it
is padded. The length was tested before. -/
theorem encodePart_ok_iff {width : Nat} {bytes : List UInt8} {part : Vector UInt8 width} :
    encodePart width bytes = .ok part ↔ bytes.all isAllowed = true ∧ padded width bytes = part := by
  rw [encodePart]
  by_cases allowed : bytes.all isAllowed = true
  · rw [if_pos allowed, Except.ok.injEq, and_iff_right allowed, padded]
  · rw [if_neg allowed]
    exact iff_of_false (fun impossible => by cases impossible) fun both => allowed both.1

/-- The padding of a part has no letters in it, and the letters of the part are in upper
case already: folding the case changes nothing. -/
theorem padded_upper (width : Nat) (bytes : List UInt8) :
    (padded width bytes).map Text.upperByte = padded width bytes := by
  apply Vector.ext
  intro position inside
  rw [Vector.getElem_map, padded, Vector.getElem_ofFn]
  cases bytes[position]? with
  | none => rfl
  | some byte => exact Text.upperByte_upperByte byte

/-- What a component is encoded to is canonical: it is its own upper case and does not
begin with a byte that marks a slot or a dot. -/
theorem encode_canonical {component : List Char} {name : RawName}
    (encoded : encode component = .ok name) : Canonical name := by
  simp only [encode] at encoded
  generalize (Text.utf8 component).takeWhile (· != dot) = stem at encoded
  generalize ((Text.utf8 component).dropWhile (· != dot)).drop 1 = extension at encoded
  cases stem with
  | nil => cases encoded
  | cons first rest =>
    rw [List.isEmpty_cons, if_neg Bool.false_ne_true] at encoded
    split at encoded
    · cases encoded
    obtain ⟨stemPart, stemmed, encoded⟩ := ok_of_bind encoded
    split at encoded
    · cases encoded
    obtain ⟨extensionPart, extended, encoded⟩ := ok_of_bind encoded
    cases encoded
    obtain ⟨allowed, rfl⟩ := encodePart_ok_iff.mp stemmed
    obtain ⟨_, rfl⟩ := encodePart_ok_iff.mp extended
    have begins : (padded 8 (first :: rest) ++ padded 3 extension)[0] = Text.upperByte first := by
      rw [Vector.getElem_append_left (by decide)]
      simp [padded]
    obtain ⟨marked, erased, dotted⟩ :=
      isAllowed_first first (List.all_eq_true.mp allowed first List.mem_cons_self)
    rw [← begins] at marked erased dotted
    refine ⟨?_, marked, erased, dotted⟩
    rw [Vector.map_append, padded_upper, padded_upper]

/-- Comparing names with their case folded does not depend on which one is the stored one. -/
theorem sameFolded_comm (left right : RawName) : sameFolded left right = sameFolded right left :=
  Bool.beq_comm

/-- A name agrees with a canonical one, case folded, if and only if its own upper case is
that name. Two names that agree with a canonical one therefore agree. -/
theorem Canonical.sameFolded_iff {name other : RawName} (canonical : Canonical other) :
    sameFolded name other = true ↔ name.map Text.upperByte = other := by
  rw [sameFolded, beq_iff_eq, canonical.upper]

end ShortName

/-- Neither the first name byte nor the attributes mark the slot of the entry as something else. -/
structure Entry.IsLive (entry : Entry) : Prop where
  marked : entry.name[0] ≠ Slot.endByte
  erased : entry.name[0] ≠ Slot.erasedByte
  unlabelled : entry.attributes &&& Attributes.volumeLabel ≠ Attributes.volumeLabel

namespace Slot

/-- A record of zero bytes is an end marker. So every slot of a cleared sector ends its
directory. -/
theorem decode_zero (index : Fin 16) : decode (Sector.zero.record index) = .endMarker := by
  simp [decode, Sector.record, Sector.zero, endByte]

/-- The fields of an entry are read back from its record, each from the bytes that hold
it. The stamps in between are not part of the entry. -/
theorem fields_encode (entry : Entry) : fields entry.encode = entry := by
  obtain ⟨name, attributes, cluster, size⟩ := entry
  have named : (Vector.ofFn fun position : Fin 11 =>
      (Entry.mk name attributes cluster size).encode[position.val]) = name := by
    ext position inside
    simp [Entry.encode]
  rw [fields, named]
  simp [Entry.encode, LittleEndian.word_lowByte_highByte, LittleEndian.doubleWord_halves]

/-- The bit of a label is one of those that mark a fragment of a long name, which is why
fragments are told apart before labels are. -/
theorem labelled_of_longName : ∀ byte : UInt8, byte &&& Attributes.meaningful = Attributes.longName →
    byte &&& Attributes.volumeLabel = Attributes.volumeLabel := by
  apply Text.forall_byte
  decide +kernel

/-- A record is a live entry if and only if its fields do not mark it as something else,
and then the entry is made of its fields. All four tests of a slot are accounted for. -/
theorem decode_eq_live_iff {record : Record} {entry : Entry} :
    decode record = .live entry ↔ fields record = entry ∧ entry.IsLive := by
  have first : (fields record).name[0] = record[0] := by rw [fields, Vector.getElem_ofFn]
  constructor
  · intro decoded
    rw [decode] at decoded
    split at decoded
    · cases decoded
    rename_i marked
    split at decoded
    · cases decoded
    rename_i erased
    split at decoded
    · cases decoded
    split at decoded
    · cases decoded
    rename_i unlabelled
    cases decoded
    exact ⟨rfl, first ▸ marked, first ▸ erased, unlabelled⟩
  · rintro ⟨rfl, marked, erased, unlabelled⟩
    rw [first] at marked erased
    change record[11] &&& _ ≠ _ at unlabelled
    rw [decode, if_neg marked, if_neg erased, if_neg (mt (labelled_of_longName _) unlabelled),
      if_neg unlabelled]

/-- A record whose fields mark nothing else holds a live entry with these fields. -/
theorem decode_live {record : Record} (live : (fields record).IsLive) :
    decode record = .live (fields record) := decode_eq_live_iff.mpr ⟨rfl, live⟩

/-- A slot with the record of an entry holds it, unless its name or attributes mark the
slot: what is written can be found again. -/
theorem decode_encode {entry : Entry} (live : entry.IsLive) :
    decode entry.encode = .live entry := decode_eq_live_iff.mpr ⟨fields_encode entry, live⟩

/-- An entry of a directory is read back as it was written, unless its name marks a slot;
the attribute of a directory never does. -/
theorem decode_directory {name : RawName} {cluster : Nat} (marked : name[0] ≠ endByte)
    (erased : name[0] ≠ erasedByte) :
    decode (Entry.directory name cluster).encode = .live (Entry.directory name cluster) :=
  decode_encode ⟨marked, erased, (by decide :
    Attributes.directory &&& Attributes.volumeLabel ≠ Attributes.volumeLabel)⟩

end Slot

end FatVolume
