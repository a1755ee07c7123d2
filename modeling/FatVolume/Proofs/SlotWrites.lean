import FatVolume.Proofs.Alterations
import FatVolume.Proofs.Confinement.Requests
import FatVolume.Proofs.Repetition
import FatVolume.Proofs.SlotRecords
import FatVolume.Proofs.TableBytes

/-!
# Writing a slot

An entry that is written into a slot takes up the bytes of this slot and no other byte of the
disk. Slots are reached over the links of the table, which stands in front of the root region;
so wherever the slot lies in the root region or in a cluster, each directory keeps its slots,
in their order, with another content in this one of them.

A walk that goes on after the write tells of the new content, wherever it stands, unless the
cursor keeps the sector as it was read before. What such a cursor tells is not said here.
-/

namespace FatVolume

/-- The offset of the first byte of a slot. -/
def SlotPosition.offset (position : SlotPosition) : Nat :=
  512 * position.lba + 32 * position.index.val

/-! ## Bytes -/

namespace Sector

/-- A record that is put into a sector stands there byte by byte, from the place of its
slot on. -/
theorem getElem_setRecord_inside (sector : Sector) (index : Fin 16) (record : Record)
    (place : Fin 32) {position : Nat} (bounded : position < 512)
    (same : position = 32 * index.val + place.val) :
    (sector.setRecord index record)[position] = record.get place := by
  have quotient : position / 32 = index.val := by omega
  have remainder : position % 32 = place.val := by omega
  rw [setRecord, Vector.getElem_ofFn, if_pos quotient]
  simp only [remainder]
  rfl

/-- A record that is put into a sector leaves every byte in front of its slot and behind
it alone. -/
theorem getElem_setRecord_outside (sector : Sector) {index : Fin 16} (record : Record)
    {position : Nat} (bounded : position < 512)
    (outside : position < 32 * index.val ∨ 32 * index.val + 32 ≤ position) :
    (sector.setRecord index record)[position] = sector[position] := by
  have quotient : position / 32 ≠ index.val := by omega
  rw [setRecord, Vector.getElem_ofFn, if_neg quotient]
  rfl

end Sector

namespace Medium

/-- Within the slot into which an entry was written, the disk holds the bytes of its
record. -/
theorem byte_entryWrite_inside (medium : Medium) (position : SlotPosition) (entry : Entry)
    (place : Fin 32) :
    (medium.write (medium.entryWrite position entry)).byte (position.offset + place.val) =
      entry.encode.get place := by
  have bounded := position.index.isLt
  have sector : (position.offset + place.val) / 512 = position.lba := by
    simp only [SlotPosition.offset]
    omega
  rw [byte, sector, entryWrite, write_self]
  apply Sector.getElem_setRecord_inside
  simp only [SlotPosition.offset]
  omega

/-- Outside of the slot into which an entry was written, every byte of the disk is the one
that was there. -/
theorem byte_entryWrite_outside (medium : Medium) {position : SlotPosition} (entry : Entry)
    {offset : Nat} (outside : offset < position.offset ∨ position.offset + 32 ≤ offset) :
    (medium.write (medium.entryWrite position entry)).byte offset = medium.byte offset := by
  by_cases same : offset / 512 = position.lba
  · rw [byte, byte, same, entryWrite, write_self]
    apply Sector.getElem_setRecord_outside
    simp only [SlotPosition.offset] at outside
    omega
  · exact byte_eq_of_sector (medium.write_other same)

end Medium

/-! ## Walks after the write -/

namespace Medium.Alters

variable {medium changed : Medium} {volume : Volume}
  {change : SlotPosition × Slot → SlotPosition × Slot}

/-- The slots that a sound cursor has ahead are altered one by one when those of the
medium are, each in its place. -/
theorem ahead (alters : medium.Alters changed volume change) {cursor : Cursor}
    (sound : cursor.Sound volume.toLayout) :
    cursor.ahead changed volume = (cursor.ahead medium volume).map change := by
  by_cases done : cursor.done = true
  · rw [Cursor.ahead_done done, Cursor.ahead_done done]
    rfl
  · simp only [Cursor.ahead, if_neg done]
    have placed := sound.resolve_left done
    cases stood : cursor.place with
    | root taken =>
      dsimp only
      rw [alters.rootSlots, ← List.map_drop]
      rfl
    | chain cluster sector taken hops =>
      rw [stood] at placed
      dsimp only
      rw [alters.beyond placed.1, alters.clusterSlots, alters.sectorSlots, alters.slotsFrom,
        Course.map_behind, List.map_append, List.map_drop]

end Medium.Alters

/-- From every host with the medium, undisturbed requests for slots tell of a course. -/
def Cursor.Yields (medium : Medium) (volume : Volume) (cursor : Cursor)
    (course : Course (SlotPosition × Slot)) : Prop :=
  ∀ (host : Host) (count : Nat), host.medium = medium → host.disk.sectorSize = 512 →
    host.Undisturbed (afterwards (requests (nextSlot volume) count) ⟨cursor, host⟩).host →
    ∃ answers, outcome (requests (nextSlot volume) count) ⟨cursor, host⟩ = .ok answers ∧
      answers.length = count ∧ course.told count <+: answers

/-- On an altered medium a poised cursor yields what it had ahead on the medium before,
with each slot altered. -/
theorem Cursor.Poised.yields_altered {medium changed : Medium} {volume : Volume} {cursor : Cursor}
    {change : SlotPosition × Slot → SlotPosition × Slot} (poised : cursor.Poised changed volume)
    (alters : medium.Alters changed volume change) :
    cursor.Yields changed volume ((cursor.ahead medium volume).map change) := by
  rintro host count rfl sized undisturbed
  rw [← alters.ahead poised.sound]
  exact poised.told sized count undisturbed

/-- Where the slots of a cursor do not break off, undisturbed requests are answered with
all that is told of them and nothing else. -/
theorem Cursor.Yields.answers {medium : Medium} {volume : Volume} {cursor : Cursor}
    {items : List (SlotPosition × Slot)} {host : Host}
    (yields : cursor.Yields medium volume ⟨items, none⟩) (count : Nat)
    (holds : host.medium = medium) (sized : host.disk.sectorSize = 512)
    (undisturbed :
      host.Undisturbed (afterwards (requests (nextSlot volume) count) ⟨cursor, host⟩).host) :
    outcome (requests (nextSlot volume) count) ⟨cursor, host⟩ =
      .ok (Course.told ⟨items, none⟩ count) := by
  obtain ⟨answers, answered, counted, told⟩ := yields host count holds sized undisturbed
  rw [answered, told.eq_of_length ((Course.told_length items count).trans counted.symm)]

namespace Volume

/-- An entry is read back from its record if and only if it is live, and a record from which an
entry was read is the record of that entry, but for the time stamps. A buffer takes the record in
place of its first 32 bytes, or is left as it is if it is shorter.

A write that no transfer failure disturbs puts the record into the bytes of its slot and changes
no other byte. Each walk that begins afterwards, or that goes on and keeps no sector which the
write has changed, tells of the slots that stood before, with what the record holds in the place
of the slot that was written. -/
theorem writeEntry_replaces_slot :
    (∀ (entry : Entry) (buffer : List UInt8),
      (buffer.length < 32 → entry.store buffer = .error .malformed buffer) ∧
      (32 ≤ buffer.length →
        let after := afterwards entry.store buffer
        outcome entry.store buffer = .ok () ∧ after.length = buffer.length ∧
          after.drop 32 = buffer.drop 32 ∧
          (Slot.decodeBytes after = .ok (.live entry) ↔ entry.IsLive))) ∧
    (∀ entry : Entry, entry.attributes &&& Attributes.meaningful = Attributes.longName →
      ¬ entry.IsLive) ∧
    (∀ (record : Record) (entry : Entry), Slot.decode record = .live entry →
      entry.encode = record.unstamped) ∧
    ∀ (volume : Volume) (host : Host) (position : SlotPosition) (entry : Entry),
      let after := afterwards (writeEntry position entry) host
      (volume.InRoot position.lba ∨
        ∃ cluster, volume.DataCluster cluster ∧ volume.InCluster cluster position.lba) →
      host.disk.sectorSize = 512 → host.Undisturbed after →
      outcome (writeEntry position entry) host = .ok () ∧
      (∀ place : Fin 32, after.disk.byte (position.offset + place.val) = entry.encode.get place) ∧
      (∀ offset, offset < position.offset ∨ position.offset + 32 ≤ offset →
        after.disk.byte offset = host.disk.byte offset) ∧
      (∀ directory cursor, Cursor.start volume directory = .ok cursor →
        cursor.Yields after.medium volume
          ((host.medium.slots volume directory).replaceSlot position (Slot.decode entry.encode))) ∧
      ∀ cursor : Cursor, cursor.Poised after.medium volume →
        cursor.Yields after.medium volume
          ((cursor.ahead host.medium volume).replaceSlot position (Slot.decode entry.encode)) := by
  refine ⟨fun entry buffer => ⟨Entry.store_of_short, Entry.store_reads_back⟩,
    fun entry => Entry.not_isLive_of_longName, ?decoded, ?written⟩
  case decoded =>
    intro record entry decoded
    obtain ⟨rfl, _⟩ := Slot.decode_eq_live_iff.mp decoded
    exact Slot.encode_fields record
  case written =>
    intro volume host position entry after inside sized undisturbed
    -- The table stands in front of the slot, so the links that cursors follow are not changed.
    have behind : volume.rootStart ≤ position.lba := by
      rcases inside with root | ⟨cluster, _, within⟩
      · exact root.bounds.1
      · exact Nat.le_trans volume.rootStart_le_dataStart within.dataStart_le
    obtain ⟨ended, left⟩ := (writeEntry_performs position entry host rfl).carriedOut sized undisturbed
    have written : after.medium = host.medium.write (host.medium.entryWrite position entry) := left
    have inside (place : Fin 32) :=
      host.medium.byte_entryWrite_inside position entry place
    have outside (offset : Nat)
        (apart : offset < position.offset ∨ position.offset + 32 ≤ offset) :=
      host.medium.byte_entryWrite_outside entry apart
    have alters := Medium.alters_entryWrite behind host.medium entry
    rw [← written] at inside outside alters
    refine ⟨ended, inside, outside, fun directory cursor started => ?_,
      fun cursor poised => poised.yields_altered alters⟩
    rw [← (Cursor.start_ready host.medium started).2]
    exact (Cursor.start_poised after.medium started).yields_altered alters

/-- A host with a disk on which each byte of the root region is the letter A. -/
def letteredHost : Host where
  disk :=
    { capacity := 20
      contents := (∅ : Std.TreeMap Nat Sector).insert 3 (Vector.replicate 512 0x41) }
  largestBlock := 4096

/-- The second slot of the root region gets a name of the letter B, and a walk tells of it between
its neighbours, or at once if it begins there. -/
theorem writeEntry_replaces_slot_lettered :
    let letters : Record := Vector.replicate 32 0x41
    let entry : Entry := ⟨Vector.replicate 11 0x42, 0, 7, 9⟩
    let after := afterwards (writeEntry ⟨3, 1⟩ entry) letteredHost
    entry.store [] = .error .malformed [] ∧
      Slot.decodeBytes (afterwards entry.store (List.replicate 40 0)) = .ok (.live entry) ∧
      ¬ { entry with attributes := Attributes.longName }.IsLive ∧
      Slot.decode letters = .live (Slot.fields letters) ∧
      (Slot.fields letters).encode = letters.unstamped ∧
      small.InRoot 3 ∧ letteredHost.disk.sectorSize = 512 ∧ letteredHost.Undisturbed after ∧
      outcome (writeEntry ⟨3, 1⟩ entry) letteredHost = .ok () ∧
      after.disk.byte (SlotPosition.offset ⟨3, 1⟩ + 31) = 0 ∧
      after.disk.byte (SlotPosition.offset ⟨3, 1⟩ + 32) = 0x41 ∧
      Cursor.start small .root = .ok ⟨.root 0, none, false⟩ ∧
      outcome (Cursor.requests (Cursor.nextSlot small) 3) ⟨⟨.root 0, none, false⟩, after⟩ =
        .ok [.ok (some (⟨3, 0⟩, .live (Slot.fields letters))), .ok (some (⟨3, 1⟩, .live entry)),
          .ok (some (⟨3, 2⟩, .live (Slot.fields letters)))] ∧
      outcome (Cursor.requests (Cursor.nextSlot small) 1) ⟨⟨.root 1, none, false⟩, after⟩ =
        .ok [.ok (some (⟨3, 1⟩, .live entry))] := by
  intro letters entry after
  obtain ⟨stored, fragment, decoded, written⟩ := writeEntry_replaces_slot
  have live : entry.IsLive := ⟨by decide, by decide, by decide⟩
  have lettered : Slot.decode letters = .live (Slot.fields letters) := by decide +kernel
  have serves : letteredHost.Serves small := .of_capacity rfl (by decide) fun _ _ => rfl
  have first : 0 < small.rootEntries := by decide
  have root : small.InRoot 3 := ⟨0, first, by decide⟩
  have reached : small.Reaches True 3 := Layout.reaches_rootSector trivial first
  have any (transfer : Transfer) : small.Reaches True transfer.lba → AnyTransfer transfer :=
    fun _ => trivial
  have confined : Confined small.toLayout AnyTransfer (writeEntry ⟨3, 1⟩ entry) _ :=
    writeEntry_confined any entry reached
  have calm : letteredHost.Undisturbed after := (confined letteredHost).1.served serves
  obtain ⟨ended, inside, outside, walks, goesOn⟩ :=
    written small letteredHost ⟨3, 1⟩ entry (.inl root) rfl calm
  have sized : after.disk.sectorSize = 512 := by decide +kernel
  have poised : (Cursor.mk (.root 1) none false).Poised after.medium small :=
    ⟨.of_held_none (by rintro _ _ _ _ ⟨⟩), .inr trivial⟩
  have quiet (cursor : Cursor) (count : Nat)
      (granted : ∀ event ∈ (afterwards (Cursor.requests (Cursor.nextSlot small) count)
        ⟨cursor, after⟩).host.trace, ¬ event.IsRefusal) :
      after.Undisturbed (afterwards (Cursor.requests (Cursor.nextSlot small) count)
        ⟨cursor, after⟩).host :=
    Host.Spared.of_trace
      (Cursor.requests_onlyAdds (Cursor.nextSlot_onlyAdds small) count ⟨cursor, after⟩) granted
  have told := (walks .root ⟨.root 0, none, false⟩ rfl).answers 3 rfl sized
    (quiet _ 3 (by decide +kernel))
  have onward := (goesOn _ poised).answers 1 rfl sized (quiet _ 1 (by decide +kernel))
  refine ⟨(stored entry []).1 (by decide), ((stored entry _).2 (by decide)).2.2.2.mpr live,
    fragment _ (by decide), lettered, decoded _ _ lettered, root, rfl, calm, ended,
    (inside 31).trans (by decide +kernel), (outside _ (.inr (Nat.le_refl _))).trans (by decide +kernel),
    rfl, told.trans ?_, onward.trans ?_⟩
  · exact congrArg Except.ok (by decide +kernel)
  · exact congrArg Except.ok (by decide +kernel)

end Volume

end FatVolume
