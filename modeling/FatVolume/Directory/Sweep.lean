import FatVolume.Directory.Cursor

/-!
# Sweeping over slots

`sweep` asks a cursor for slot after slot until a visitor answers or the storage
ends. It ends on every medium, because each slot that a cursor yields makes
`slotsLeft` smaller; that fact is proved first, from what each step does to the
cursor's place.

The search for a live entry is a sweep that stops at the end marker.
-/

namespace FatVolume

namespace Cursor

/-- A yielded slot leaves the cursor where it was told to go; reading the slot's sector
does not move it any further. -/
theorem take_place {position : SlotPosition} {behind : Place} {walk rest : Walk}
    {yielded : Option (SlotPosition × Slot)}
    (succeeded : take position behind walk = .ok yielded rest) : rest.cursor.place = behind := by
  obtain ⟨sector, between, _, succeeded⟩ := bind_ok succeeded
  cases succeeded
  rfl

/-- A slot yielded behind a used-up sector is within the bound of the sectors that were
still ahead. -/
theorem enterSector_slotsLeft {volume : Volume} {cluster sector hops : Nat} {walk rest : Walk}
    {item : SlotPosition × Slot}
    (succeeded : enterSector volume cluster sector hops walk = .ok (some item) rest) :
    rest.cursor.slotsLeft volume <
      ((volume.clusterCount - 1 - hops) * volume.sectorsPerCluster +
        (volume.sectorsPerCluster - 1 - sector)) * 16 := by
  obtain ⟨following, noted, worked, succeeded⟩ := bind_ok succeeded
  obtain rfl : sector + 1 = following := by
    cases worked
    rfl
  obtain ⟨_, moved, _, succeeded⟩ := bind_ok succeeded
  split at succeeded
  · next within =>
    obtain ⟨_, addressed, _, succeeded⟩ := bind_ok succeeded
    rw [slotsLeft, take_place succeeded]
    dsimp only
    omega
  · obtain ⟨link, between, _, succeeded⟩ := bind_ok succeeded
    cases link with
    | none =>
      obtain ⟨_, went, _, succeeded⟩ := bind_ok succeeded
      obtain ⟨_, finished, _, succeeded⟩ := bind_ok succeeded
      cases succeeded
    | some successor =>
      obtain ⟨followed, counted, worked, succeeded⟩ := bind_ok succeeded
      obtain rfl : hops + 1 = followed := by
        cases worked
        rfl
      split at succeeded
      · next hopped =>
        obtain ⟨_, left, _, succeeded⟩ := bind_ok succeeded
        obtain ⟨_, addressed, _, succeeded⟩ := bind_ok succeeded
        have positive := volume.usable.sectorsPerCluster_pos
        rw [slotsLeft, take_place succeeded]
        dsimp only
        obtain ⟨further, same⟩ : ∃ further, volume.clusterCount - 1 - hops = further + 1 :=
          ⟨volume.clusterCount - 1 - hops - 1, by omega⟩
        have fewer : volume.clusterCount - 1 - (hops + 1) = further := by omega
        rw [same, fewer, Nat.succ_mul further]
        omega
      · cases succeeded

/-- Each yielded slot brings the cursor nearer to its end, in the root region as well as
along a chain. The bound on hops makes the measure finite. -/
theorem nextSlot_slotsLeft {volume : Volume} {walk rest : Walk} {item : SlotPosition × Slot}
    (succeeded : nextSlot volume walk = .ok (some item) rest) :
    rest.cursor.slotsLeft volume < walk.cursor.slotsLeft volume := by
  obtain ⟨start, begun, got, succeeded⟩ := bind_ok succeeded
  cases got
  split at succeeded
  · cases succeeded
  · cases stood : walk.cursor.place with
    | root taken =>
      rw [stood] at succeeded
      dsimp only at succeeded
      split at succeeded
      · obtain ⟨_, addressed, _, succeeded⟩ := bind_ok succeeded
        rw [slotsLeft, take_place succeeded, slotsLeft, stood]
        dsimp only
        omega
      · obtain ⟨_, finished, _, succeeded⟩ := bind_ok succeeded
        cases succeeded
    | chain cluster sector taken hops =>
      rw [stood] at succeeded
      dsimp only at succeeded
      split at succeeded
      · obtain ⟨_, addressed, _, succeeded⟩ := bind_ok succeeded
        rw [slotsLeft, take_place succeeded, slotsLeft, stood]
        dsimp only
        omega
      · have fewer := enterSector_slotsLeft succeeded
        rw [slotsLeft.eq_1 volume walk.cursor, stood]
        dsimp only
        omega

/-- Ask for slots until a visitor answers. None when the storage ends before. -/
def sweep {β : Type} (volume : Volume) (visit : SlotPosition → Slot → Option β) :
    WalkM (Option β) :=
  fun walk =>
    match _yielded : nextSlot volume walk with
    | .error failure rest => .error failure rest
    | .ok none rest => .ok none rest
    | .ok (some (position, slot)) rest =>
      match visit position slot with
      | some answer => .ok (some answer) rest
      | none => sweep volume visit rest
termination_by walk => walk.cursor.slotsLeft volume
decreasing_by exact nextSlot_slotsLeft _yielded

/-- A sweep that has found an answer has yielded one slot at least, so that repeated
sweeps come to an end. -/
theorem sweep_slotsLeft {β : Type} {volume : Volume} {visit : SlotPosition → Slot → Option β}
    {walk rest : Walk} {answer : β} (succeeded : sweep volume visit walk = .ok (some answer) rest) :
    rest.cursor.slotsLeft volume < walk.cursor.slotsLeft volume := by
  fun_induction sweep volume visit walk with
  | case1 | case2 => cases succeeded
  | case3 walk position slot between yielded found answered =>
    cases succeeded
    exact nextSlot_slotsLeft yielded
  | case4 walk position slot between yielded passed inductionHypothesis =>
    exact Nat.lt_trans (inductionHypothesis succeeded) (nextSlot_slotsLeft yielded)

/-- Answer at the end marker with nothing, and at a wanted live entry with the entry. -/
def visitEntry (wanted : Entry → Bool) : SlotPosition → Slot → Option (Option Entry)
  | _, .endMarker => some none
  | _, .live entry => if wanted entry then some (some entry) else none
  | _, _ => none

/-- The next live entry that is wanted. The end marker finishes the cursor, so that
what stands behind it is never seen. -/
def nextEntry (volume : Volume) (wanted : Entry → Bool) : WalkM (Option Entry) := do
  match ← sweep volume (visitEntry wanted) with
  | some (some entry) => return some entry
  | some none =>
    modify Walk.finish
    return none
  | none => return none

/-- A found entry has brought the cursor nearer to its end, as it is the answer of a sweep
over slots. -/
theorem nextEntry_slotsLeft {volume : Volume} {wanted : Entry → Bool} {walk rest : Walk}
    {entry : Entry} (succeeded : nextEntry volume wanted walk = .ok (some entry) rest) :
    rest.cursor.slotsLeft volume < walk.cursor.slotsLeft volume := by
  obtain ⟨answer, between, swept, succeeded⟩ := bind_ok succeeded
  match answer with
  | some (some found) =>
    cases succeeded
    exact sweep_slotsLeft swept
  | some none =>
    obtain ⟨_, finished, _, succeeded⟩ := bind_ok succeeded
    cases succeeded
  | none => cases succeeded

/-- The next live entry, the ones of the directory itself and its parent included. -/
def next (volume : Volume) : WalkM (Option Entry) := nextEntry volume fun _ => true

end Cursor

end FatVolume
