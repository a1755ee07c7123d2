import FatVolume.Proofs.Steps

/-!
# Links and cursors stay inside their volume

Cluster numbers come from table entries and from directory slots, and neither can be
trusted. Every one of them is tested before an address is formed from it: a link by its
classification, the start of a chain when a cursor begins, a candidate by the range it
is taken from. The lemmas below follow a number from its test to its use, one lemma for
each operation; none assumes anything of the medium or of the disk's refusals.

Operations that only read are confined to any kind of transfers that includes reads.
Changing a link needs writes as well. The root region is entered by cursors over the root
directory alone: where it may not be entered, everything else is confined to the table and the
data region.
-/

namespace FatVolume

variable {β : Type} {volume : Volume} {allowed : Transfer → Prop} {rooted : Prop}

section Reading

variable (reads : ∀ lba, volume.Reaches rooted lba → allowed (.read lba))
include reads

/-- Reading a sector within reach is a permitted step. -/
theorem readSector_confined {lba : Nat} (reached : volume.Reaches rooted lba) :
    Confined volume.toLayout allowed (readSector lba) fun _ => True :=
  (Confined.attempt reached.1 (reads lba reached)).bind fun _ _ =>
    (Confined.get fun _ => trivial).bind fun _ _ => .pure trivial

/-- A sector within reach that was kept needs no step, and one that was not is read in a
permitted step. -/
theorem readUnlessKept_confined {held : Option (Nat × Sector)} {lba : Nat}
    (reached : volume.Reaches rooted lba) :
    Confined volume.toLayout allowed (readUnlessKept held lba) fun _ => True := by
  simp only [readUnlessKept]
  split
  · exact .pure trivial
  · exact readSector_confined reads reached

end Reading

namespace Volume

/-- A number whose operands are in range is worked out in one permitted step, and is the
number of unbounded arithmetic. -/
theorem workOut_confined (computation : Computation)
    (proper : computation.Proper volume.toLayout) :
    Confined volume.toLayout allowed (volume.workOut computation)
      fun value => value = computation.value volume.toLayout :=
  (Confined.compute computation proper).bind fun _ _ => .pure rfl

/-- The address of a sector of a data cluster is worked out properly, and lies outside the
root region. -/
theorem clusterAddress_confined {cluster sector : Nat} (data : volume.DataCluster cluster)
    (inside : sector < volume.sectorsPerCluster) :
    Confined volume.toLayout allowed (volume.clusterAddress cluster sector)
      (volume.Reaches False) :=
  (workOut_confined (.clusterSector cluster sector) ⟨data, inside⟩).mono fun _ same =>
    same ▸ Layout.reaches_clusterSector data inside

/-- The address of a slot of the root directory is worked out properly, and lies within
reach of what may enter the root region. -/
theorem rootAddress_confined (enters : rooted) {taken : Nat} (inside : taken < volume.rootEntries) :
    Confined volume.toLayout allowed (volume.rootAddress taken) (volume.Reaches rooted) :=
  (workOut_confined (.rootSector taken) inside).mono fun _ same =>
    same ▸ Layout.reaches_rootSector enters inside

/-- The address of an entry in an existing copy is worked out properly, and lies outside
the root region. -/
theorem linkAddress_confined {copy cluster : Nat} (data : volume.DataCluster cluster)
    (stored : copy < volume.tableCopies) :
    Confined volume.toLayout allowed (volume.linkAddress copy cluster) (volume.Reaches False) :=
  (workOut_confined (.linkSector copy cluster) ⟨stored, data⟩).mono fun _ same =>
    same ▸ Layout.reaches_linkSector data stored

/-- The test of a cluster number takes no step. Behind it the number is known to be that
of a data cluster. -/
theorem checkCluster_confined (cluster : Nat) :
    Confined volume.toLayout allowed (liftM (volume.checkCluster cluster))
      fun _ => volume.DataCluster cluster :=
  .lift fun _ passed => (Layout.checkCluster_ok_iff cluster).mp passed

section Reading

variable (reads : ∀ lba, volume.Reaches rooted lba → allowed (.read lba))
include reads

/-- Reading a link takes permitted steps only. The second copy is asked only where there
is one. -/
theorem link_confined {cluster : Nat} (data : volume.DataCluster cluster) :
    Confined volume.toLayout allowed (volume.link cluster) fun _ => True := by
  apply (linkAddress_confined data volume.usable.tableCopies_pos).bind
  intro lba reached
  apply (readSector_confined reads reached.outside).bind
  intro sector _
  dsimp only
  split
  · exact .pure trivial
  · next undecided =>
    have copied : 1 < volume.tableCopies := by
      simp only [not_or, Nat.not_lt] at undecided
      omega
    apply (linkAddress_confined data copied).bind
    intro other reaches
    apply (readSector_confined reads reaches.outside).bind
    intro second _
    split
    · exact (Confined.report _).bind fun _ _ => .pure trivial
    · exact .pure trivial

/-- Following a link takes permitted steps only, and what it leads to has been found to be
a data cluster. -/
theorem follow_confined {cluster : Nat} (data : volume.DataCluster cluster) :
    Confined volume.toLayout allowed (volume.follow cluster)
      fun successor => ∀ next, successor = some next → volume.DataCluster next := by
  apply (link_confined reads data).bind
  intro value _
  split
  · next successor classified =>
    refine .pure fun next same => ?_
    cases same
    simp only [Link.classify] at classified
    split at classified
    · cases classified
    · split at classified
      · cases classified
      · split at classified
        · next inside =>
          cases classified
          exact inside
        · cases classified
  · exact .pure (by simp)
  · exact .throw _
  · exact .throw _

end Reading

section Writing

variable (any : ∀ transfer, volume.Reaches rooted transfer.lba → allowed transfer)
include any

/-- Changing the entry of a data cluster in an existing copy takes permitted steps only. -/
theorem setLinkCopy_confined {copy cluster : Nat} {value : UInt16}
    (data : volume.DataCluster cluster) (stored : copy < volume.tableCopies) :
    Confined volume.toLayout allowed (volume.setLinkCopy cluster value copy) fun _ => True := by
  apply (linkAddress_confined data stored).bind
  intro lba reached
  apply (readSector_confined (fun lba => any (.read lba)) reached.outside).bind
  intro sector _
  exact .attempt reached.1 (any _ reached.outside)

/-- Changing the entry of a data cluster in all copies takes permitted steps only, copy by
copy. -/
theorem setLink_confined {cluster : Nat} {value : UInt16} (data : volume.DataCluster cluster) :
    Confined volume.toLayout allowed (volume.setLink cluster value) fun _ => True :=
  .forM fun _ member => setLinkCopy_confined any data (List.mem_range.mp member)

/-- Claiming the first free one of some data clusters takes permitted steps only, and
hands out a data cluster. -/
theorem claimFirst_confined {candidates : List Nat} {held : Option (Nat × Sector)}
    (data : ∀ cluster ∈ candidates, volume.DataCluster cluster) :
    Confined volume.toLayout allowed (volume.claimFirst held candidates)
      volume.DataCluster := by
  induction candidates generalizing held with
  | nil => exact .throw _
  | cons cluster rest inductionHypothesis =>
    have first := data cluster List.mem_cons_self
    have others := fun other member => data other (List.mem_cons_of_mem _ member)
    rw [claimFirst]
    apply (linkAddress_confined first volume.usable.tableCopies_pos).bind
    intro lba reached
    apply (readUnlessKept_confined (fun lba => any (.read lba)) reached.outside).bind
    intro sector _
    split
    · exact inductionHypothesis others
    · apply (link_confined (fun lba => any (.read lba)) first).bind
      intro value _
      split
      · exact inductionHypothesis others
      · exact (setLink_confined any first).bind fun _ _ => .pure first

/-- Allocation takes permitted steps outside the root region, and only data clusters are
handed out. -/
theorem allocate_reaches : Confined volume.toLayout allowed volume.allocate volume.DataCluster := by
  apply claimFirst_confined any
  intro cluster member
  obtain ⟨low, high⟩ := List.mem_range'_1.mp member
  simp only [Layout.clusterCount] at high
  exact ⟨low, by omega⟩

end Writing

/-- Where every transfer is permitted, allocation takes permitted steps, and only data
clusters are handed out. -/
theorem allocate_confined (any : ∀ transfer, allowed transfer) :
    Confined volume.toLayout allowed volume.allocate volume.DataCluster :=
  allocate_reaches fun transfer (_ : volume.Reaches True transfer.lba) => any transfer

end Volume

/-! ## Cursors -/

/-- A place in front of which a slot of the directory may stand: in the root region, if that may
be entered, or inside a sector of a data cluster, after fewer links than there are clusters. -/
def Place.SoundIn (layout : Layout) (rooted : Prop) : Place → Prop
  | .root _ => rooted
  | .chain cluster sector _ hops =>
    layout.DataCluster cluster ∧ sector < layout.sectorsPerCluster ∧ hops < layout.clusterCount

/-- A cursor that is done, or stands at a sound place. -/
def Cursor.SoundIn (layout : Layout) (rooted : Prop) (cursor : Cursor) : Prop :=
  cursor.done = true ∨ cursor.place.SoundIn layout rooted

/-- A sound cursor that may enter the root region. -/
abbrev Cursor.Sound (layout : Layout) (cursor : Cursor) : Prop := cursor.SoundIn layout True

namespace Cursor

/-- A started cursor stands at a tested cluster, or in the root region if it may be
entered. -/
theorem start_sound {directory : Directory} {cursor : Cursor}
    (started : start volume directory = .ok cursor) (enters : directory = .root → rooted) :
    cursor.SoundIn volume.toLayout rooted := by
  cases directory with
  | root =>
    cases started
    exact .inr (enters rfl)
  | chain cluster =>
    have clusters := volume.usable.two_le_maxCluster
    cases checked : volume.checkCluster cluster with
    | error failure =>
      simp only [start, checked] at started
      cases started
    | ok _ =>
      simp only [start, checked] at started
      cases started
      refine .inr ⟨(Layout.checkCluster_ok_iff cluster).mp checked,
        volume.usable.sectorsPerCluster_pos, ?_⟩
      simp only [Layout.clusterCount]
      omega

/-- Starting a cursor takes no step, and the cursor is sound. -/
theorem start_confined (directory : Directory) (enters : directory = .root → rooted) :
    Confined volume.toLayout allowed (liftM (start volume directory))
      (Cursor.SoundIn volume.toLayout rooted) :=
  .lift fun _ started => start_sound started enters

/-- No directory has so many slots ahead of a cursor that their number would not fit a
signed word of 32 bits: the clusters of a volume are fewer than 2 ^ 16. -/
theorem start_slotsLeft_lt {volume : Volume} {directory : Directory} {cursor : Cursor}
    (started : start volume directory = .ok cursor) : cursor.slotsLeft volume < 2 ^ 31 := by
  have usable := volume.usable
  cases directory with
  | root =>
    cases started
    have few := usable.rootEntries_lt
    rw [slotsLeft]
    dsimp only
    omega
  | chain first =>
    simp only [start] at started
    obtain ⟨_, _, same⟩ := ok_of_bind started
    cases same
    have limited := volume.toLayout.maxCluster_le_tableLimit
    simp only [Layout.tableLimit] at limited
    have narrow := usable.sectorsPerCluster_lt
    have product : (volume.clusterCount - 1) * volume.sectorsPerCluster ≤ 65524 * 255 :=
      Nat.mul_le_mul (by rw [Layout.clusterCount]; omega) (by omega)
    rw [slotsLeft]
    dsimp only
    rw [Nat.sub_zero]
    omega

/-- A slot that was yielded, if any, lies in a sector within reach, and the cursor is sound. -/
def Yielded (layout : Layout) (rooted : Prop) (item : Option (SlotPosition × Slot))
    (cursor : Cursor) : Prop :=
  (∀ found, item = some found → layout.Reaches rooted found.1.lba) ∧ cursor.SoundIn layout rooted

/-- The cursor finishes without a slot, and without a step on the host. -/
theorem finish_guided (expected : Cursor → Prop) :
    Guided volume.toLayout allowed (do modify Walk.finish; return none) expected
      (Yielded volume.toLayout rooted) := by
  refine Guided.modify_bind (fun cursor => cursor.done = true) (fun _ => rfl)
    (fun _ _ => rfl) ?_
  exact .pure fun cursor done => ⟨by simp, .inl done⟩

variable (reads : ∀ lba, volume.Reaches rooted lba → allowed (.read lba))
include reads

/-- Asking for the sector at which a cursor stands takes permitted steps if the sector is
within reach. -/
theorem sectorAt_guided {lba : Nat} (reached : volume.Reaches rooted lba) (expected : Cursor → Prop) :
    Guided volume.toLayout allowed (sectorAt lba) expected fun _ _ => True := by
  apply Guided.get.bind
  intro walk
  apply (Guided.lift (readUnlessKept_confined reads reached) _).bind
  intro sector
  refine Guided.modify_bind (fun _ => True) (fun _ => rfl) (fun _ _ => trivial) ?_
  exact .pure fun _ _ => trivial

/-- A slot is taken from a sector within reach, and the cursor moves on to a sound place. -/
theorem take_guided {position : SlotPosition} {behind : Place}
    (reached : volume.Reaches rooted position.lba)
    (sound : behind.SoundIn volume.toLayout rooted) (expected : Cursor → Prop) :
    Guided volume.toLayout allowed (take position behind) expected
      (Yielded volume.toLayout rooted) := by
  apply (sectorAt_guided reads reached expected).bind
  intro sector
  apply (Guided.lift (Confined.compute (.slotStart position.index) position.index.isLt) _).bind
  intro _
  refine Guided.modify_bind (Cursor.SoundIn volume.toLayout rooted) (fun _ => rfl)
    (fun _ _ => .inr sound) ?_
  refine .pure fun cursor stands => ⟨fun found same => ?_, stands⟩
  cases same
  exact reached

/-- The first slot of a sector of a data cluster is taken from within reach, and the
cursor moves on inside the sector. -/
theorem takeFirst_guided {cluster sector hops : Nat}
    (sound : (Place.chain cluster sector 0 hops).SoundIn volume.toLayout rooted) (expected : Cursor → Prop) :
    Guided volume.toLayout allowed (takeFirst volume cluster sector hops) expected
      (Yielded volume.toLayout rooted) := by
  refine (Guided.lift (Volume.clusterAddress_confined sound.1 sound.2.1) expected).bind
    fun lba => ?_
  have behind : (Place.chain cluster sector 1 hops).SoundIn volume.toLayout rooted := sound
  exact .given (fun _ begun => begun.1) fun reached => take_guided reads reached.outside behind _

/-- The cursor stands behind the last sector while the table is asked; it comes back to
a sound place, or ends, before another slot is read. -/
theorem enterSector_guided {cluster sector taken hops : Nat}
    (sound : (Place.chain cluster sector taken hops).SoundIn volume.toLayout rooted)
    (expected : Cursor → Prop) :
    Guided volume.toLayout allowed (enterSector volume cluster sector hops) expected
      (Yielded volume.toLayout rooted) := by
  obtain ⟨data, inside, counted⟩ := sound
  apply (Guided.lift (Volume.workOut_confined (.nextSector sector) inside) expected).bind
  intro following
  refine .given (fun _ begun => begun.1) fun stepped => ?_
  have behind : 0 < following := stepped ▸ Nat.succ_pos sector
  refine Guided.modify_bind (fun _ => True) (fun _ => rfl) (fun _ _ => trivial) ?_
  split
  · next within => exact takeFirst_guided reads ⟨data, within, counted⟩ _
  · apply (Guided.lift (Volume.follow_confined reads data) _).bind
    intro successor
    cases successor with
    | none =>
      apply (Guided.lift (Volume.workOut_confined (.previousSector following) behind) _).bind
      intro last
      refine Guided.modify_bind (fun cursor => cursor.done = true) (fun _ => rfl)
        (fun _ _ => rfl) ?_
      exact .pure fun cursor done => ⟨by simp, .inl done⟩
    | some next =>
      refine .given (fun _ begun => begun.1 next rfl) fun followed => ?_
      apply (Guided.lift (Volume.workOut_confined (.nextHop hops) counted) _).bind
      intro passed
      split
      · next fewer =>
        have entered : (Place.chain next 0 0 passed).SoundIn volume.toLayout rooted :=
          ⟨followed, volume.usable.sectorsPerCluster_pos, fewer⟩
        refine Guided.modify_bind (fun _ => True) (fun _ => rfl) (fun _ _ => trivial) ?_
        exact takeFirst_guided reads entered _
      · exact .throw _

/-- A sound cursor yields slots of sectors within reach and stays sound as long as it
succeeds. -/
theorem nextSlot_guided :
    Guided volume.toLayout allowed (nextSlot volume) (Cursor.SoundIn volume.toLayout rooted)
      (Yielded volume.toLayout rooted) := by
  apply Guided.get.bind
  intro walk
  split
  · exact .pure fun cursor stands => ⟨by simp, stands.2⟩
  · next unfinished =>
    cases stood : walk.cursor.place with
    | root taken =>
      have enters (cursor : Cursor)
          (begun : walk.cursor = cursor ∧ cursor.SoundIn volume.toLayout rooted) : rooted := by
        obtain ⟨rfl, done | sound⟩ := begun
        · exact absurd done unfinished
        · rwa [stood] at sound
      refine .given enters fun enters => ?_
      dsimp only
      split
      · next inside =>
        apply (Guided.lift (Volume.rootAddress_confined enters inside) _).bind
        intro lba
        have behind : (Place.root (taken + 1)).SoundIn volume.toLayout rooted := enters
        exact .given (fun _ begun => begun.1) fun reached => take_guided reads reached behind _
      · exact finish_guided _
    | chain cluster sector taken hops =>
      have sound (cursor : Cursor)
          (begun : walk.cursor = cursor ∧ cursor.SoundIn volume.toLayout rooted) :
          (Place.chain cluster sector taken hops).SoundIn volume.toLayout rooted := by
        obtain ⟨rfl, done | sound⟩ := begun
        · exact absurd done unfinished
        · rwa [stood] at sound
      refine .given sound fun sound => ?_
      dsimp only
      split
      · refine (Guided.lift (Volume.clusterAddress_confined sound.1 sound.2.1) _).bind
          fun lba => ?_
        have behind : (Place.chain cluster sector (taken + 1) hops).SoundIn volume.toLayout rooted := sound
        exact .given (fun _ begun => begun.1) fun reached => take_guided reads reached.outside behind _
      · exact enterSector_guided reads sound _

/-- What a sweep answers was answered for a slot of a sector within reach, and the cursor
stays sound. The induction is on the slots that are left. -/
theorem sweep_guided {visit : SlotPosition → Slot → Option β} (described : β → Prop)
    (answers : ∀ position slot answer, volume.Reaches rooted position.lba →
      visit position slot = some answer → described answer) :
    Guided volume.toLayout allowed (sweep volume visit) (Cursor.SoundIn volume.toLayout rooted)
      fun answer cursor =>
        (∀ value, answer = some value → described value) ∧
          cursor.SoundIn volume.toLayout rooted := by
  intro walk
  simp only [afterwards, outcome]
  -- A slot that is passed leaves a sound cursor, from which the sweep goes on.
  fun_induction sweep volume visit walk with
  | case1 walk failure rest yielded =>
    intro begun
    exact ⟨(nextSlot_guided reads).ran_error begun yielded, by simp⟩
  | case2 walk rest yielded =>
    intro begun
    obtain ⟨steps, _, sound⟩ := (nextSlot_guided reads).ran_ok begun yielded
    constructor
    · exact steps
    · intro value ended
      cases ended
      exact ⟨by simp, sound⟩
  | case3 walk position slot rest yielded answer answered =>
    intro begun
    obtain ⟨steps, reached, sound⟩ := (nextSlot_guided reads).ran_ok begun yielded
    constructor
    · exact steps
    · intro value ended
      cases ended
      refine ⟨fun found same => ?_, sound⟩
      cases same
      exact answers position slot answer (reached _ rfl) answered
  | case4 walk position slot rest yielded passed inductionHypothesis =>
    intro begun
    obtain ⟨steps, _, sound⟩ := (nextSlot_guided reads).ran_ok begun yielded
    obtain ⟨further, concluded⟩ := inductionHypothesis sound
    exact ⟨steps.trans further, concluded⟩

/-- Searching on for an entry keeps the cursor sound, and takes permitted steps only. -/
theorem nextEntry_guided (wanted : Entry → Bool) :
    Guided volume.toLayout allowed (nextEntry volume wanted)
      (Cursor.SoundIn volume.toLayout rooted)
      fun _ cursor => cursor.SoundIn volume.toLayout rooted := by
  apply (sweep_guided reads (fun _ => True) fun _ _ _ _ _ => trivial).bind
  intro answer
  match answer with
  | some (some entry) => exact .pure fun _ swept => swept.2
  | some none =>
    refine Guided.modify_bind (Cursor.SoundIn volume.toLayout rooted) (fun _ => rfl)
      (fun _ _ => .inl rfl) ?_
    exact .pure fun _ sound => sound
  | none => exact .pure fun _ swept => swept.2

end Cursor

end FatVolume
