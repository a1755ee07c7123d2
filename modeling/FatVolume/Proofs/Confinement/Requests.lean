import FatVolume.Proofs.Confinement.Cursors
import FatVolume.Task

/-!
# Requests stay inside their volume

The operations on paths are assembled from those on links and cursors. A request is one
call by a user of a mounted volume, with all its arguments. Whatever the medium holds
and whichever transfers are refused, a request reads and writes only addresses that the
volume owns, writes only if it creates a directory, and works out every address and
counter without leaving a machine word.
-/

namespace FatVolume

variable {β : Type} {volume : Volume} {allowed : Transfer → Prop} {rooted : Prop}

namespace Listing

variable (reads : ∀ lba, volume.Reaches rooted lba → allowed (.read lba))
include reads

/-- The next shown entry is found in permitted steps, and the cursor stays sound, whether
or not there is one. -/
theorem next_guided (shown : Shown) :
    Guided volume.toLayout allowed (next volume shown) (Cursor.SoundIn volume.toLayout rooted)
      fun _ cursor => cursor.SoundIn volume.toLayout rooted := by
  intro walk begun
  obtain ⟨steps, known⟩ := Cursor.nextEntry_guided reads shown.wanted walk begun
  simp only [afterwards, outcome, next] at *
  cases found : Cursor.nextEntry volume shown.wanted walk with
  | ok entry rest =>
    rw [found] at steps known
    exact ⟨steps, known⟩
  | error failure rest =>
    rw [found] at steps
    exact ⟨steps, by simp⟩

/-- Handing over the entries of a directory takes permitted steps only, whatever the
visitor makes of them. -/
theorem deliver_guided {σ : Type} (shown : Shown) (visit : σ → Entry → ForInStep σ) (state : σ) :
    Guided volume.toLayout allowed (deliver volume shown visit state)
      (Cursor.SoundIn volume.toLayout rooted) fun _ _ => True := by
  intro walk
  simp only [afterwards, outcome]
  fun_induction deliver volume shown visit state walk with
  | case1 state walk failure rest found =>
    intro begun
    exact ⟨(next_guided reads shown).ran_error begun found, fun _ _ => trivial⟩
  | case2 state walk rest found =>
    intro begun
    exact ⟨((next_guided reads shown).ran_ok begun found).1, fun _ _ => trivial⟩
  | case3 state walk entry rest found final stopped =>
    intro begun
    exact ⟨((next_guided reads shown).ran_ok begun found).1, fun _ _ => trivial⟩
  | case4 state walk entry rest found following visited inductionHypothesis =>
    intro begun
    obtain ⟨steps, sound⟩ := (next_guided reads shown).ran_ok begun found
    obtain ⟨further, concluded⟩ := inductionHypothesis sound
    exact ⟨steps.trans further, concluded⟩

omit reads in
/-- A number that grows by one at most with each entry grows by no more in all than there are
slots in front of the cursor. -/
theorem deliver_grows {σ : Type} (shown : Shown) {visit : σ → Entry → ForInStep σ}
    {measure : σ → Nat}
    (grows : ∀ state entry, measure (visit state entry).value ≤ measure state + 1) (state : σ)
    (walk : Walk) {delivery : Delivery σ} {rest : Walk}
    (delivered : deliver volume shown visit state walk = .ok delivery rest) :
    measure delivery.state ≤ measure state + walk.cursor.slotsLeft volume := by
  -- Each entry that is handed over brings the cursor nearer to its end, and the visitor grows by
  -- one at most.
  fun_induction deliver volume shown visit state walk with
  | case1 state walk failure left found =>
    cases delivered
    exact Nat.le_add_right _ _
  | case2 state walk left found =>
    cases delivered
    exact Nat.le_add_right _ _
  | case3 state walk entry left found final stopped =>
    cases delivered
    have fewer := next_slotsLeft found
    have grown := grows state entry
    rw [stopped] at grown
    exact Nat.le_trans grown (Nat.add_le_add_left (Nat.lt_of_le_of_lt (Nat.zero_le _) fewer) _)
  | case4 state walk entry left found following visited inductionHypothesis =>
    have further := inductionHypothesis delivered
    have fewer := next_slotsLeft found
    have grown := grows state entry
    rw [visited] at grown
    simp only [ForInStep.value] at grown
    omega

/-- A listing from a sound cursor is confined, and a number that grows by one at most with each
entry is bounded by the slots in front of the cursor. -/
theorem deliver_confined {σ : Type} (shown : Shown) {visit : σ → Entry → ForInStep σ}
    (measure : σ → Nat)
    (grows : ∀ state entry, measure (visit state entry).value ≤ measure state + 1) (state : σ)
    {cursor : Cursor} (sound : cursor.SoundIn volume.toLayout rooted) :
    Confined volume.toLayout allowed (cursor.along (deliver volume shown visit state))
      fun delivery => measure delivery.state ≤ measure state + cursor.slotsLeft volume := by
  have bounded (host : Host) (delivery : Delivery σ)
      (ended : outcome (cursor.along (deliver volume shown visit state)) host = .ok delivery) :
      measure delivery.state ≤ measure state + cursor.slotsLeft volume := by
    obtain ⟨rest, ran⟩ := Cursor.ran_of_along ended
    exact deliver_grows shown grows state _ ran
  exact (((deliver_guided reads shown visit state).along sound).knowing bounded).mono
    fun _ known => known.2

/-- Collecting the entries of a directory takes permitted steps only, with or without a
limit. -/
theorem collect_guided (shown : Shown) (limit : Option Nat) :
    Guided volume.toLayout allowed (collect volume shown limit)
      (Cursor.SoundIn volume.toLayout rooted) fun _ _ => True := by
  simp only [collect]
  split
  · exact .pure fun _ _ => trivial
  · exact deliver_guided reads shown _ _

end Listing

namespace Volume

section Reading

variable (reads : ∀ lba, volume.Reaches rooted lba → allowed (.read lba))
include reads

/-- Searching a directory for a name takes permitted steps only. For the root, entering
the root region has to be allowed. -/
theorem findEntry_confined (directory : Directory) (name : RawName)
    (enters : directory = .root → rooted) :
    Confined volume.toLayout allowed (volume.findEntry directory name) fun _ => True := by
  apply (Cursor.start_confined directory enters).bind
  intro cursor sound
  apply ((Cursor.nextEntry_guided reads _).along sound).bind
  intro entry _
  split
  · exact .pure trivial
  · exact .throw _

/-- A free slot that is found lies in a sector within reach, so an entry may be written
there. -/
theorem nextFree_guided :
    Guided volume.toLayout allowed (Cursor.nextFree volume)
      (Cursor.SoundIn volume.toLayout rooted)
      fun position cursor =>
        (∀ found, position = some found → volume.Reaches rooted found.lba) ∧
          cursor.SoundIn volume.toLayout rooted := by
  refine Cursor.sweep_guided reads
    (fun position : SlotPosition => volume.Reaches rooted position.lba) ?_
  intro position slot answer reached answered
  split at answered
  · cases answered
    exact reached
  · cases answered

/-- The root region is searched for a free slot in permitted steps where it may be
entered, and the slot lies within reach. -/
theorem freeRootSlot_confined (enters : rooted) :
    Confined volume.toLayout allowed volume.freeRootSlot
      fun position => volume.Reaches rooted position.lba := by
  apply (Cursor.start_confined .root fun _ => enters).bind
  intro cursor sound
  apply ((nextFree_guided reads).along sound).bind
  intro found known
  obtain ⟨_, reached, _⟩ := known
  cases found with
  | some position => exact .pure (reached position rfl)
  | none => exact .throw _

/-- A chain is searched for a free slot in permitted steps outside the root region, and a
slot that is found lies there. -/
theorem freeChainSlot_confined (first : Nat) :
    Confined volume.toLayout allowed (volume.freeChainSlot first)
      fun search => ∀ position, search = .found position → volume.Reaches rooted position.lba := by
  apply (Cursor.start_confined (.chain first) fun chained => nomatch chained).bind
  intro cursor sound
  refine (Guided.along ?_ sound).mono fun search known => known.elim fun _ reached => reached
  apply (nextFree_guided reads).bind
  intro found
  cases found with
  | some position =>
    refine .pure fun _ known other same => ?_
    cases same
    exact known.1 position rfl
  | none => exact Guided.get.bind fun walk => .pure fun _ _ => by simp

end Reading

section Paths

variable (reads : ∀ lba, allowed (.read lba))
include reads

/-- Looking up a path takes permitted steps only, and the recorded size of what it names
fits the field that holds it. -/
theorem resolve_confined (path : List Char) :
    Confined volume.toLayout allowed (volume.resolve path)
      fun resolved => resolved.size < 2 ^ 32 := by
  refine .foldlM (fun current component _ => ?_) _ (by decide)
  apply (Confined.lift fun _ _ => trivial).bind
  intro directory _
  apply (Confined.lift fun _ _ => trivial).bind
  intro name _
  exact (findEntry_confined (fun lba _ => reads lba) directory name fun _ => trivial).bind
    fun entry _ => .pure (UInt32.toNat_lt entry.size)

/-- Finding out the parent and the name of a new directory takes permitted steps only. -/
theorem vacancy_confined (path : List Char) :
    Confined volume.toLayout allowed (volume.vacancy path) fun _ => True := by
  apply (resolve_confined reads path).observe.bind
  intro ending _
  dsimp only
  split
  · exact .throw_bind _
  · split
    · exact .throw _
    · apply (resolve_confined reads _).bind
      intro resolved _
      apply (Confined.lift fun _ _ => trivial).bind
      intro parent _
      exact (Confined.lift fun _ _ => trivial).bind fun name _ => .pure trivial
  · exact .throw_bind _

end Paths

section Writing

variable (any : ∀ transfer, volume.Reaches rooted transfer.lba → allowed transfer)
include any

/-- Only a data cluster is cleared, in permitted steps outside the root region; behind
them the cluster is known to be one. -/
theorem zeroCluster_confined (cluster : Nat) :
    Confined volume.toLayout allowed (volume.zeroCluster cluster)
      fun _ => volume.DataCluster cluster := by
  apply (checkCluster_confined cluster).bind
  intro _ data
  refine (Confined.forM fun sector member => ?_).mono fun _ _ => data
  apply (clusterAddress_confined data (List.mem_range.mp member)).bind
  intro lba reached
  exact .attempt reached.1 (any _ reached.outside)

/-- Extending a chain takes permitted steps outside the root region, and what is added is
a data cluster. -/
theorem extendChain_reaches (lastCluster : Nat) :
    Confined volume.toLayout allowed (volume.extendChain lastCluster) volume.DataCluster := by
  apply (checkCluster_confined lastCluster).bind
  intro _ last
  apply (allocate_reaches any).bind
  intro added data
  apply (zeroCluster_confined any added).bind
  intro _ _
  exact (setLink_confined any last).bind fun _ _ => .pure data

/-- The first sector of a new directory lies in its data cluster, and its two entries are
put inside the sector. -/
theorem writeFirstSector_confined {cluster : Nat} (parent : Directory)
    (data : volume.DataCluster cluster) :
    Confined volume.toLayout allowed (volume.writeFirstSector cluster parent) fun _ => True := by
  apply (Confined.compute (.slotStart 0) (by decide : 0 < 16)).bind
  intro _ _
  apply (Confined.compute (.slotStart 1) (by decide : 1 < 16)).bind
  intro _ _
  apply (clusterAddress_confined data volume.usable.sectorsPerCluster_pos).bind
  intro lba reached
  exact .attempt reached.1 (any _ reached.outside)

/-- Filling a new directory takes permitted steps only, as its cluster is tested before
anything is written. -/
theorem initialiseDirectory_confined (cluster : Nat) (parent : Directory) :
    Confined volume.toLayout allowed (volume.initialiseDirectory cluster parent)
      fun _ => True := by
  have filled : Confined volume.toLayout allowed (do
      volume.zeroCluster cluster
      volume.writeFirstSector cluster parent)
      fun _ => True := by
    apply (zeroCluster_confined any cluster).bind
    intro _ data
    exact writeFirstSector_confined any parent data
  cases parent with
  | root => exact filled
  | chain above => exact (checkCluster_confined above).bind fun _ _ => filled

/-- Claiming a slot takes permitted steps only, and the slot lies within reach: in the
root region where it may be entered, or in a data cluster. -/
theorem claimSlot_confined (directory : Directory) (enters : directory = .root → rooted) :
    Confined volume.toLayout allowed (volume.claimSlot directory)
      fun position => volume.Reaches rooted position.lba := by
  cases directory with
  | root => exact freeRootSlot_confined (fun lba => any (.read lba)) (enters rfl)
  | chain first =>
    apply (freeChainSlot_confined (fun lba => any (.read lba)) first).bind
    intro search known
    cases search with
    | found position => exact .pure (known position rfl)
    | needsExtension lastCluster =>
      apply (extendChain_reaches any lastCluster).bind
      intro added data
      exact (clusterAddress_confined data volume.usable.sectorsPerCluster_pos).bind
        fun lba reached => .pure reached.outside

/-- Writing an entry into a slot within reach takes permitted steps only, and puts the
record inside the sector. -/
theorem writeEntry_confined {position : SlotPosition} (entry : Entry)
    (reached : volume.Reaches rooted position.lba) :
    Confined volume.toLayout allowed (writeEntry position entry) fun _ => True :=
  (readSector_confined (fun lba => any (.read lba)) reached).bind fun _ _ =>
    (Confined.compute (.slotStart position.index) position.index.isLt).bind fun _ _ =>
      .attempt reached.1 (any _ reached)

/-- Putting a new directory into its parent takes permitted steps only: its slot is in the
parent, and its contents are in the data region. -/
theorem insertDirectory_confined (parent : Directory) (name : RawName)
    (enters : parent = .root → rooted) :
    Confined volume.toLayout allowed (volume.insertDirectory parent name) fun _ => True := by
  apply (claimSlot_confined any parent enters).bind
  intro position reached
  apply (allocate_reaches any).bind
  intro cluster _
  apply (initialiseDirectory_confined any cluster parent).bind
  intro _ _
  exact (writeEntry_confined any _ reached).bind fun _ _ => .pure trivial

end Writing

section Anywhere

variable (any : ∀ transfer, allowed transfer)
include any

/-- Where every transfer is permitted, extending a chain takes permitted steps, and what
is added is a data cluster. -/
theorem extendChain_confined (lastCluster : Nat) :
    Confined volume.toLayout allowed (volume.extendChain lastCluster) volume.DataCluster :=
  extendChain_reaches (fun transfer (_ : volume.Reaches True transfer.lba) => any transfer)
    lastCluster

/-- Creating a directory takes permitted steps only, from the look-up of the path up to
the last write. -/
theorem createDirectory_confined (path : List Char) :
    Confined volume.toLayout allowed (volume.createDirectory path) fun _ => True :=
  (vacancy_confined (fun _ => any _) path).bind fun place _ =>
    insertDirectory_confined (fun transfer _ => any transfer) place.1 place.2 fun _ => trivial

end Anywhere

end Volume

/-! ## Contents -/

/-- A place in a chain whose cluster was tested, after fewer links than there are
clusters. It may be the end of the cluster. -/
def ChainPlace.Sound (layout : Layout) (place : ChainPlace) : Prop :=
  layout.DataCluster place.cluster ∧ place.hops < layout.clusterCount

namespace Volume

variable (reads : ∀ lba, allowed (.read lba))
include reads

/-- Moving on along a chain takes permitted steps, and leads to the first byte of a tested
cluster with one hop more. -/
theorem hop_confined {place : ChainPlace} (sound : place.Sound volume.toLayout) :
    Confined volume.toLayout allowed (volume.hop place)
      fun next => next.Sound volume.toLayout ∧ next.position = 0 := by
  apply (workOut_confined (.nextHop place.hops) sound.2).bind
  intro followed _
  split
  · next fewer =>
    apply (follow_confined (fun lba (_ : volume.Reaches True lba) => reads lba) sound.1).bind
    intro successor known
    cases successor with
    | some next => exact .pure ⟨⟨known next rfl, fewer⟩, rfl⟩
    | none => exact .throw _
  · exact .throw _

/-- Skipping clusters takes permitted steps, and keeps the place in a chain sound. The
induction is on the clusters that are still to be skipped. -/
theorem skip_confined (clusters : Nat) {place : ChainPlace} (sound : place.Sound volume.toLayout) :
    Confined volume.toLayout allowed (volume.skip clusters place)
      (ChainPlace.Sound volume.toLayout) := by
  induction clusters generalizing place with
  | zero => exact .pure sound
  | succ clusters inductionHypothesis =>
    exact (hop_confined reads sound).bind fun next known => inductionHypothesis known.1

/-- Where a sector is read, the place is inside its cluster: at the end of a cluster the next
one has been entered. -/
theorem onward_confined {place : ChainPlace} (sound : place.Sound volume.toLayout) :
    Confined volume.toLayout allowed (volume.onward place)
      fun here => here.Sound volume.toLayout ∧ here.position < volume.clusterBytes := by
  rw [onward]
  split
  · next inside => exact .pure ⟨sound, inside⟩
  · exact (hop_confined reads sound).mono fun next known =>
      ⟨known.1, known.2 ▸ volume.usable.clusterBytes_pos⟩

/-- Each run of bytes is copied from a sector of a tested cluster, and it has room behind
those that were copied before. -/
theorem copyBytes_confined {length : Nat} (sized : length < 2 ^ 32) (place : ChainPlace)
    (copied : Array UInt8) (sound : place.Sound volume.toLayout) :
    Confined volume.toLayout allowed (volume.copyBytes length place copied) fun _ => True := by
  fun_induction copyBytes volume length place copied with
  | case1 place copied wanted inductionHypothesis =>
    apply (onward_confined reads sound).bind
    intro here known
    obtain ⟨entered, inside⟩ := known
    have clustered : here.position / 512 < volume.sectorsPerCluster := by
      simp only [Layout.clusterBytes] at inside
      omega
    apply (clusterAddress_confined entered.1 clustered).bind
    intro lba reached
    apply (Confined.compute (.copiedRun here.position copied.size length)
      ⟨inside, wanted, sized⟩).bind
    intro _ _
    apply (readSector_confined (fun lba _ => reads lba) reached).bind
    intro sector _
    exact inductionHypothesis here sector entered
  | case2 place copied enough => exact .pure trivial

/-- Reading a part of a chain takes permitted steps only, whatever the offset, if the
length fits 32 bits. -/
theorem readContent_confined (first offset : Nat) {length : Nat} (sized : length < 2 ^ 32) :
    Confined volume.toLayout allowed (volume.readContent first offset length) fun _ => True := by
  have clusters := volume.usable.two_le_maxCluster
  simp only [readContent]
  split
  · exact .pure trivial
  · apply (checkCluster_confined first).bind
    intro _ data
    have begun : (ChainPlace.mk first 0 0).Sound volume.toLayout := by
      constructor
      · exact data
      · simp only [Layout.clusterCount]
        omega
    apply (workOut_confined (.clustersBefore offset) trivial).bind
    intro skipped _
    apply (skip_confined reads _ begun).bind
    intro place sound
    exact copyBytes_confined reads sized _ _ sound

end Volume

/-! ## Requests -/

namespace Mounted

variable {mounted : Mounted}

section Reading

variable (reads : ∀ lba, allowed (.read lba))
include reads

/-- A look-up takes permitted steps only, and the recorded size of what it names fits the
field that holds it. -/
theorem lookup_confined (path : List Char) :
    Confined mounted.volume.toLayout allowed (mounted.lookup path)
      fun resolved => resolved.size < 2 ^ 32 :=
  (Confined.lift fun _ _ => trivial).bind fun _ _ => Volume.resolve_confined reads _

/-- Asking for kind and size takes no step besides those of the look-up. -/
theorem status_confined (path : List Char) :
    Confined mounted.volume.toLayout allowed (mounted.status path) fun _ => True :=
  (lookup_confined reads path).bind fun _ _ => .pure trivial

/-- A look-up that is to name a file takes permitted steps only. The size of the file fits
the field that holds it. -/
theorem lookupFile_confined (path : List Char) :
    Confined mounted.volume.toLayout allowed (mounted.lookupFile path)
      fun resolved => resolved.size < 2 ^ 32 := by
  apply (lookup_confined reads path).bind
  intro resolved sized
  dsimp only
  split
  · exact .throw_bind _
  · exact .pure sized

/-- Reading a whole file takes permitted steps only; as its size fits 32 bits, so does the
length that is read. -/
theorem readWhole_confined (path : List Char) :
    Confined mounted.volume.toLayout allowed (mounted.readWhole path) fun _ => True := by
  apply (lookupFile_confined reads path).bind
  intro resolved sized
  split
  · exact .pure trivial
  · apply (Confined.get fun _ => trivial).bind
    intro host _
    dsimp only
    split
    · exact .throw_bind _
    · exact Volume.readContent_confined reads _ _ sized

/-- The bytes behind the offset are counted only when there are some, and no more are wanted
of them than the buffer has room for. -/
theorem readWindow_confined (path : List Char) (offset : Nat) (buffer : Array UInt8) :
    Confined mounted.volume.toLayout allowed (mounted.readWindow path offset buffer)
      fun _ => True := by
  unfold readWindow
  split
  · exact .pure trivial
  · apply (lookupFile_confined reads path).bind
    intro resolved sized
    dsimp only
    split
    · exact .throw_bind _
    · next inside =>
      apply (Volume.workOut_confined (.bytesBehind resolved.size offset)
        (Nat.lt_of_not_le inside)).bind
      intro left counted
      have few : left < 2 ^ 32 := counted ▸ Nat.lt_of_le_of_lt (Nat.sub_le _ _) sized
      apply (Volume.workOut_confined (.firstBytes (min buffer.size left) buffer.size)
        ⟨Nat.lt_of_le_of_lt (Nat.min_le_right _ _) few, Nat.min_le_left _ _⟩).bind
      intro filled bounded
      have wanted : filled < 2 ^ 32 :=
        bounded ▸ Nat.lt_of_le_of_lt (Nat.min_le_right _ _) few
      exact (Volume.readContent_confined reads _ _ wanted).bind fun _ _ => .pure trivial

/-- A directory is opened with a sound cursor, which has fewer slots ahead than a signed word
can count. -/
theorem openDirectory_confined (path : List Char) :
    Confined mounted.volume.toLayout allowed (mounted.openDirectory path)
      fun cursor => cursor.Sound mounted.volume.toLayout ∧
        cursor.slotsLeft mounted.volume < 2 ^ 31 := by
  apply (lookup_confined reads path).bind
  intro resolved _
  exact (Confined.lift fun _ _ => trivial).bind fun directory _ =>
    .lift fun cursor started =>
      ⟨Cursor.start_sound started fun _ => trivial, Cursor.start_slotsLeft_lt started⟩

/-- Listing a directory into an array takes permitted steps only, with or without a limit. -/
theorem readDirectory_confined (path : List Char) (limit : Option Nat) :
    Confined mounted.volume.toLayout allowed (mounted.readDirectory path limit)
      fun _ => True := by
  apply (openDirectory_confined reads path).bind
  intro cursor known
  exact ((Listing.collect_guided (fun lba _ => reads lba) _ _).along known.1).mono
    fun _ _ => trivial

omit reads in
/-- With each entry the count grows by one at most, and with it whatever does under the visitor
that is counted for. -/
theorem counting_grows {σ : Type} {visit : σ → Entry → ForInStep σ} {measure : σ → Nat}
    (grows : ∀ state entry, measure (visit state entry).value ≤ measure state + 1)
    (progress : σ × Nat) (entry : Entry) :
    max (measure (counting visit progress entry).value.1) (counting visit progress entry).value.2 ≤
      max (measure progress.1) progress.2 + 1 := by
  have grown := grows progress.1 entry
  simp only [counting]
  cases stepped : visit progress.1 entry with
  | done final =>
    rw [stepped] at grown
    simp only [ForInStep.value] at grown ⊢
    omega
  | yield following =>
    rw [stepped] at grown
    simp only [ForInStep.value] at grown ⊢
    omega

omit reads in
/-- The entries are counted below the bound of a signed word, and so is whatever grows by one at
most with each of them. -/
theorem handEntries_confined
    (inside : ∀ lba, mounted.volume.Reaches rooted lba → allowed (.read lba)) {σ : Type}
    {visit : σ → Entry → ForInStep σ} (measure : σ → Nat)
    (grows : ∀ state entry, measure (visit state entry).value ≤ measure state + 1) {state : σ}
    (begun : measure state = 0) {cursor : Cursor}
    (sound : cursor.SoundIn mounted.volume.toLayout rooted)
    (few : cursor.slotsLeft mounted.volume < 2 ^ 31) :
    Confined mounted.volume.toLayout allowed (mounted.handEntries cursor visit state)
      fun listed => measure listed.1 < 2 ^ 31 ∧
        ∀ count, listed.2 = .ok count → count < 2 ^ 31 := by
  apply (Listing.deliver_confined inside .named
    (fun progress => max (measure progress.1) progress.2) (counting_grows grows)
    (state, 0) sound).bind
  intro delivery bounded
  rw [begun] at bounded
  have counted : delivery.state.2 < 2 ^ 31 := by omega
  have measured : measure delivery.state.1 < 2 ^ 31 := by omega
  apply (Volume.workOut_confined (.entryCount delivery.state.2)
    (Nat.lt_trans counted (by decide))).bind
  intro count same
  split
  · exact .pure ⟨measured, by simp⟩
  · exact .pure ⟨measured, fun told ended => by cases ended; exact same ▸ counted⟩

/-- Telling a visitor the entries of a directory takes permitted steps only. What grows by
one at most for each entry stays below 2 ^ 31, and so does the count that is told. -/
theorem listDirectory_confined {σ : Type} (path : List Char) {visit : σ → Entry → ForInStep σ}
    (measure : σ → Nat)
    (grows : ∀ state entry, measure (visit state entry).value ≤ measure state + 1) {state : σ}
    (begun : measure state = 0) :
    Confined mounted.volume.toLayout allowed (mounted.listDirectory path visit state)
      fun listed => measure listed.1 < 2 ^ 31 ∧
        ∀ count, listed.2 = .ok count → count < 2 ^ 31 := by
  apply (openDirectory_confined reads path).observe.bind
  intro opened known
  cases opened with
  | error failure => exact .pure ⟨by rw [begun]; decide, by simp⟩
  | ok cursor =>
    obtain ⟨sound, few⟩ := known cursor rfl
    exact handEntries_confined (fun lba _ => reads lba) measure grows begun sound few

/-- Listing into records takes permitted steps only. The visitor fills one record more at
most for each entry, so that the number of them is a proper one to count. -/
theorem listRecords_confined (task : Task) (path : Option (List Char))
    (records : Array ListingRecord) :
    Confined mounted.volume.toLayout allowed (mounted.listRecords task path records)
      fun _ => True := by
  have grows (buffer : RecordBuffer) (entry : Entry) :
      (buffer.add entry).value.filled ≤ buffer.filled + 1 := by
    simp only [RecordBuffer.add]
    split
    · exact Nat.le_refl _
    · exact Nat.le_succ _
  simp only [listRecords]
  split
  · exact .pure trivial
  · apply (listDirectory_confined reads _ RecordBuffer.filled grows rfl).bind
    intro listed few
    refine (Volume.workOut_confined (.entryCount listed.1.filled) ?_).bind
      fun _ _ => .pure trivial
    exact Nat.lt_trans few.1 (by decide)

/-- The system call takes the steps of the listing and no others; turning a failure into a
number takes none. -/
theorem systemList_confined (task : Task) (path : Option (List Char))
    (records : Array ListingRecord) :
    Confined mounted.volume.toLayout allowed (mounted.systemList task path records)
      fun _ => True := by
  apply (listRecords_confined reads task path records).bind
  intro listed _
  dsimp only
  split
  · exact .pure trivial
  · exact .pure trivial

/-- A change of the current directory takes the steps of a look-up. The tests of the text
take none. -/
theorem changeDirectory_confined (task : Task) (path : List Char) :
    Confined mounted.volume.toLayout allowed (task.changeDirectory mounted path)
      fun _ => True := by
  rw [Task.changeDirectory_eq]
  apply (Confined.lift fun _ _ => trivial).bind
  intro target _
  apply (lookup_confined reads target).bind
  intro resolved _
  apply (Confined.lift fun _ _ => trivial).bind
  intro directory _
  dsimp only
  split
  · exact .throw_bind _
  · exact .pure trivial

end Reading

/-- Making a directory takes permitted steps only where every transfer is permitted, and
its notice is a step that needs no permission. -/
theorem makeDirectory_confined (any : ∀ transfer, allowed transfer) (path : List Char) :
    Confined mounted.volume.toLayout allowed (mounted.makeDirectory path) fun _ => True := by
  apply (Confined.lift fun _ _ => trivial).bind
  intro normal _
  exact (Volume.createDirectory_confined any normal).bind fun _ _ => .report _

end Mounted

end FatVolume
