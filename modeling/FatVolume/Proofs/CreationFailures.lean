import FatVolume.Proofs.ChainReads
import FatVolume.Proofs.FreeSpace
import FatVolume.Proofs.Lookups
import FatVolume.Proofs.Prolongation

/-!
# Creations that fail

On a disk that refuses nothing, a creation fails before its first write, with one exception. A
chain without a free slot grows before a cluster is claimed for the directory itself, so the
search for that cluster may come to nothing behind the growth. The chain then keeps what it has
gained, an empty cluster behind its last one, and no cluster is claimed that no chain leads to.

Whether a creation at a vacant name succeeds, and how it fails, is decided by two counts on the
medium that it starts from: the free slots of the parent and the free clusters.
-/

namespace FatVolume

namespace ShortName

/-- Where a part of a component cannot be encoded, the failure is never the one that
stands for a missing entry. -/
theorem encodePart_ne_notFound (width : Nat) (bytes : List UInt8) :
    encodePart width bytes ≠ .error .notFound := by
  intro told
  simp only [encodePart] at told
  split at told
  · cases told
  · cases told

/-- Where a component cannot be encoded as a name, the failure is never the one that
stands for a missing entry. -/
theorem encode_ne_notFound (component : List Char) : encode component ≠ .error .notFound := by
  intro missing
  simp only [encode] at missing
  split at missing
  · cases missing
  split at missing
  · cases missing
  generalize stemmed : encodePart 8 _ = stem at missing
  cases stem with
  | error failure =>
    cases missing
    exact encodePart_ne_notFound _ _ stemmed
  | ok stemPart =>
    change (if _ then _ else _) = _ at missing
    split at missing
    · cases missing
    generalize extended : encodePart 3 _ = extension at missing
    cases extension with
    | error failure =>
      cases missing
      exact encodePart_ne_notFound _ _ extended
    | ok extensionPart => cases missing

end ShortName

/-- Opening what a path leads to, where it is no directory, never fails with the failure
that stands for a missing entry. -/
theorem Resolved.directory_ne_notFound (resolved : Resolved) :
    resolved.directory ≠ .error .notFound := by
  intro told
  simp only [Resolved.directory] at told
  split at told <;> cases told

namespace Medium

/-- The part of a path in front of its last component leads to a directory. -/
def ParentOf (medium : Medium) (volume : Volume) (path : List Char) (parent : Directory) : Prop :=
  ∃ front leaf, Path.splitLeaf path = some (front, leaf) ∧
    (medium.resolve volume front >>= Resolved.directory) = .ok parent

variable {medium : Medium} {volume : Volume}

/-! ## Growing a chain -/

/-- Where the links that lead on from a data cluster come to an end without a failure,
that cluster and those they meet form an intact chain. -/
theorem chain_of_beyond {links first : Nat} (data : volume.DataCluster first)
    (whole : (medium.beyond volume links first).ending = none) :
    medium.ChainFrom volume first (first :: (medium.beyond volume links first).items) := by
  -- A course that ends without a failure has met an end mark, behind however many links.
  induction links generalizing first with
  | zero =>
    rw [beyond] at whole ⊢
    split at whole
    · cases whole
    · next followed => exact .last data (ends_of_follow followed)
    · cases whole
  | succ links inductionHypothesis =>
    rw [beyond] at whole ⊢
    split at whole
    · cases whole
    · next followed => exact .last data (ends_of_follow followed)
    · next successor followed =>
      exact .next data (linked_of_follow followed)
        (inductionHypothesis (follow_data followed) whole)

/-- Where a chain has been searched for a free slot to its end, its clusters form an
intact chain, which ends in the last cluster of it. -/
theorem chain_of_freeSlot {first : Nat}
    (full : (medium.slots volume (.chain first)).freeSlot = .ok none) :
    ∃ front, medium.ChainFrom volume first (front ++ [medium.lastCluster volume first]) := by
  have data := data_of_freeSlot full
  have whole := ending_of_freeSlot full
  rw [slots_chain data] at whole
  have chain := chain_of_beyond data whole
  obtain ⟨front, divided⟩ := List.getLast?_eq_some_iff.mp (chain.lastCluster chain.distinct)
  exact ⟨front, divided ▸ chain⟩

/-- The writes by which a full chain grows prolong it by the free cluster behind its last
one, and change nothing else on the medium. -/
theorem prolonged_of_growthWrites {first added : Nat}
    (full : (medium.slots volume (.chain first)).freeSlot = .ok none)
    (free : medium.firstFree volume = some added) :
    ∃ front, medium.Prolonged
      (medium.apply (medium.growthWrites volume (medium.lastCluster volume first) added))
      volume first front (medium.lastCluster volume first) added := by
  obtain ⟨front, chain⟩ := chain_of_freeSlot full
  exact ⟨front, chain.prolonged free⟩

/-! ## Vacant names -/

/-- A path with a vacant name has a parent: what stands in front of its last component
leads to that directory. -/
theorem parentOf_of_vacancy {path : List Char} {parent : Directory} {name : RawName}
    (vacant : medium.vacancy volume path = .ok (parent, name)) :
    medium.ParentOf volume path parent := by
  simp only [vacancy] at vacant
  split at vacant
  · cases vacant
  · split at vacant
    · cases vacant
    · next front leaf divided =>
      obtain ⟨above, led, vacant⟩ := ok_of_bind vacant
      obtain ⟨directory, opened, vacant⟩ := ok_of_bind vacant
      obtain ⟨_, _, vacant⟩ := ok_of_bind vacant
      cases vacant
      exact ⟨front, leaf, divided, by rw [led]; exact opened⟩
  · cases vacant

/-- Where a path names nothing but the part in front of its last component names something, this
is a directory, and the component has a short name. -/
theorem opens_of_missing {path front leaf : List Char} {above : Resolved}
    (divided : Path.splitLeaf path = some (front, leaf))
    (missing : medium.resolve volume path = .error .notFound)
    (led : medium.resolve volume front = .ok above) :
    ∃ parent name, above.directory = .ok parent ∧ ShortName.encode leaf = .ok name := by
  rw [resolve_eq_walk, Path.names_of_splitLeaf divided, walk_concat, ← resolve_eq_walk, led] at missing
  change medium.stride volume above (ShortName.encode leaf) = _ at missing
  rw [stride] at missing
  -- of the failures on the way to the search, none is that of a missing entry
  cases opened : above.directory with
  | error failure =>
    rw [opened] at missing
    cases missing
    exact absurd opened above.directory_ne_notFound
  | ok parent =>
    rw [opened] at missing
    change (ShortName.encode leaf >>= fun name => _) = _ at missing
    cases encoded : ShortName.encode leaf with
    | error failure =>
      rw [encoded] at missing
      cases missing
      exact absurd encoded (ShortName.encode_ne_notFound leaf)
    | ok name => exact ⟨parent, name, rfl, rfl⟩

/-- A name is vacant in the directory to which the front of its path leads, where the path
itself is not found and its last component is encoded as that name. -/
theorem vacancy_eq {path front leaf : List Char} {above : Resolved} {parent : Directory}
    {name : RawName} (divided : Path.splitLeaf path = some (front, leaf))
    (missing : medium.resolve volume path = .error .notFound)
    (led : medium.resolve volume front = .ok above) (opened : above.directory = .ok parent)
    (encoded : ShortName.encode leaf = .ok name) :
    medium.vacancy volume path = .ok (parent, name) := by
  simp only [vacancy]
  rw [missing, divided]
  dsimp only
  rw [led, encoded]
  change (above.directory >>= fun parent => _) = _
  rw [opened]
  rfl

/-- Where a path is not found and has a parent, its last component can be encoded as a
name, and this name is vacant in the parent. -/
theorem vacancy_of_missing {path : List Char} {parent : Directory}
    (missing : medium.resolve volume path = .error .notFound)
    (below : medium.ParentOf volume path parent) :
    ∃ name, medium.vacancy volume path = .ok (parent, name) := by
  obtain ⟨front, leaf, divided, opened⟩ := below
  obtain ⟨above, led, opened⟩ := ok_of_bind opened
  obtain ⟨_, name, _, encoded⟩ := opens_of_missing divided missing led
  exact ⟨name, vacancy_eq divided missing led opened encoded⟩

/-! ## How a creation fails -/

/-- The claim of a slot that fails has not written anything, since every failure comes
before its first write. -/
theorem Claims.unwritten {parent : Directory} {failure : Failure} {writes : List Write}
    (claims : medium.Claims volume parent (.error failure) writes) : writes = [] := by
  cases claims <;> rfl

namespace Creates

variable {path : List Char} {writes : List Write}

/-- A creation that fails has written nothing, or has run out of clusters behind the
growth of its parent, and then has changed nothing but that. -/
theorem unwritten_or_prolonged {failure : Failure}
    (creates : medium.Creates volume path (.error failure) writes) :
    writes = [] ∨ failure = .noSpace ∧ ∃ first front last added,
      medium.ParentOf volume path (.chain first) ∧ medium.freeSlots volume (.chain first) = 0 ∧
        medium.Prolonged (medium.apply writes) volume first front last added := by
  cases creates with
  | refused => exact .inl rfl
  | unclaimed vacant claims => exact .inl claims.unwritten
  | exhausted vacant claims none =>
    cases claims with
    | found => exact .inl rfl
    | @grown first added full free =>
      obtain ⟨front, prolonged⟩ := prolonged_of_growthWrites full free
      exact .inr ⟨rfl, first, front, _, added, parentOf_of_vacancy vacant,
        freeSlots_of_full full, prolonged⟩

/-- At a vacant name whose parent can be walked, a creation either succeeds, or finds a
root without a free slot, or finds too few free clusters. -/
theorem ends_of_vacant {result : Except Failure Nat} {parent : Directory} {name : RawName}
    (creates : medium.Creates volume path result writes)
    (vacant : medium.vacancy volume path = .ok (parent, name))
    (whole : (medium.slots volume parent).ending = none) :
    (∃ cluster, result = .ok cluster) ∨
      (result = .error .directoryFull ∧ parent = .root ∧ medium.freeSlots volume parent = 0) ∨
      (result = .error .noSpace ∧ ¬ (parent = .root ∧ medium.freeSlots volume parent = 0)) := by
  cases creates with
  | refused taken =>
    rw [vacant] at taken
    cases taken
  | unclaimed again claims =>
    rw [vacant] at again
    cases again
    cases claims with
    | rootFull full => exact .inr (.inl ⟨rfl, rfl, freeSlots_of_full full⟩)
    | exhausted full none => exact .inr (.inr ⟨rfl, by simp⟩)
    | broken breaks =>
      rw [ending_of_freeSlot_error breaks] at whole
      cases whole
  | exhausted again claims none =>
    rw [vacant] at again
    cases again
    refine .inr (.inr ⟨rfl, fun ⟨root, full⟩ => ?_⟩)
    subst root
    cases claims with
    | found slot => exact freeSlots_of_vacant slot full
  | created again claims free => exact .inl ⟨_, rfl⟩

/-- How a creation at a vacant name ends is decided by two counts, of the free slots of
the parent and of the free clusters, against what it takes. -/
theorem decided {result : Except Failure Nat} {parent : Directory} {name : RawName}
    (creates : medium.Creates volume path result writes)
    (vacant : medium.vacancy volume path = .ok (parent, name))
    (whole : (medium.slots volume parent).ending = none) :
    let full := parent = .root ∧ medium.freeSlots volume parent = 0
    let enough :=
      clustersTaken (medium.freeSlots volume parent) ≤ (medium.freeClusters volume).card
    (result = .error .directoryFull ↔ full) ∧
      (¬ full → ((∃ cluster, result = .ok cluster) ↔ enough) ∧
        (result = .error .noSpace ↔ ¬ enough)) := by
  intro full enough
  have admits := creates.ok_iff vacant whole
  rcases creates.ends_of_vacant vacant whole with
    ⟨cluster, rfl⟩ | ⟨rfl, root, taken⟩ | ⟨rfl, notFull⟩
  · obtain ⟨slot, clusters⟩ := admits.mp ⟨cluster, rfl⟩
    have notFull : ¬ full := fun ⟨root, taken⟩ => slot root taken
    exact ⟨iff_of_false nofun notFull, fun _ =>
      ⟨iff_of_true ⟨_, rfl⟩ clusters, iff_of_false nofun (not_not_intro clusters)⟩⟩
  · exact ⟨iff_of_true rfl ⟨root, taken⟩, fun notFull => absurd ⟨root, taken⟩ notFull⟩
  · have lacks : ¬ enough := fun clusters => by
      obtain ⟨_, made⟩ := admits.mpr ⟨fun root taken => notFull ⟨root, taken⟩, clusters⟩
      cases made
    exact ⟨iff_of_false nofun notFull, fun _ =>
      ⟨iff_of_false nofun lacks, iff_of_true rfl lacks⟩⟩

end Creates

end Medium

namespace Volume

variable {volume : Volume} {host : Host} {path : List Char}

/-- A creation that fails on a disk that refuses nothing has written nothing. It may have run
out of clusters behind the growth of its parent, and then the disk differs by that growth alone.
Where the name is vacant and the slots of its parent can be walked, the creation is told that
the directory is full exactly for a root without a free slot; otherwise it succeeds exactly if
there are enough free clusters, two for a parent without a free slot, and is told that there is
no space if not. -/
theorem createDirectory_concludes (sized : host.disk.sectorSize = 512)
    (undisturbed : host.Undisturbed (afterwards (volume.createDirectory path) host)) :
    let result := outcome (volume.createDirectory path) host
    let after := afterwards (volume.createDirectory path) host
    (∀ failure, result = .error failure → host.Spared Event.IsWrite after ∨
      failure = .noSpace ∧ ∃ first front last added,
        host.medium.ParentOf volume path (.chain first) ∧
        host.medium.freeSlots volume (.chain first) = 0 ∧
        host.medium.Prolonged after.medium volume first front last added) ∧
    ∀ parent, host.medium.resolve volume path = .error .notFound →
      host.medium.ParentOf volume path parent → (host.medium.slots volume parent).ending = none →
      let full := parent = .root ∧ host.medium.freeSlots volume parent = 0
      let enough := clustersTaken (host.medium.freeSlots volume parent) ≤
        (host.medium.freeClusters volume).card
      (result = .error .directoryFull ↔ full) ∧
      (¬ full → ((∃ cluster, result = .ok cluster) ↔ enough) ∧
        (result = .error .noSpace ↔ ¬ enough)) := by
  intro result after
  -- Nothing was refused, so the creation ended and wrote as the medium says.
  obtain ⟨intended, writes, performs, creates⟩ :=
    volume.createDirectory_performs host.medium path
  obtain ⟨ended, events, traced, carried⟩ := (performs host rfl).journaled sized undisturbed
  obtain ⟨_, changed⟩ := (performs host rfl).carriedOut sized undisturbed
  subst ended
  constructor
  · intro failure failed
    change outcome _ host = _ at failed
    rw [failed] at creates
    rcases creates.unwritten_or_prolonged with none | ⟨exhausted, first, front, last, added,
      below, full, prolonged⟩
    · exact .inl (undisturbed.unwritten traced (carried.trans none))
    · rw [← changed] at prolonged
      exact .inr ⟨exhausted, first, front, last, added, below, full, prolonged⟩
  · intro parent missing below whole
    obtain ⟨name, vacant⟩ := Medium.vacancy_of_missing missing below
    exact creates.decided vacant whole

/-- A host with a disk of eight sectors on which the root region leads to a directory of one
cluster whose slots are all taken. -/
def brimfulHost : Host where
  disk :=
    { capacity := 8
      contents :=
        let labels : Sector := Vector.replicate 512 Attributes.volumeLabel
        ((((∅ : Std.TreeMap Nat Sector).insert 1
          (Sector.zero.setWord (Layout.linkIndex 2) Link.endMark)).insert 3
            (Sector.ofRecords [(Mounted.lone 0x44 Attributes.directory 0 2).encode])).insert 4
              labels).insert 5 labels }
  largestBlock := 4096

/-- On a disk with one free cluster and a full parent, the cluster goes to the growth of
the parent, and there is none left for the directory. -/
theorem createDirectory_concludes_brimful :
    let path := ['D', '/', 'A']
    let after := afterwards (narrow.createDirectory path) brimfulHost
    brimfulHost.disk.sectorSize = 512 ∧ brimfulHost.Undisturbed after ∧
      brimfulHost.medium.resolve narrow path = .error .notFound ∧
      brimfulHost.medium.ParentOf narrow path (.chain 2) ∧
      (brimfulHost.medium.slots narrow (.chain 2)).ending = none ∧
      outcome (narrow.createDirectory path) brimfulHost = .error .noSpace ∧
      ∃ first front last added,
        brimfulHost.medium.Prolonged after.medium narrow first front last added := by
  intro path after
  have serves : brimfulHost.Serves narrow :=
    { sized := rfl
      reached := fun _ owned => Nat.lt_of_lt_of_le owned.lt_dataEnd (by decide)
      granted := fun _ _ _ => rfl }
  have confined : Confined narrow.toLayout AnyTransfer (narrow.createDirectory path) _ :=
    createDirectory_confined (fun _ => trivial) path
  have calm : brimfulHost.Undisturbed after := (confined brimfulHost).1.served serves
  have missing : brimfulHost.medium.resolve narrow path = .error .notFound := by decide +kernel
  have below : brimfulHost.medium.ParentOf narrow path (.chain 2) :=
    ⟨['D'], ['A'], rfl, by decide +kernel⟩
  have whole : (brimfulHost.medium.slots narrow (.chain 2)).ending = none := by decide +kernel
  have lacks : ¬ clustersTaken (brimfulHost.medium.freeSlots narrow (.chain 2)) ≤
      (brimfulHost.medium.freeClusters narrow).card := by decide +kernel
  have wrote : after.trace.any (fun event => event.write?.isSome) = true := by decide +kernel
  obtain ⟨failed, decided⟩ := createDirectory_concludes rfl calm
  have exhausted := ((decided (.chain 2) missing below whole).2 (by simp)).2.mpr lacks
  refine ⟨rfl, calm, missing, below, whole, exhausted, ?_⟩
  rcases failed .noSpace exhausted with unwritten | ⟨_, first, front, last, added, _, _, prolonged⟩
  · obtain ⟨event, member, served⟩ := List.any_eq_true.mp wrote
    refine absurd ?_ (unwritten.known (List.append_nil after.trace).symm event member)
    match event, served with
    | .transfer (.write lba data) none, _ => exact ⟨lba, data, none, rfl⟩
  · exact ⟨first, front, last, added, prolonged⟩

end Volume

end FatVolume
