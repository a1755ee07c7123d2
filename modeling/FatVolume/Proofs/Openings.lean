import FatVolume.Proofs.Confinement.Regions
import FatVolume.Proofs.Listings
import FatVolume.Proofs.ShortNames

/-!
# Opening a directory below the root

A path that names a directory leads to a chain or to the root region, and which of the two is
decided by the cluster that its entry records: zero opens the root region, whatever entry the zero
is recorded in. Every other number is tested, and either begins a chain in the data region or is
refused.

So an operation that opens a directory with a recorded cluster other than zero touches the root
region only while it looks up the path itself. What it reads and writes as the contents of that
directory lies in the table and in the data region, whatever the medium holds and the disk refuses.
-/

namespace FatVolume

/-- The transfer is not one of the root region. -/
def OutsideRoot (layout : Layout) (transfer : Transfer) : Prop := ¬ layout.InRoot transfer.lba

/-- What opens a directory that a path names: its entries are read or listed, or one more
component is looked up or made in it. -/
inductive Opening : Type 1 where
  | read (limit : Option Nat)
  | list {σ : Type} (visit : σ → Entry → ForInStep σ) (state : σ)
  | lookUp (component : List Char) (named : Path.IsName component)
  | make (component : List Char) (named : Path.IsName component)

namespace Opening

/-- The path with which the operation is called. -/
def target (path : List Char) : Opening → List Char
  | read _ | list _ _ => path
  | lookUp component _ | make component _ => path ++ '/' :: component

/-- Run it to its end, for its effects on the host and for its failure. -/
def perform (mounted : Mounted) (path : List Char) (opening : Opening) : HostM Unit :=
  match opening with
  | read limit => discard (mounted.readDirectory (opening.target path) limit)
  | list visit state => do
    let (_, result) ← mounted.listDirectory (opening.target path) visit state
    discard (liftM result)
  | lookUp _ _ => discard (mounted.lookup (opening.target path))
  | make _ _ => mounted.makeDirectory (opening.target path)

/-- A component that it adds to the path has a short name, and fits there. -/
def Spelled (path : List Char) : Opening → Prop
  | read _ | list _ _ => True
  | lookUp component _ | make component _ =>
    (∃ normal, Path.normalize (path ++ '/' :: component) = .ok normal) ∧
      ∃ name, ShortName.encode component = .ok name

/-- How often the path itself is looked up. To make a directory, it is seen first whether there is
anything at the place, and then where the place is. -/
def lookUps : Opening → Nat
  | make _ _ => 2
  | _ => 1

end Opening

/-- A run of which no step is taken in the root region, except that the path is looked up on the
way, so many times at most. -/
inductive Legs (mounted : Mounted) (path : List Char) : Nat → Host → Host → Prop
  | outside {count : Nat} {before after : Host}
      (steps : Steps mounted.volume.toLayout (OutsideRoot mounted.volume.toLayout) before after) :
      Legs mounted path count before after
  | lookup {count : Nat} {before between after : Host}
      (steps : Steps mounted.volume.toLayout (OutsideRoot mounted.volume.toLayout) before between)
      (further : Legs mounted path count (afterwards (mounted.lookup path) between) after) :
      Legs mounted path (count + 1) before after

/-- What a path has led to opens as the root region if and only if it is a directory whose
cluster is recorded as zero. -/
theorem Resolved.opens_root_iff (resolved : Resolved) :
    resolved.directory = .ok .root ↔ resolved.isDirectory = true ∧ resolved.cluster = 0 := by
  by_cases isDirectory : resolved.isDirectory = true <;> by_cases zero : resolved.cluster = 0 <;>
    simp [directory, Directory.ofCluster, isDirectory, zero]

/-- A directory whose cluster is recorded as anything but zero opens as the chain from
that cluster, whether this is a data cluster or not. -/
theorem Resolved.opens_chain {resolved : Resolved} (isDirectory : resolved.isDirectory = true)
    (recorded : resolved.cluster ≠ 0) : resolved.directory = .ok (.chain resolved.cluster) := by
  rw [directory, if_pos isDirectory, Directory.ofCluster, if_neg recorded]

namespace Volume

variable {volume : Volume}

/-- A sector that is reached without the root region being entered lies outside of the
root region. -/
theorem outside_reads (lba : Nat) (reached : volume.Reaches False lba) :
    OutsideRoot volume.toLayout (.read lba) := reached.2

/-- Opening what does not open as the root region gives a chain or fails, and asks the
disk for nothing. -/
theorem directory_outside {current : Resolved} (chained : current.directory ≠ .ok .root) :
    Confined volume.toLayout (OutsideRoot volume.toLayout)
      (liftM current.directory : HostM Directory) fun directory => directory ≠ .root :=
  .lift fun _ opened root => chained (root ▸ opened)

/-- Looking for a name in what does not open as the root region touches no sector of that
region. -/
theorem stride_outside {current : Resolved} (chained : current.directory ≠ .ok .root)
    (name : Except Failure RawName) :
    Confined volume.toLayout (OutsideRoot volume.toLayout) (volume.stride current name)
      fun _ => True := by
  apply (directory_outside chained).bind
  intro directory below
  apply (Confined.lift fun _ _ => trivial).bind
  intro raw _
  exact (findEntry_confined outside_reads directory raw fun root => below root).bind
    fun _ _ => .pure trivial

end Volume

/-! ## Legs of a run -/

section Legs

variable {mounted : Mounted} {path : List Char} {host before between after : Host}
  {count more : Nat} {α β : Type}

namespace Legs

/-- A run in which a path is looked up so many times at most is one in which it is looked
up more times at most. -/
theorem mono (legs : Legs mounted path count before after) (fewer : count ≤ more) :
    Legs mounted path more before after := by
  induction legs generalizing more with
  | outside steps => exact .outside steps
  | lookup steps _ inductionHypothesis =>
    cases more with
    | zero => exact absurd fewer (Nat.not_succ_le_zero _)
    | succ more => exact .lookup steps (inductionHypothesis (Nat.le_of_succ_le_succ fewer))

/-- Where two runs follow each other, the path is looked up as often at most as in both of
them together. -/
theorem trans (legs : Legs mounted path count before between)
    (further : Legs mounted path more between after) :
    Legs mounted path (count + more) before after := by
  induction legs with
  | outside steps =>
    cases further with
    | outside rest => exact .outside (steps.trans rest)
    | lookup rest further => exact .lookup (steps.trans rest) (further.mono (Nat.le_add_left _ _))
  | lookup steps _ inductionHypothesis =>
    rw [Nat.succ_add]
    exact .lookup steps (inductionHypothesis further)

/-- In a sequence of two operations the path is looked up as often at most as in both of
them together, if the second is so for each value of the first. -/
theorem bind {first : HostM α} {next : α → HostM β}
    (begun : Legs mounted path count host (afterwards first host))
    (continued : ∀ value, outcome first host = .ok value → Legs mounted path more
      (afterwards first host) (afterwards (next value) (afterwards first host))) :
    Legs mounted path (count + more) host (afterwards (first >>= next) host) := by
  cases ended : outcome first host with
  | ok value =>
    rw [afterwards_bind_ok ended]
    exact begun.trans (continued value ended)
  | error failure =>
    rw [afterwards_bind_error ended]
    exact begun.mono (Nat.le_add_right _ _)

/-- An operation that stays outside of the root region adds no look-up of the path to
those of the operation in front of it. -/
theorem bind_outside {first : HostM α} {next : α → HostM β}
    (begun : Legs mounted path count host (afterwards first host))
    (continued : ∀ value, outcome first host = .ok value →
      Confined mounted.volume.toLayout (OutsideRoot mounted.volume.toLayout) (next value)
        fun _ => True) :
    Legs mounted path count host (afterwards (first >>= next) host) := by
  change Legs mounted path (count + 0) host _
  exact begun.bind fun value ended => .outside (continued value ended _).1

/-- Looking up a path is a run in which it is looked up once. -/
theorem ofLookup (path : List Char) (host : Host) :
    Legs mounted path 1 host (afterwards (mounted.lookup path) host) :=
  .lookup .refl (.outside .refl)

/-- A run that leaves the root region only to looking up a path keeps every sector of this
region, since looking up writes nothing. -/
theorem root_kept (legs : Legs mounted path count before after) {lba : Nat}
    (inRoot : mounted.volume.InRoot lba) : after.disk.sector lba = before.disk.sector lba := by
  induction legs with
  | outside steps => exact steps.unwritten fun _ _ permitted => permitted inRoot
  | @lookup _ _ between _ steps _ inductionHypothesis =>
    have reading : Confined mounted.volume.toLayout Transfer.IsRead (mounted.lookup path) _ :=
      Mounted.lookup_confined (fun lba => ⟨lba, rfl⟩) path
    rw [inductionHypothesis, (reading between).1.sector (fun _ permitted => permitted) lba]
    exact steps.unwritten fun _ _ permitted => permitted inRoot

end Legs

end Legs

namespace Mounted

variable {mounted : Mounted} {host : Host} {path normal : List Char} {resolved : Resolved}

/-- Looking up a path is looking up its normal form along the names in it. -/
theorem lookup_of_normalize (normalized : Path.normalize path = .ok normal) :
    mounted.lookup path = mounted.volume.resolve normal := by
  rw [lookup, normalized]
  rfl

/-- Only a path that has a normal form can lead to something. -/
theorem normalize_of_lookup (led : outcome (mounted.lookup path) host = .ok resolved) :
    ∃ normal, Path.normalize path = .ok normal := by
  cases normalized : Path.normalize path with
  | ok normal => exact ⟨normal, rfl⟩
  | error failure =>
    rw [lookup, normalized] at led
    cases led

/-- A path with one more component is looked up by looking up the path and then going on
by the name of that component. -/
theorem resolve_joined {component further : List Char}
    (normalized : Path.normalize path = .ok normal)
    (fits : Path.normalize (path ++ '/' :: component) = .ok further)
    (named : Path.IsName component) :
    mounted.volume.resolve further =
      mounted.lookup path >>= fun current =>
        mounted.volume.stride current (ShortName.encode component) := by
  rw [lookup_of_normalize normalized, Volume.resolve_eq_strides, Volume.resolve_eq_strides,
    Path.names_joined normalized fits named, List.foldlM_append]
  simp only [List.foldlM_cons, List.foldlM_nil, bind_pure]

section Opened

variable (led : outcome (mounted.lookup path) host = .ok resolved)
  (chained : resolved.directory ≠ .ok .root)
include led chained

/-- Opening what a path leads to, which is not the root region, looks the path up once and
otherwise stays outside of this region. -/
theorem openDirectory_legs :
    Legs mounted path 1 host (afterwards (mounted.openDirectory path) host) ∧
      ∀ cursor, outcome (mounted.openDirectory path) host = .ok cursor →
        cursor.SoundIn mounted.volume.toLayout False := by
  have starts : Confined mounted.volume.toLayout (OutsideRoot mounted.volume.toLayout) (do
      let directory ← resolved.directory
      Cursor.start mounted.volume directory) (Cursor.SoundIn mounted.volume.toLayout False) :=
    (Volume.directory_outside chained).bind fun directory below =>
      Cursor.start_confined directory fun root => below root
  constructor
  · refine (Legs.ofLookup path host).bind_outside fun value same => ?_
    obtain rfl := Except.ok.inj (led.symm.trans same)
    exact starts.mono fun _ _ => trivial
  · intro cursor opened
    rw [openDirectory, outcome_bind_ok led] at opened
    exact (starts _).2 cursor opened

/-- Reading the entries of what a path leads to, which is not the root region, looks the
path up once and otherwise stays outside of it. -/
theorem readDirectory_legs (limit : Option Nat) :
    Legs mounted path 1 host (afterwards (mounted.readDirectory path limit) host) := by
  obtain ⟨legs, sound⟩ := openDirectory_legs led chained
  refine legs.bind_outside fun cursor opened => ?_
  exact ((Listing.collect_guided Volume.outside_reads .named limit).along
    (sound cursor opened)).mono fun _ _ => trivial

/-- Listing what a path leads to, which is not the root region, looks the path up once and
otherwise stays outside of it. -/
theorem listDirectory_legs {σ : Type} (visit : σ → Entry → ForInStep σ) (state : σ) :
    Legs mounted path 1 host (afterwards (mounted.listDirectory path visit state) host) := by
  obtain ⟨legs, sound⟩ := openDirectory_legs led chained
  have openedFew : Confined mounted.volume.toLayout AnyTransfer (mounted.openDirectory path) _ :=
    openDirectory_confined (fun _ => trivial) path
  have observed : Legs mounted path 1 host
      (afterwards (observe (mounted.openDirectory path)) host) := by rwa [afterwards_observe]
  refine observed.bind_outside fun opened same => ?_
  rw [outcome_observe] at same
  obtain rfl := Except.ok.inj same
  cases opened : outcome (mounted.openDirectory path) host with
  | error failure => exact .pure trivial
  | ok cursor =>
    have few := (openedFew host).2 cursor opened
    exact (handEntries_confined Volume.outside_reads (fun _ => 0) (fun _ _ => Nat.zero_le 1) rfl
      (sound cursor opened) few.2).mono fun _ _ => trivial

/-- Looking up the normal form of a path with one more component looks the path itself up
once and otherwise stays outside of the root region. -/
theorem resolve_joined_legs {component further : List Char}
    (fits : Path.normalize (path ++ '/' :: component) = .ok further)
    (named : Path.IsName component) :
    Legs mounted path 1 host (afterwards (mounted.volume.resolve further) host) := by
  obtain ⟨normal, normalized⟩ := normalize_of_lookup led
  rw [resolve_joined normalized fits named]
  refine (Legs.ofLookup path host).bind_outside fun value same => ?_
  obtain rfl := Except.ok.inj (led.symm.trans same)
  exact Volume.stride_outside chained _

/-- Looking up a path with one more component looks the path itself up once, and otherwise
stays outside of the root region. -/
theorem lookUp_legs {component : List Char} (named : Path.IsName component) :
    Legs mounted path 1 host (afterwards (mounted.lookup (path ++ '/' :: component)) host) := by
  cases fits : Path.normalize (path ++ '/' :: component) with
  | error failure =>
    rw [lookup, fits]
    exact .outside .refl
  | ok further =>
    rw [lookup_of_normalize fits]
    exact resolve_joined_legs led chained fits named

/-- The place of a new directory is found by looking up what is there and then the path again,
which leads to the same directory. -/
theorem vacancy_legs {component further : List Char}
    (fits : Path.normalize (path ++ '/' :: component) = .ok further)
    (named : Path.IsName component) :
    Legs mounted path 2 host (afterwards (mounted.volume.vacancy further) host) ∧
      ∀ place, outcome (mounted.volume.vacancy further) host = .ok place → place.1 ≠ .root := by
  obtain ⟨normal, normalized⟩ := normalize_of_lookup led
  have names := Path.names_joined normalized fits named
  constructor
  · have observed : Legs mounted path 1 host
        (afterwards (observe (mounted.volume.resolve further)) host) := by
      rw [afterwards_observe]
      exact resolve_joined_legs led chained fits named
    change Legs mounted path (1 + 1) host _
    refine observed.bind fun ending _ => ?_
    dsimp only
    split
    · exact .outside .refl
    · split
      · exact .outside .refl
      next front leaf divided =>
      rw [Path.names_of_splitLeaf divided] at names
      -- The front of the normal form has the names of the path itself.
      have again : mounted.volume.resolve front = mounted.lookup path := by
        rw [lookup_of_normalize normalized, Volume.resolve_eq_strides, Volume.resolve_eq_strides,
          (List.append_inj' names rfl).1]
      rw [again]
      exact (Legs.ofLookup path _).bind_outside fun value _ =>
        (Confined.lift fun _ _ => trivial).bind fun _ _ =>
          (Confined.lift fun _ _ => trivial).bind fun _ _ => .pure trivial
    · exact .outside .refl
  · rintro ⟨parent, name⟩ vacant root
    have intended := (Volume.vacancy_reads further).intended_of_ok rfl vacant
    obtain ⟨front, same, awaits⟩ := Medium.vacancy_ok intended
    obtain ⟨above, went, opened⟩ := awaits.led
    have looked := (lookup_reads path).intended_of_ok rfl led
    rw [names] at same
    rw [Medium.lookup_of_walk normalized, (List.append_inj' same rfl).1, went] at looked
    cases looked
    exact chained (root ▸ opened)

/-- Making a directory below a path looks the path itself up twice at most, and otherwise
stays outside of the root region. -/
theorem makeDirectory_legs {component : List Char} (named : Path.IsName component) :
    Legs mounted path 2 host (afterwards (mounted.makeDirectory (path ++ '/' :: component)) host) := by
  cases fits : Path.normalize (path ++ '/' :: component) with
  | error failure =>
    rw [makeDirectory, fits]
    exact .outside .refl
  | ok further =>
    obtain ⟨legs, below⟩ := vacancy_legs led chained fits named
    have created : Legs mounted path 2 host
        (afterwards (mounted.volume.createDirectory further) host) := by
      refine legs.bind_outside fun place vacant => ?_
      exact mounted.volume.insertDirectory_confined (fun _ reached => reached.2) place.1 place.2
        (below place vacant)
    rw [makeDirectory, fits]
    exact created.bind_outside fun cluster _ => .report _

end Opened

/-! ## Refused clusters -/

/-- No cursor starts over a chain whose first cluster is refused, and the failure is that
of the cluster. -/
theorem start_refused {cluster : Nat} {failure : Failure}
    (refused : mounted.volume.checkCluster cluster = .error failure) :
    Cursor.start mounted.volume (.chain cluster) = .error failure := by
  simp only [Cursor.start]
  rw [refused]
  rfl

section Refused

variable {failure : Failure} (led : outcome (mounted.lookup path) host = .ok resolved)
  (opened : resolved.directory = .ok (.chain resolved.cluster))
  (refused : mounted.volume.checkCluster resolved.cluster = .error failure)
include led opened refused

/-- Opening a directory whose recorded cluster is refused fails with the failure of that
cluster. -/
theorem openDirectory_refused :
    outcome (mounted.openDirectory path) host = .error failure := by
  rw [openDirectory, outcome_bind_ok led, opened]
  change outcome (liftM (Cursor.start mounted.volume (.chain resolved.cluster)) : HostM Cursor) _ = _
  rw [outcome_lift, start_refused refused]

/-- Looking up one more component below a directory whose recorded cluster is refused
fails with the failure of that cluster. -/
theorem resolve_joined_refused {component further : List Char} {name : RawName}
    (fits : Path.normalize (path ++ '/' :: component) = .ok further)
    (encoded : ShortName.encode component = .ok name) :
    outcome (mounted.volume.resolve further) host = .error failure := by
  obtain ⟨normal, normalized⟩ := normalize_of_lookup led
  have stops : outcome (liftM (Cursor.start mounted.volume (.chain resolved.cluster)) : HostM Cursor)
      (afterwards (mounted.lookup path) host) = .error failure := by
    rw [outcome_lift, start_refused refused]
  rw [resolve_joined normalized fits (ShortName.isName_of_encode encoded), outcome_bind_ok led,
    Volume.stride, opened, encoded]
  change outcome (mounted.volume.findEntry (.chain resolved.cluster) name >>= fun entry =>
    pure (Resolved.ofEntry entry)) _ = _
  exact outcome_bind_error (outcome_bind_error stops)

/-- Making a directory below one whose recorded cluster is refused fails with the failure
of that cluster, which is not taken for a missing name. -/
theorem makeDirectory_refused {component further : List Char} {name : RawName}
    (fits : Path.normalize (path ++ '/' :: component) = .ok further)
    (encoded : ShortName.encode component = .ok name) :
    outcome (mounted.makeDirectory (path ++ '/' :: component)) host = .error failure := by
  have ended : outcome (observe (mounted.volume.resolve further)) host =
      .ok (.error failure) := by
    rw [outcome_observe, resolve_joined_refused led opened refused fits encoded]
  have other : failure ≠ .notFound := by
    rintro rfl
    simp only [Layout.checkCluster] at refused
    split at refused
    · cases refused
    · split at refused <;> cases refused
  have vacant : outcome (mounted.volume.vacancy further) host = .error failure := by
    rw [Volume.vacancy, outcome_bind_ok ended]
    cases failure <;> first | rfl | exact absurd rfl other
  rw [makeDirectory, fits]
  change outcome (mounted.volume.createDirectory further >>= fun cluster =>
    report (.directoryCreated further cluster)) host = _
  exact outcome_bind_error (outcome_bind_error vacant)

end Refused

/-- A path that names a directory opens the root region exactly where its cluster is recorded as
zero. Where it is not, an operation that opens the directory touches the root region only while
the path is looked up, and never changes it; and if no data cluster is recorded, the operation ends
in the failure that refuses the cluster. -/
theorem opens_outside_root (mounted : Mounted) {host : Host} {path : List Char}
    {resolved : Resolved} (led : outcome (mounted.lookup path) host = .ok resolved)
    (isDirectory : resolved.isDirectory = true) :
    (resolved.directory = .ok .root ↔ resolved.cluster = 0) ∧
    (resolved.cluster ≠ 0 → ∀ opening : Opening,
      Legs mounted path opening.lookUps host (afterwards (opening.perform mounted path) host) ∧
      (∀ lba, mounted.volume.InRoot lba →
        (afterwards (opening.perform mounted path) host).disk.sector lba = host.disk.sector lba) ∧
      ∀ failure, mounted.volume.checkCluster resolved.cluster = .error failure →
        opening.Spelled path → outcome (opening.perform mounted path) host = .error failure) := by
  constructor
  · rw [resolved.opens_root_iff]
    exact and_iff_right isDirectory
  intro recorded opening
  have opened := Resolved.opens_chain isDirectory recorded
  have chained : resolved.directory ≠ .ok .root := by
    rw [opened]
    simp
  -- What follows the opening runs outside the root region, so the look-ups of the path are those
  -- of the opening alone.
  have legs : Legs mounted path opening.lookUps host
      (afterwards (opening.perform mounted path) host) := by
    -- Each opening begins with the steps that fail at the recorded cluster.
    cases opening with
    | read limit =>
      exact (readDirectory_legs led chained limit).bind_outside fun _ _ => .pure trivial
    | list visit state =>
      exact (listDirectory_legs led chained visit state).bind_outside fun listed _ =>
        (Confined.lift fun _ _ => trivial).bind fun _ _ => .pure trivial
    | lookUp component named =>
      exact (lookUp_legs led chained named).bind_outside fun _ _ => .pure trivial
    | make component named => exact makeDirectory_legs led chained named
  refine ⟨legs, fun lba inRoot => legs.root_kept inRoot, fun failure refused spelled => ?_⟩
  cases opening with
  | read limit =>
    exact outcome_bind_error (outcome_bind_error (openDirectory_refused led opened refused))
  | list visit state =>
    have unopened := openDirectory_refused led opened refused
    exact (outcome_bind_ok (listDirectory_unopened unopened visit state)).trans rfl
  | lookUp component named =>
    obtain ⟨⟨further, fits⟩, name, encoded⟩ := spelled
    have ended := resolve_joined_refused led opened refused fits encoded
    rw [← lookup_of_normalize fits] at ended
    exact outcome_bind_error ended
  | make component named =>
    obtain ⟨⟨further, fits⟩, name, encoded⟩ := spelled
    exact makeDirectory_refused led opened refused fits encoded

/-- A directory that records cluster 2 is opened without touching the root region, and one
that records cluster 1 is refused. -/
theorem opens_outside_root_small :
    let mounted : Mounted := ⟨0, .small, ⟨0, 20, 4⟩⟩
    let path := ['/', 'D']
    let host (cluster : UInt16) := rootHost [lone 0x44 Attributes.directory 0 cluster]
    (∀ opening : Opening,
      Legs mounted path opening.lookUps (host 2) (afterwards (opening.perform mounted path) (host 2))) ∧
    ∀ opening : Opening, opening.Spelled path →
      outcome (opening.perform mounted path) (host 1) = .error .reservedCluster := by
  intro mounted path host
  have named : outcome (mounted.lookup path) (host 2) =
      .ok (.ofEntry (lone 0x44 Attributes.directory 0 2)) := by decide +kernel
  have named' : outcome (mounted.lookup path) (host 1) =
      .ok (.ofEntry (lone 0x44 Attributes.directory 0 1)) := by decide +kernel
  constructor
  · intro opening
    exact ((opens_outside_root mounted named (by decide)).2 (by decide) opening).1
  · intro opening spelled
    exact ((opens_outside_root mounted named' (by decide)).2 (by decide) opening).2.2
      .reservedCluster (by decide) spelled

/-- A directory for which cluster zero is recorded has itself as its entry, and the entry of a
directory that is made in it is written to the root region. -/
theorem zeroCluster_opens_root :
    let mounted : Mounted := ⟨0, .small, ⟨0, 20, 4⟩⟩
    let entry := lone 0x44 Attributes.directory 0
    let host := rootHost [entry]
    let left := afterwards (mounted.makeDirectory ['/', 'D', '/', 'E']) host
    outcome (mounted.lookup ['/', 'D']) host = .ok (.ofEntry entry) ∧ entry.isDirectory = true ∧
      (outcome (mounted.readDirectory ['/', 'D'] none) host).map
        (fun delivery => (delivery.state, delivery.failure)) = .ok (#[entry], none) ∧
      outcome (mounted.makeDirectory ['/', 'D', '/', 'E']) host = .ok () ∧
      mounted.volume.InRoot 3 ∧
      (left.disk.sector 3).record 1 = (Entry.directory (lone 0x45 0 0).name 2).encode := by
  intro mounted entry host left
  exact ⟨by decide +kernel, by decide, by decide +kernel, by decide +kernel, ⟨0, by decide, rfl⟩,
    by decide +kernel⟩

end Mounted

end FatVolume
