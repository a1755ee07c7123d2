import FatVolume.Proofs.Comparison
import FatVolume.Proofs.Formatted
import FatVolume.Proofs.Reduction

/-!
# Making directories

A request to make a directory brings its path into normal form, has the directory
created, and reports it. On a disk that refuses nothing a successful request adds one empty
directory to the tree, and no other request can tell the difference.

Under any refusals, and after any number of requests, the medium stays orderly, and what is
claimed without being part of the tree comes from requests that were cut short. Each of the
media that the writes of one creation pass through shows the tree as it was, until the last
write completes it.
-/

namespace FatVolume

/-- How a request to make a directory ends, and its writes. -/
inductive Medium.Makes (medium : Medium) (volume : Volume) (path : List Char) :
    Except Failure Unit → List Write → Prop
  | unspelled {failure : Failure} (refused : Path.normalize path = .error failure) :
      Makes medium volume path (.error failure) []
  | failed {normal : List Char} {failure : Failure} {writes : List Write}
      (normalized : Path.normalize path = .ok normal)
      (creates : medium.Creates volume normal (.error failure) writes) :
      Makes medium volume path (.error failure) writes
  | made {normal : List Char} {cluster : Nat} {writes : List Write}
      (normalized : Path.normalize path = .ok normal)
      (creates : medium.Creates volume normal (.ok cluster) writes) :
      Makes medium volume path (.ok ()) writes

namespace Medium.Makes

variable {medium : Medium} {volume : Volume} {path : List Char} {result : Except Failure Unit}
  {writes : List Write} (makes : medium.Makes volume path result writes)
include makes

/-- However far the writes of a request have come, they leave an orderly medium orderly. -/
theorem orderly_after (orderly : medium.Orderly volume) {done : List Write}
    (begun : done <+: writes) : (medium.apply done).Orderly volume := by
  have created {normal : List Char} {ending : Except Failure Nat}
      (creates : medium.Creates volume normal ending writes) :
      (medium.apply done).Orderly volume := by
    rcases creates.states orderly.toConsistent begun with partway | ⟨_, cluster, _, completed⟩
    · exact partway.orderly_after orderly.toConsistent orderly
    · exact completed.orderly_after orderly.toConsistent orderly
  cases makes with
  | unspelled refused =>
    rw [List.prefix_nil.mp begun]
    exact orderly
  | failed normalized creates => exact created creates
  | made normalized creates => exact created creates

/-- When all writes of a request are done, what it has claimed on a consistent medium is
part of the tree. -/
theorem accounted (consistent : medium.Consistent volume) :
    medium.Accounted (medium.apply writes) volume := by
  cases makes with
  | unspelled refused => exact .refl medium volume
  | failed normalized creates => exact creates.accounted consistent
  | made normalized creates => exact creates.accounted consistent

end Medium.Makes

namespace Mounted

variable (mounted : Mounted)

/-- A request for a directory ends in one of the listed ways on every medium, with the
writes that belong to this way. -/
theorem makeDirectory_performs (medium : Medium) (path : List Char) :
    ∃ result writes, Performs (mounted.makeDirectory path) medium result writes ∧
      medium.Makes mounted.volume path result writes := by
  have spelled : Reads (liftM (Path.normalize path)) medium (Path.normalize path) := .lift _
  simp only [makeDirectory]
  cases normalized : Path.normalize path with
  | error failure =>
    rw [normalized] at spelled
    exact ⟨_, _, spelled.bind_error, .unspelled normalized⟩
  | ok normal =>
    rw [normalized] at spelled
    obtain ⟨result, writes, performs, creates⟩ :=
      mounted.volume.createDirectory_performs medium normal
    cases result with
    | error failure => exact ⟨_, _, spelled.bind performs.bind_error, .failed normalized creates⟩
    | ok cluster =>
      exact ⟨_, _, spelled.bind (performs.bindReads (.report _)), .made normalized creates⟩

/-- A request for a directory only adds events to the trace of the host, and takes none
from it. -/
theorem makeDirectory_trace (path : List Char) (host : Host) :
    ∃ events, (afterwards (mounted.makeDirectory path) host).trace = events ++ host.trace := by
  obtain ⟨_, _, performs, _⟩ := mounted.makeDirectory_performs host.medium path
  obtain ⟨events, traced, _⟩ := performs host rfl
  exact ⟨events, traced⟩

/-- A request for a directory changes the host by transfers and notices alone, each of
which it takes as the disk serves it. -/
theorem makeDirectory_anyTransfer (path : List Char) :
    Confined mounted.volume.toLayout AnyTransfer (mounted.makeDirectory path) fun _ => True :=
  makeDirectory_confined (fun _ => trivial) path

/-- One request for a directory leaves an orderly medium orderly, whatever the disk
refuses while it is carried out. -/
theorem makeDirectory_orderly {mounted : Mounted} {host : Host}
    (orderly : host.medium.Orderly mounted.volume) (path : List Char) :
    (afterwards (mounted.makeDirectory path) host).medium.Orderly mounted.volume := by
  obtain ⟨_, _, performs, makes⟩ := mounted.makeDirectory_performs host.medium path
  obtain ⟨done, begun, changed⟩ := (performs host rfl).leaves
  rw [changed]
  exact makes.orderly_after orderly begun

/-! ## Successful requests -/

/-- On a disk that refuses nothing, a request for a directory ends as the creation at its
normal form does, and leaves what that leaves. -/
theorem makeDirectory_creates {mounted : Mounted} {host : Host} {path normal : List Char}
    (serves : host.Serves mounted.volume) (normalized : Path.normalize path = .ok normal) :
    ∃ result writes, host.medium.Creates mounted.volume normal result writes ∧
      outcome (mounted.makeDirectory path) host = result.map (fun _ => ()) ∧
      (afterwards (mounted.makeDirectory path) host).medium = host.medium.apply writes ∧
      host.SameDevice (afterwards (mounted.makeDirectory path) host) := by
  obtain ⟨_, writes, performs, makes⟩ := mounted.makeDirectory_performs host.medium path
  obtain ⟨ended, changed, device⟩ :=
    (performs host rfl).completes (mounted.makeDirectory_anyTransfer path) serves
  rw [ended]
  cases makes with
  | unspelled refused =>
    rw [normalized] at refused
    cases refused
  | failed again creates =>
    rw [normalized] at again
    cases again
    exact ⟨_, writes, creates, rfl, changed, device⟩
  | made again creates =>
    rw [normalized] at again
    cases again
    exact ⟨_, writes, creates, rfl, changed, device⟩

/-- On a disk that refuses nothing, a request succeeds if the name is vacant, and a slot and
a cluster are free. -/
theorem makeDirectory_succeeds {mounted : Mounted} {host : Host} {path normal : List Char}
    {parent : Directory} {name : RawName} {position : SlotPosition} {cluster : Nat}
    (serves : host.Serves mounted.volume) (normalized : Path.normalize path = .ok normal)
    (vacant : host.medium.vacancy mounted.volume normal = .ok (parent, name))
    (slot : (host.medium.slots mounted.volume parent).freeSlot = .ok (some position))
    (free : host.medium.firstFree mounted.volume = some cluster) :
    mounted.makeDirectory path host = .ok () (afterwards (mounted.makeDirectory path) host) := by
  obtain ⟨result, writes, creates, concluded, _⟩ := makeDirectory_creates serves normalized
  rw [creates.succeeds vacant slot free] at concluded
  exact ran_ok_iff.mpr ⟨concluded, rfl⟩

/-- On a disk that refuses nothing, a request that succeeds adds one empty directory to what
a consistent volume shows, and changes nothing else of it. -/
theorem makeDirectory_gains {mounted : Mounted} {before after : Host} {path : List Char}
    (serves : before.Serves mounted.volume) (consistent : before.medium.Consistent mounted.volume)
    (succeeded : mounted.makeDirectory path before = .ok () after) :
    ∃ normal above, Path.normalize path = .ok normal ∧
      Path.normalize (path ++ ['/', '.', '.']) = .ok above ∧
      Path.names above = (Path.names normal).dropLast ∧
      mounted.GainsDirectory before after (Path.names normal) := by
  obtain ⟨ended, left⟩ := ran_ok_iff.mp succeeded
  obtain ⟨result, writes, performs, makes⟩ := mounted.makeDirectory_performs before.medium path
  obtain ⟨concluded, changed, device⟩ :=
    (performs before rfl).completes (mounted.makeDirectory_anyTransfer path) serves
  rw [concluded] at ended
  rw [left] at changed device
  cases makes with
  | unspelled refused => cases ended
  | failed normalized creates => cases ended
  | @made normal cluster writes normalized creates =>
    obtain ⟨above, reduced, names⟩ := Path.normalize_above normalized
    have compared := Volume.Compared.of_sameDevice serves device changed
    exact ⟨normal, above, normalized, reduced, names,
      compared.gainsDirectory consistent (creates.completed consistent)⟩

/-- The host with a file, once a directory was made beside it. -/
def furnishedHost : Host :=
  afterwards (makeDirectory ⟨0, .small, ⟨0, 20, 4⟩⟩ ['/', 'b']) fileHost

/-- The disk with a file and a directory serves the small volume: its sectors lie within
the capacity, and no transfer is refused. -/
theorem furnishedHost_serves : furnishedHost.Serves .small :=
  fileHost_serves.of_sameDevice
    ((makeDirectory_anyTransfer ⟨0, .small, ⟨0, 20, 4⟩⟩ ['/', 'b']) fileHost).1.sameDevice

/-- The disk with a file and a directory is consistent, as the one with the file is
orderly and the request has kept it so. -/
theorem furnishedHost_consistent : furnishedHost.medium.Consistent .small :=
  (@makeDirectory_orderly ⟨0, .small, ⟨0, 20, 4⟩⟩ fileHost fileHost_loneFile.orderly
    ['/', 'b']).toConsistent

/-- On the disk with a file and a directory the file is still found, with the size that it
had. -/
theorem furnishedHost_file :
    outcome (status ⟨0, .small, ⟨0, 20, 4⟩⟩ ['/', 'a']) furnishedHost = .ok ⟨.file, 1500⟩ := by
  decide +kernel

/-- A directory is made below another one, beside which there is a file. It is found, and the
file is what it was. -/
theorem makeDirectory_gains_furnished :
    let mounted : Mounted := ⟨0, .small, ⟨0, 20, 4⟩⟩
    let path := ['/', 'b', '/', 'c']
    let after := afterwards (mounted.makeDirectory path) furnishedHost
    (outcome (mounted.status ['/', 'a']) furnishedHost = .ok ⟨.file, 1500⟩ ∧
      outcome (mounted.status ['/', 'b']) furnishedHost = .ok ⟨.directory, 0⟩ ∧
      outcome (mounted.status path) furnishedHost = .error .notFound) ∧
    (furnishedHost.Serves .small ∧ furnishedHost.medium.Consistent .small ∧
      mounted.makeDirectory path furnishedHost = .ok () after) ∧
    (Path.normalize path = .ok ['B', '/', 'C'] ∧
      Path.normalize (path ++ ['/', '.', '.']) = .ok ['B'] ∧
      Path.names ['B'] = (Path.names ['B', '/', 'C']).dropLast ∧
      mounted.GainsDirectory furnishedHost after (Path.names ['B', '/', 'C'])) ∧
    outcome (mounted.status path) after = .ok ⟨.directory, 0⟩ ∧
      outcome (mounted.status ['/', 'a']) after = .ok ⟨.file, 1500⟩ := by
  intro mounted path after
  obtain ⟨directory, absent, made⟩ :
      outcome (mounted.status ['/', 'b']) furnishedHost = .ok ⟨.directory, 0⟩ ∧
      outcome (mounted.status path) furnishedHost = .error .notFound ∧
      outcome (mounted.makeDirectory path) furnishedHost = .ok () := by decide +kernel
  have spelled : Path.normalize path = .ok ['B', '/', 'C'] := by decide +kernel
  have upward : Path.normalize (path ++ ['/', '.', '.']) = .ok ['B'] := by decide +kernel
  have succeeded : mounted.makeDirectory path furnishedHost = .ok () after :=
    ran_ok_iff.mpr ⟨made, rfl⟩
  obtain ⟨normal, above, normalized, reduced, names, gains⟩ :=
    makeDirectory_gains furnishedHost_serves furnishedHost_consistent succeeded
  cases spelled.symm.trans normalized
  cases upward.symm.trans reduced
  have beside : Path.normalize ['/', 'a'] = .ok ['A'] := by decide +kernel
  have elsewhere : ¬ LeadsThrough (Path.names ['B', '/', 'C']) ['/', 'a'] :=
    not_leadsThrough beside (by decide +kernel)
  refine ⟨⟨furnishedHost_file, directory, absent⟩, ⟨furnishedHost_serves, furnishedHost_consistent, succeeded⟩,
    ⟨spelled, upward, names, gains⟩, (gains.found path _ spelled rfl).1, ?_⟩
  exact (gains.kept ['/', 'a'] elsewhere).status.trans furnishedHost_file

/-! ## Runs -/

/-- The host after requests to make directories at some paths, whatever became of each. -/
def makeDirectories (paths : List (List Char)) (host : Host) : Host :=
  paths.foldl (fun current path => afterwards (mounted.makeDirectory path) current) host

variable {mounted} {host : Host}

/-- A request of which nothing was refused accounts for what it has claimed on a
consistent medium: all of it is part of the tree. -/
theorem makeDirectory_accounted (consistent : host.medium.Consistent mounted.volume)
    {path : List Char}
    (undisturbed : host.Undisturbed (afterwards (mounted.makeDirectory path) host)) :
    host.medium.Accounted (afterwards (mounted.makeDirectory path) host).medium
      mounted.volume := by
  by_cases sized : host.disk.sectorSize = 512
  · obtain ⟨_, _, performs, makes⟩ := mounted.makeDirectory_performs host.medium path
    obtain ⟨_, changed⟩ := (performs host rfl).carriedOut sized undisturbed
    rw [changed]
    exact makes.accounted consistent
  · have unchanged := ((mounted.makeDirectory_anyTransfer path host).1.foreign sized).2
    rw [unchanged]
    exact .refl _ _

/-- Requests for directories, one after the other, leave an orderly medium orderly,
whatever is refused to any of them. -/
theorem makeDirectories_keep (orderly : host.medium.Orderly mounted.volume)
    (paths : List (List Char)) :
    (mounted.makeDirectories paths host).medium.Orderly mounted.volume := by
  induction paths generalizing host with
  | nil => exact orderly
  | cons path rest inductionHypothesis => exact inductionHypothesis (makeDirectory_orderly orderly path)

/-- Requests for directories, one after the other, only add events to the trace of the
host. -/
theorem makeDirectories_trace (paths : List (List Char)) (host : Host) :
    ∃ events, (mounted.makeDirectories paths host).trace = events ++ host.trace := by
  induction paths generalizing host with
  | nil => exact ⟨[], rfl⟩
  | cons path rest inductionHypothesis =>
    obtain ⟨earlier, first⟩ := mounted.makeDirectory_trace path host
    obtain ⟨later, behind⟩ := inductionHypothesis (afterwards (mounted.makeDirectory path) host)
    refine ⟨later ++ earlier, ?_⟩
    rw [List.append_assoc, ← first]
    exact behind

/-- Requests of which nothing was refused account together for what they have claimed on
an orderly medium. -/
theorem makeDirectories_accounted (orderly : host.medium.Orderly mounted.volume)
    {paths : List (List Char)}
    (undisturbed : host.Undisturbed (mounted.makeDirectories paths host)) :
    host.medium.Accounted (mounted.makeDirectories paths host).medium mounted.volume := by
  induction paths generalizing host with
  | nil => exact .refl _ _
  | cons path rest inductionHypothesis =>
    have first := mounted.makeDirectory_trace path host
    have behind := mounted.makeDirectories_trace rest (afterwards (mounted.makeDirectory path) host)
    obtain ⟨early, late⟩ := undisturbed.divide first behind
    exact (makeDirectory_accounted orderly.toConsistent early).trans
      (inductionHypothesis (makeDirectory_orderly orderly path) late)

/-- An orderly volume is orderly after each of any number of requests, whatever the disk
refuses. Over requests of which nothing was refused, the clusters that are claimed become
those that were and those of the tree, and what is claimed without being part of the tree
stays the same. -/
theorem makeDirectories_orderly (mounted : Mounted) (host : Host)
    (orderly : host.medium.Orderly mounted.volume) (paths : List (List Char)) :
    (∀ done, done <+: paths →
      (mounted.makeDirectories done host).medium.Orderly mounted.volume) ∧
    ∀ earlier requests, earlier ++ requests <+: paths →
      let start := mounted.makeDirectories earlier host
      let stop := mounted.makeDirectories (earlier ++ requests) host
      start.Undisturbed stop → ∀ cluster, mounted.volume.DataCluster cluster →
        (stop.medium.link mounted.volume cluster ≠ 0 ↔
          start.medium.link mounted.volume cluster ≠ 0 ∨
            stop.medium.Used mounted.volume cluster) ∧
        (stop.medium.link mounted.volume cluster ≠ 0 ∧
            ¬ stop.medium.Used mounted.volume cluster ↔
          start.medium.link mounted.volume cluster ≠ 0 ∧
            ¬ start.medium.Used mounted.volume cluster) := by
  constructor
  · intro done _
    exact makeDirectories_keep orderly done
  · intro earlier requests _ start stop undisturbed cluster data
    have divided : stop = mounted.makeDirectories requests start := List.foldl_append
    rw [divided] at undisturbed ⊢
    have accounted := makeDirectories_accounted (makeDirectories_keep orderly earlier) undisturbed
    exact ⟨accounted.claimed cluster data, accounted.outside_iff data⟩

/-- Nothing was refused in a request for a directory that succeeded, since every refusal
ends it with a failure. -/
theorem makeDirectory_undisturbed {path : List Char}
    (succeeded : outcome (mounted.makeDirectory path) host = .ok ()) :
    host.Undisturbed (afterwards (mounted.makeDirectory path) host) := by
  obtain ⟨_, _, performs, _⟩ := mounted.makeDirectory_performs host.medium path
  exact (performs host rfl).undisturbed succeeded

/-- The first of three requests fails, as the controller refuses every write of one sector, and
leaves a cluster claimed. The other two are not disturbed: they make a directory and one below
it, in clusters of their own, and the cluster of the first one stays claimed in vain. -/
theorem makeDirectories_orderly_untouched :
    let mounted : Mounted := ⟨0, .small, ⟨0, 20, 4⟩⟩
    let host := Host.untouched 20 4096 { failWrites := [4] }
    let paths := [['/', 'a'], ['/', 'a'], ['/', 'a', '/', 'b']]
    let start := afterwards (mounted.makeDirectory ['/', 'a']) host
    let between := afterwards (mounted.makeDirectory ['/', 'a']) start
    let stop := afterwards (mounted.makeDirectory ['/', 'a', '/', 'b']) between
    (host.medium.Orderly .small ∧
      outcome (mounted.makeDirectory ['/', 'a']) host = .error (.transfer .device) ∧
      outcome (mounted.makeDirectory ['/', 'a']) start = .ok () ∧
      outcome (mounted.makeDirectory ['/', 'a', '/', 'b']) between = .ok () ∧
      start.Undisturbed stop) ∧
    (∀ done, done <+: paths → (mounted.makeDirectories done host).medium.Orderly .small) ∧
    (∀ earlier requests, earlier ++ requests <+: paths →
      let start := mounted.makeDirectories earlier host
      let stop := mounted.makeDirectories (earlier ++ requests) host
      start.Undisturbed stop → ∀ cluster, Volume.small.DataCluster cluster →
        (stop.medium.link .small cluster ≠ 0 ↔
          start.medium.link .small cluster ≠ 0 ∨ stop.medium.Used .small cluster) ∧
        (stop.medium.link .small cluster ≠ 0 ∧ ¬ stop.medium.Used .small cluster ↔
          start.medium.link .small cluster ≠ 0 ∧ ¬ start.medium.Used .small cluster)) ∧
    stop.medium.Used .small 3 ∧ stop.medium.Used .small 4 ∧
      stop.medium.link .small 2 ≠ 0 ∧ ¬ stop.medium.Used .small 2 := by
  intro mounted host paths start between stop
  have orderly : host.medium.Orderly mounted.volume := Host.untouched_blankRoot.orderly
  obtain ⟨failed, second, third⟩ :
      outcome (mounted.makeDirectory ['/', 'a']) host = .error (.transfer .device) ∧
      outcome (mounted.makeDirectory ['/', 'a']) start = .ok () ∧
      outcome (mounted.makeDirectory ['/', 'a', '/', 'b']) between = .ok () := by decide +kernel
  obtain ⟨empty, lost, free, linked⟩ :
      (start.medium.entries .small .root).items = [] ∧ start.medium.link .small 2 ≠ 0 ∧
      (start.medium.link .small 3 = 0 ∧ start.medium.link .small 4 = 0) ∧
      stop.medium.link .small 3 ≠ 0 ∧ stop.medium.link .small 4 ≠ 0 := by decide +kernel
  have calm : start.Undisturbed stop :=
    (makeDirectory_undisturbed second).trans (makeDirectory_undisturbed third)
  obtain ⟨keeps, accounts⟩ := makeDirectories_orderly mounted host orderly paths
  have begun : mounted.makeDirectories [['/', 'a']] host = start := by
    rw [makeDirectories, List.foldl_cons, List.foldl_nil]
  have ended : mounted.makeDirectories ([['/', 'a']] ++ [['/', 'a'], ['/', 'a', '/', 'b']]) host =
      stop := by
    rw [makeDirectories, List.cons_append, List.nil_append, List.foldl_cons, List.foldl_cons,
      List.foldl_cons, List.foldl_nil]
  have told := accounts [['/', 'a']] [['/', 'a'], ['/', 'a', '/', 'b']] List.prefix_rfl
  simp only [begun, ended] at told
  replace told := told calm
  have used {cluster : Nat} (data : Volume.small.DataCluster cluster)
      (free : start.medium.link .small cluster = 0) (linked : stop.medium.link .small cluster ≠ 0) :
      stop.medium.Used .small cluster :=
    ((told cluster data).1.mp linked).resolve_left (absurd free)
  exact ⟨⟨orderly, failed, second, third, calm⟩, keeps, accounts,
    used ⟨by decide, by decide⟩ free.1 linked.1, used ⟨by decide, by decide⟩ free.2 linked.2,
    (told 2 ⟨by decide, by decide⟩).2.mpr ⟨lost, Medium.not_used_of_empty empty 2⟩⟩

/-! ## Interrupted creations -/

/-- Requests to hosts that serve a volume cannot tell one medium from the other. -/
def SeesSame (medium changed : Medium) : Prop :=
  ∀ before after, mounted.volume.Compared medium changed before after →
    mounted.ShowsAlike before after

/-- Requests to hosts that serve a volume see one more directory on the second medium, at
the names of a path that leads to it. It refers to itself and to its parent, and is empty
otherwise. -/
def SeesDirectory (medium changed : Medium) (path : List Char) (cluster : Nat) : Prop :=
  (∀ before after, mounted.volume.Compared medium changed before after →
    mounted.GainsDirectory before after (Path.names path)) ∧
  ∃ front parent name, Path.names path = front ++ [.ok name] ∧
    medium.Awaits mounted.volume front parent name ∧
    (∀ after : Host, after.medium = changed → after.Serves mounted.volume →
      outcome (mounted.volume.resolve path) after =
        .ok (.ofEntry (Entry.directory name cluster))) ∧
    changed.Initialised mounted.volume cluster parent

/-- What holds of the medium that is left when the writes of a creation stop at some. -/
structure CutAt (medium : Medium) (path : List Char) (result : Except Failure Nat)
    (writes done : List Write) : Prop where
  consistent : (medium.apply done).Consistent mounted.volume
  /-- The tree is the one that was there, or all writes were carried out and it has the new
  directory. -/
  seen : mounted.SeesSame medium (medium.apply done) ∨
    done = writes ∧ ∃ cluster, result = .ok cluster ∧
      mounted.SeesDirectory medium (medium.apply done) path cluster
  /-- The tree of a creation that succeeded has the new directory once all its writes were
  carried out. -/
  whole : done = writes → ∀ cluster, result = .ok cluster →
    mounted.SeesDirectory medium (medium.apply done) path cluster
  /-- The next write brings only clusters into the tree that are claimed and filled. -/
  prepared : ∀ write, done ++ [write] <+: writes → ∀ cluster,
    (medium.apply (done ++ [write])).Used mounted.volume cluster →
      (medium.apply done).Used mounted.volume cluster ∨
        medium.Prepared (medium.apply done) mounted.volume path cluster
  /-- One cluster at most has been claimed and is not part of the tree. -/
  spare : ∃ spare, ∀ cluster, mounted.volume.DataCluster cluster →
    medium.link mounted.volume cluster = 0 →
      (medium.apply done).link mounted.volume cluster ≠ 0 →
        ¬ (medium.apply done).Used mounted.volume cluster → cluster = spare

/-- Requests see the directory of a completed creation, and that it refers to itself and to
the parent that was waiting for it. The cluster is the one that the creation reports. -/
theorem seesDirectory {medium changed : Medium} {path : List Char} {cluster : Nat}
    (completed : medium.Completed changed mounted.volume path cluster)
    (consistent : medium.Consistent mounted.volume) :
    mounted.SeesDirectory medium changed path cluster := by
  obtain ⟨front, parent, name, names, awaits, led, initialised⟩ :=
    completed.initialised consistent
  refine ⟨fun before after compared => compared.gainsDirectory consistent completed,
    front, parent, name, names, awaits, fun after holds serves => ?_, initialised⟩
  rw [(Volume.resolve_answers _ mounted.volume path after holds serves).1, led]

/-- Wherever the creation of a directory on a consistent volume is cut short, by a refusal
or between two writes, the tree is the one that was there, or the directory is complete. It
is complete if the creation succeeded and all its writes were carried out. -/
theorem createDirectory_atomic (mounted : Mounted) (medium : Medium) (path : List Char)
    (consistent : medium.Consistent mounted.volume) :
    ∃ result writes, Performs (mounted.volume.createDirectory path) medium result writes ∧
      (∀ host : Host, host.medium = medium → ∃ done, done <+: writes ∧
        (afterwards (mounted.volume.createDirectory path) host).medium = medium.apply done) ∧
      ∀ done, done <+: writes → mounted.CutAt medium path result writes done := by
  obtain ⟨result, writes, performs, creates⟩ :=
    mounted.volume.createDirectory_performs medium path
  refine ⟨result, writes, performs, ?_, fun done begun => ?_⟩
  · rintro host rfl
    exact (performs host rfl).leaves
  · have prepared (write : Write) (further : done ++ [write] <+: writes) (number : Nat)
        (used : (medium.apply (done ++ [write])).Used mounted.volume number) :=
      creates.prepared consistent further used
    have whole (all : done = writes) (cluster : Nat) (succeeded : result = .ok cluster) :
        mounted.SeesDirectory medium (medium.apply done) path cluster := by
      subst all succeeded
      exact seesDirectory (creates.completed consistent) consistent
    rcases creates.states consistent begun with partway | ⟨all, cluster, succeeded, completed⟩
    · exact ⟨partway.consistent_after consistent,
        .inl fun before after compared => compared.showsAlike (partway.sameTree consistent),
        whole, prepared, partway.spare consistent⟩
    · exact ⟨completed.consistent_after consistent,
        .inr ⟨all, cluster, succeeded, seesDirectory completed consistent⟩,
        whole, prepared, completed.spare consistent⟩

/-- The creation of a directory below another one, beside which there is a file. It claims a
cluster in both table copies, fills its sectors, and puts the entry into the parent at last. -/
theorem createDirectory_atomic_furnished :
    let mounted : Mounted := ⟨0, .small, ⟨0, 20, 4⟩⟩
    let medium := furnishedHost.medium
    let path := ['B', '/', 'C']
    medium.Consistent .small ∧
      ∃ writes, writes.map Write.lba = [1, 2, 8, 9, 8, 6] ∧
        Performs (Volume.small.createDirectory path) medium (.ok 4) writes ∧
        (∀ host : Host, host.medium = medium → ∃ done, done <+: writes ∧
          (afterwards (Volume.small.createDirectory path) host).medium = medium.apply done) ∧
        ∀ done, done <+: writes → mounted.CutAt medium path (.ok 4) writes done := by
  intro mounted medium path
  obtain ⟨result, writes, performs, left, cut⟩ :=
    createDirectory_atomic mounted medium path furnishedHost_consistent
  let host := { furnishedHost with trace := [] }
  have serves : host.Serves mounted.volume :=
    ⟨furnishedHost_serves.sized, furnishedHost_serves.reached, furnishedHost_serves.granted⟩
  have confined : Confined mounted.volume.toLayout AnyTransfer
      (mounted.volume.createDirectory path) fun _ => True :=
    Volume.createDirectory_confined (fun _ => trivial) path
  have calm := (confined host).1.served serves
  obtain ⟨ended, events, traced, carried⟩ := (performs host rfl).journaled serves.sized calm
  obtain ⟨created, sectors⟩ : outcome (mounted.volume.createDirectory path) host = .ok 4 ∧
      (journal (afterwards (mounted.volume.createDirectory path) host).trace).map Write.lba =
        [1, 2, 8, 9, 8, 6] := by decide +kernel
  cases created.symm.trans ended
  rw [traced, List.append_nil, carried] at sectors
  exact ⟨furnishedHost_consistent, writes, sectors, performs, left, cut⟩

end Mounted

end FatVolume
