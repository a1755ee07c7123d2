import FatVolume.Proofs.FreeSpace
import FatVolume.Proofs.Making
import Mathlib.Data.Multiset.AddSub

/-!
# Directories made in either order

Two directories neither of which is to stand in the other can be made in either order. The
orders claim different clusters and take different slots, and the one or the other may be the
first to make a parent grow. Still both succeed if one does, and what they leave behind cannot
be told apart by any request, except by the numbers of the clusters and the order of listings.

The trees are compared by what each of the four creations adds to what requests show.
-/

namespace FatVolume

/-- What a listing shows of an entry besides its cluster: the name, the attributes and the size. -/
abbrev Description := RawName × UInt8 × UInt32

def Entry.description (entry : Entry) : Description := (entry.name, entry.attributes, entry.size)

namespace Medium

variable {medium changed : Medium} {volume : Volume}

/-! ## Vacant names -/

/-- Whether a name is vacant depends on the walks along the first names of its path alone,
and so is the same for media on which these end alike. -/
theorem vacancy_congr {path : List Char}
    (walks : ∀ names, names <+: Path.names path →
      changed.walk volume names = medium.walk volume names) :
    changed.vacancy volume path = medium.vacancy volume path := by
  simp only [vacancy, resolve_eq_walk]
  rw [walks _ List.prefix_rfl]
  cases divided : Path.splitLeaf path with
  | none => rfl
  | some parts =>
    obtain ⟨front, leaf⟩ := parts
    have begins : Path.names front <+: Path.names path := by
      rw [Path.names_of_splitLeaf divided]
      exact List.prefix_append _ _
    dsimp only
    rw [walks (Path.names front) begins]

/-- Completing a directory leaves every name as vacant as it was, unless the path of that
name leads through the new directory. -/
theorem Completed.vacancy_other {path other : List Char} {cluster : Nat}
    (completed : medium.Completed changed volume path cluster)
    (consistent : medium.Consistent volume) (apart : ¬ Path.names path <+: Path.names other) :
    changed.vacancy volume other = medium.vacancy volume other := by
  refine vacancy_congr fun names begun => ?_
  have spelled : Spelled names := fun raw member => spelled_names other raw (begun.mem member)
  exact completed.walk_other consistent spelled fun through => apart (through.trans begun)

/-! ## Both orders succeed -/

/-- A directory has been made in a parent that had room for it. -/
structure MadeIn (medium changed : Medium) (volume : Volume) (path : List Char)
    (parent : Directory) (name : RawName) : Prop where
  vacant : medium.vacancy volume path = .ok (parent, name)
  reachable : medium.Reachable volume parent
  admits : medium.Admits volume parent
  spends : medium.Spends changed volume parent

/-- A vacant name stands in a directory of the tree, and all slots of that directory are
read without a failure. -/
theorem Consistent.parent_of_vacancy (consistent : medium.Consistent volume) {path : List Char}
    {parent : Directory} {name : RawName}
    (vacant : medium.vacancy volume path = .ok (parent, name)) :
    medium.Reachable volume parent ∧ (medium.slots volume parent).ending = none := by
  obtain ⟨_, _, awaits⟩ := vacancy_ok vacant
  exact ⟨awaits.reachable, consistent.slots_ending awaits.reachable⟩

namespace Creates

variable {path other : List Char} {cluster further : Nat} {writes rest instead final : List Write}
  {result ending : Except Failure Nat}

/-- A creation that succeeds on a consistent medium makes its directory in some parent:
the name was vacant there, and the parent admits one more entry. -/
theorem madeIn (creates : medium.Creates volume path (.ok cluster) writes)
    (consistent : medium.Consistent volume) :
    ∃ parent name, medium.MadeIn (medium.apply writes) volume path parent name := by
  have completed : ∃ parent name, medium.vacancy volume path = .ok (parent, name) := by
    cases creates with
    | created vacant claims free => exact ⟨_, _, vacant⟩
  obtain ⟨parent, name, vacant⟩ := completed
  obtain ⟨reachable, whole⟩ := consistent.parent_of_vacancy vacant
  exact ⟨parent, name, vacant, reachable, (creates.ok_iff vacant whole).mp ⟨cluster, rfl⟩,
    creates.spends vacant consistent⟩

/-- Where a directory is made and then another one, they can be made in the other order as well,
and leave the same number of free clusters. -/
theorem exchange (consistent : medium.Consistent volume)
    (first : medium.Creates volume path (.ok cluster) writes)
    (second : (medium.apply writes).Creates volume other (.ok further) rest)
    (ahead : ¬ Path.names path <+: Path.names other)
    (behind : ¬ Path.names other <+: Path.names path)
    (early : medium.Creates volume other result instead)
    (late : (medium.apply instead).Creates volume path ending final) :
    (∃ number, result = .ok number) ∧ (∃ number, ending = .ok number) ∧
      (((medium.apply writes).apply rest).freeClusters volume).card =
        (((medium.apply instead).apply final).freeClusters volume).card := by
  have completed := first.completed consistent
  obtain ⟨parent, name, made⟩ := first.madeIn consistent
  obtain ⟨elsewhere, raw, vacant, _, admits, spends⟩ :=
    second.madeIn (completed.consistent_after consistent)
  -- the second name is vacant at first, and there is room for it
  rw [completed.vacancy_other consistent ahead] at vacant
  obtain ⟨reached, whole⟩ := consistent.parent_of_vacancy vacant
  have room := made.spends.admits_before made.admits admits reached
  obtain ⟨number, rfl⟩ := (early.ok_iff vacant whole).mpr room
  -- the first name stays vacant meanwhile, and there is still room for it
  have between := early.completed consistent
  have after := between.consistent_after consistent
  have still := (between.vacancy_other consistent behind).trans made.vacant
  have taken := early.spends vacant consistent
  have left := made.spends.admits_instead made.admits admits made.reachable reached taken
  obtain ⟨last, rfl⟩ := (late.ok_iff still (after.parent_of_vacancy still).2).mpr left
  exact ⟨⟨number, rfl⟩, ⟨last, rfl⟩, made.spends.card_exchanged made.reachable reached spends taken
    (late.spends still after)⟩

end Creates

/-! ## Below an empty directory -/

/-- Looking for a name in a directory that lists nothing ends without finding it, as that
name is neither of the two that every directory holds. -/
theorem find_of_empty {directory : Directory} {name : RawName}
    (empty : medium.listing volume directory = ⟨#[], none⟩) (canonical : ShortName.Canonical name) :
    medium.find volume directory name = .error .notFound := by
  simp only [listing, Delivery.mk.injEq, List.toArray_eq_iff, List.filter_eq_nil_iff,
    List.mem_map, forall_exists_index, and_imp] at empty
  obtain ⟨dots, ending⟩ := empty
  have missing : (medium.entries volume directory).items.find?
      (fun item => ShortName.sameFolded item.2.name name) = none := by
    rw [List.find?_eq_none]
    intro item member carries
    apply dots item.2 item member rfl
    rw [Shown.wanted, isDot_of_sameFolded canonical carries]
    rfl
  rw [find, Course.firstWanted, missing, ending]
  rfl

/-- A walk that leads on from a directory which lists nothing ends at its next name: with
the failure of its encoding, or without finding it. -/
theorem walk_of_empty {names rest : List (Except Failure RawName)} {next : Except Failure RawName}
    {resolved : Resolved} {directory : Directory} (spelled : Spelled (names ++ next :: rest))
    (led : medium.walk volume names = .ok resolved) (opened : resolved.directory = .ok directory)
    (empty : medium.listing volume directory = ⟨#[], none⟩) :
    medium.walk volume (names ++ next :: rest) = next >>= fun _ => .error .notFound := by
  rw [walk, List.foldlM_append, ← walk, led]
  change List.foldlM (medium.stride volume) resolved (next :: rest) = _
  rw [List.foldlM_cons, stride, opened]
  cases next with
  | error failure => rfl
  | ok name =>
    have canonical := spelled name (List.mem_append_right _ List.mem_cons_self)
    change (medium.find volume directory name >>= _) >>= _ = _
    rw [find_of_empty empty canonical]
    rfl

end Medium

namespace Mounted

variable {mounted : Mounted} {before after host : Host} {path other : List Char}

/-- Below a directory that lists nothing there is nothing: looking up a deeper path fails
with the encoding of its next name, or finds nothing. -/
theorem lookup_of_empty {normal further : List Char} {next : Except Failure RawName}
    {rest : List (Except Failure RawName)} (serves : host.Serves mounted.volume)
    (empty : outcome (mounted.readDirectory path none) host = .ok ⟨#[], none⟩)
    (normalized : Path.normalize path = .ok normal) (deeper : Path.normalize other = .ok further)
    (names : Path.names further = Path.names normal ++ next :: rest) :
    outcome (mounted.lookup other) host = next >>= fun _ => .error .notFound := by
  rw [(readDirectory_answers path host rfl serves).1, Medium.readDirectory,
    Medium.lookup_of_walk normalized] at empty
  obtain ⟨resolved, led, empty⟩ := ok_of_bind empty
  obtain ⟨directory, opened, empty⟩ := ok_of_bind empty
  obtain ⟨_, _, empty⟩ := ok_of_bind empty
  rw [(lookup_answers other host rfl serves).1, Medium.lookup_of_walk deeper, names]
  exact Medium.walk_of_empty (names ▸ Medium.spelled_names further) led opened (Except.ok.inj empty)

/-! ## What requests show of a path -/

/-- What a listing shows, in no order and without clusters, and the failure that ends it. -/
def inventory (mounted : Mounted) (path : List Char) (host : Host) :
    Except Failure (Multiset Description × Option Failure) :=
  (outcome (mounted.readDirectory path none) host).map fun delivery =>
    (delivery.state.toList.map Entry.description, delivery.failure)

/-- What a path holds, without its order, consists of the descriptions of the entries that
reading its directory gives, and of how that ended. -/
theorem inventory_ok {entries : List Entry} {failure : Option Failure}
    (shown : outcome (mounted.readDirectory path none) host = .ok ⟨entries.toArray, failure⟩) :
    mounted.inventory path host = .ok (entries.map Entry.description, failure) := by
  rw [inventory, shown]
  rfl

/-- Requests show the same of a path on both hosts, clusters and the order of listings apart. -/
structure ShowsSame (mounted : Mounted) (before after : Host) (path : List Char) : Prop where
  status : outcome (mounted.status path) after = outcome (mounted.status path) before
  readWhole : outcome (mounted.readWhole path) after = outcome (mounted.readWhole path) before
  readWindow : ∀ offset buffer, outcome (mounted.readWindow path offset buffer) after =
    outcome (mounted.readWindow path offset buffer) before
  inventory : mounted.inventory path after = mounted.inventory path before

/-- Where looking up a file fails, reading it in one piece fails in the same way, and so
does reading a part of it into a buffer that is not empty. -/
theorem reads_of_lookupFile {failure : Failure}
    (failed : outcome (mounted.lookupFile path) host = .error failure) :
    outcome (mounted.readWhole path) host = .error failure ∧
      ∀ offset buffer, outcome (mounted.readWindow path offset buffer) host =
        if buffer.size = 0 then .ok (0, buffer) else .error failure := by
  refine ⟨outcome_bind_error failed, fun offset buffer => ?_⟩
  unfold readWindow
  split
  · rfl
  · exact outcome_bind_error failed

/-- Looking up a file fails for a path whose status is that of a directory, with the
failure that says so. -/
theorem lookupFile_of_status {size : Nat}
    (shown : outcome (mounted.status path) host = .ok ⟨.directory, size⟩) :
    outcome (mounted.lookupFile path) host = .error .isDirectory := by
  cases found : outcome (mounted.lookup path) host with
  | error failure =>
    rw [status, outcome_bind_error found] at shown
    cases shown
  | ok resolved =>
    rw [status, outcome_bind_ok found] at shown
    have kind : resolved.kind = .directory := congrArg Status.kind (Except.ok.inj shown)
    have opens : resolved.isDirectory = true := by
      by_contra closed
      rw [Resolved.kind, if_neg closed] at kind
      cases kind
    rw [lookupFile, outcome_bind_ok found, if_pos opens]
    rfl

namespace ShowsSame

/-- Whether a path shows the same on two hosts does not depend on which one of them is
named first. -/
theorem symm (same : mounted.ShowsSame before after path) :
    mounted.ShowsSame after before path where
  status := same.status.symm
  readWhole := same.readWhole.symm
  readWindow offset buffer := (same.readWindow offset buffer).symm
  inventory := same.inventory.symm

/-- A path that shows the same on two hosts, and again on the second and a third, shows
the same on the first and the third. -/
theorem trans (first : mounted.ShowsSame before host path)
    (second : mounted.ShowsSame host after path) : mounted.ShowsSame before after path where
  status := second.status.trans first.status
  readWhole := second.readWhole.trans first.readWhole
  readWindow offset buffer :=
    (second.readWindow offset buffer).trans (first.readWindow offset buffer)
  inventory := second.inventory.trans first.inventory

/-- A path shows the same on two hosts where looking it up fails in the same way on both,
since all other requests about it fail so too. -/
theorem of_missing {failure : Failure}
    (missing : outcome (mounted.lookup path) before = .error failure)
    (missed : outcome (mounted.lookup path) after = .error failure) :
    mounted.ShowsSame before after path := by
  have unread {host : Host} (lost : outcome (mounted.lookup path) host = .error failure) :=
    reads_of_lookupFile (outcome_bind_error lost : outcome (mounted.lookupFile path) host = _)
  have unlisted {host : Host} (lost : outcome (mounted.lookup path) host = .error failure) :
      mounted.inventory path host = .error failure := by
    have unopened : outcome (mounted.openDirectory path) host = .error failure :=
      outcome_bind_error lost
    rw [Mounted.inventory, readDirectory, outcome_bind_error unopened]
    rfl
  constructor
  · rw [Mounted.status, outcome_bind_error missing, outcome_bind_error missed]
  · rw [(unread missing).1, (unread missed).1]
  · intro offset buffer
    rw [(unread missing).2, (unread missed).2]
  · rw [unlisted missing, unlisted missed]

/-- A path shows the same on two hosts if it names directories of the same size there that
list the same, as directories have no bytes to read. -/
theorem of_directories {size : Nat}
    (shown : outcome (mounted.status path) before = .ok ⟨.directory, size⟩)
    (shown' : outcome (mounted.status path) after = .ok ⟨.directory, size⟩)
    (listed : mounted.ListsAlike before after path) : mounted.ShowsSame before after path := by
  have unread := reads_of_lookupFile (lookupFile_of_status shown)
  have unreadable := reads_of_lookupFile (lookupFile_of_status shown')
  constructor
  · rw [shown, shown']
  · rw [unread.1, unreadable.1]
  · intro offset buffer
    rw [unread.2, unreadable.2]
  · rw [Mounted.inventory, listed, Mounted.inventory]

end ShowsSame

/-- Without their order, the descriptions of some entries gain exactly one where an entry
comes in among them. -/
theorem descriptions_insert (earlier later : List Entry) (entry : Entry) :
    (((earlier ++ entry :: later).map Entry.description : List Description) :
      Multiset Description) =
        ((earlier ++ later).map Entry.description : List Description) + {entry.description} := by
  have moved := Multiset.coe_eq_coe.mpr
    ((List.perm_middle : List.Perm (earlier ++ entry :: later) _).map Entry.description)
  rwa [List.map_cons, ← Multiset.cons_coe, ← Multiset.singleton_add, add_comm] at moved

/-- What is listed of a path besides, once there is a directory at some names. -/
def arrivals (names : List (Except Failure RawName)) (path : List Char) : Multiset Description :=
  match Path.normalize path, names.getLast? with
  | .ok normal, some (.ok name) =>
    if Path.names normal = names.dropLast then {(name, Attributes.directory, 0)} else 0
  | _, _ => 0

namespace GainsDirectory

variable {names : List (Except Failure RawName)} (gains : mounted.GainsDirectory before after names)
include gains

/-- Where a new directory does not stand in the way of a path, its description is all that
the listing of that path gains, and only if the path names the parent. -/
theorem inventory_kept (apart : ¬ LeadsThrough names path) :
    mounted.inventory path after = (mounted.inventory path before).map fun shown =>
      (shown.1 + arrivals names path, shown.2) := by
  obtain ⟨entry, earlier, later, leaf, attributes, size, told⟩ := gains.listed
  simp only [arrivals, leaf]
  cases normalized : Path.normalize path with
  | error failure =>
    have same := gains.unlisted path apart (by simp [normalized])
    rw [inventory, same, ← inventory]
    cases mounted.inventory path before <;> simp [Except.map]
  | ok normal =>
    dsimp only
    by_cases above : Path.names normal = names.dropLast
    · obtain ⟨shown, gained⟩ := told path normal normalized above
      have described : entry.description = (entry.name, Attributes.directory, 0) := by
        rw [Entry.description, attributes, size]
      rw [if_pos above, inventory_ok shown, inventory_ok gained, descriptions_insert, described]
      rfl
    · have same := gains.unlisted path apart (by simp [normalized, above])
      rw [if_neg above, inventory, same, ← inventory]
      cases mounted.inventory path before <;> simp [Except.map]

/-- Requests show the same of a path that the new directory is not in the way of, unless it names
the parent. -/
theorem showsSame_elsewhere (apart : ¬ LeadsThrough names path)
    (below : ∀ normal, Path.normalize path = .ok normal → Path.names normal ≠ names.dropLast) :
    mounted.ShowsSame before after path := by
  obtain ⟨_, status, readWhole, readWindow⟩ := gains.kept path apart
  refine ⟨status, readWhole, readWindow, ?_⟩
  rw [inventory, gains.unlisted path apart below, inventory]

/-- Requests show the same of two directories that have come in at the same names, and of what
is sought below them. -/
theorem showsSame_through {start final : Host} {normal : List Char}
    (others : mounted.GainsDirectory start final names) (serves : after.Serves mounted.volume)
    (served : final.Serves mounted.volume) (normalized : Path.normalize path = .ok normal)
    (named : Path.names normal = names) (through : LeadsThrough names other) :
    mounted.ShowsSame after final other := by
  obtain ⟨further, deeper, rest, same⟩ := through
  cases rest with
  | nil =>
    rw [List.append_nil] at same
    obtain ⟨shown, listed⟩ := gains.found other further deeper same.symm
    obtain ⟨shown', listed'⟩ := others.found other further deeper same.symm
    exact .of_directories shown shown' (listed'.trans listed.symm)
  | cons next rest =>
    subst named
    have missing := lookup_of_empty serves (gains.found path normal normalized rfl).2 normalized
      deeper same.symm
    have missed := lookup_of_empty served (others.found path normal normalized rfl).2 normalized
      deeper same.symm
    cases next with
    | error failure => exact .of_missing missing missed
    | ok name => exact .of_missing missing missed

end GainsDirectory

/-- Of two directories neither of which lies in the other, no path leads through both. -/
theorem LeadsThrough.apart {names others : List (Except Failure RawName)}
    (ahead : ¬ names <+: others) (behind : ¬ others <+: names) (through : LeadsThrough names path) :
    ¬ LeadsThrough others path := by
  rintro ⟨normal, normalized, begun⟩
  obtain ⟨same, again, led⟩ := through
  rw [normalized] at again
  cases again
  rcases List.prefix_or_prefix_of_prefix led begun with shorter | longer
  · exact ahead shorter
  · exact behind longer

/-- A path that leads through one directory does not name the parent of another one,
unless the other lies in the first. -/
theorem LeadsThrough.ne_parent {names others : List (Except Failure RawName)}
    (ahead : ¬ names <+: others) (through : LeadsThrough names path) (normal : List Char)
    (normalized : Path.normalize path = .ok normal) : Path.names normal ≠ others.dropLast := by
  obtain ⟨same, again, led⟩ := through
  rw [normalized] at again
  cases again
  intro parent
  exact ahead ((parent ▸ led).trans (List.dropLast_prefix others))

/-- Two directories neither of which lies in the other come in in either order: every path
shows the same on both hosts at the end. -/
theorem GainsDirectory.exchange {first both second final : Host} {normal further : List Char}
    (serves : ∀ host ∈ [first, both, second, final], host.Serves mounted.volume)
    (normalized : Path.normalize path = .ok normal)
    (normalized' : Path.normalize other = .ok further)
    (ahead : ¬ Path.names normal <+: Path.names further)
    (behind : ¬ Path.names further <+: Path.names normal)
    (one : mounted.GainsDirectory host first (Path.names normal))
    (two : mounted.GainsDirectory first both (Path.names further))
    (instead : mounted.GainsDirectory host second (Path.names further))
    (last : mounted.GainsDirectory second final (Path.names normal)) (about : List Char) :
    mounted.ShowsSame both final about := by
  simp only [List.forall_mem_cons] at serves
  obtain ⟨served, servedBoth, servedSecond, servedFinal, _⟩ := serves
  -- A path that leads through one of the directories is not touched by the other, and every other
  -- path gains the same in either order.
  by_cases through : LeadsThrough (Path.names normal) about
  · have kept := two.showsSame_elsewhere (through.apart ahead behind) (through.ne_parent ahead)
    have made := one.showsSame_through last served servedFinal normalized rfl through
    exact kept.symm.trans made
  by_cases passes : LeadsThrough (Path.names further) about
  · have kept := last.showsSame_elsewhere through (passes.ne_parent behind)
    have made := two.showsSame_through instead servedBoth servedSecond normalized' rfl passes
    exact made.trans kept
  · have begun := one.kept about through
    have done := two.kept about passes
    have begun' := instead.kept about passes
    have done' := last.kept about through
    constructor
    · rw [done'.status, begun'.status, done.status, begun.status]
    · rw [done'.readWhole, begun'.readWhole, done.readWhole, begun.readWhole]
    · intro offset buffer
      rw [done'.readWindow, begun'.readWindow, done.readWindow, begun.readWindow]
    · rw [last.inventory_kept through, instead.inventory_kept passes, two.inventory_kept passes,
        one.inventory_kept through]
      cases mounted.inventory about host with
      | error failure => rfl
      | ok shown => simp [Except.map, add_right_comm]

/-! ## Requests in either order -/

/-- A request for a directory that succeeds on a consistent volume has created it, and the
host that it leaves still serves the volume and has that one directory more. -/
theorem creates_of_makeDirectory {normal : List Char} (serves : before.Serves mounted.volume)
    (consistent : before.medium.Consistent mounted.volume)
    (normalized : Path.normalize path = .ok normal)
    (succeeded : mounted.makeDirectory path before = .ok () after) :
    ∃ cluster writes, before.medium.Creates mounted.volume normal (.ok cluster) writes ∧
      after.medium = before.medium.apply writes ∧
      mounted.GainsDirectory before after (Path.names normal) ∧ after.Serves mounted.volume ∧
      after.medium.Consistent mounted.volume := by
  obtain ⟨ended, rfl⟩ := ran_ok_iff.mp succeeded
  obtain ⟨result, writes, creates, concluded, changed, device⟩ :=
    makeDirectory_creates serves normalized
  rw [ended] at concluded
  cases result with
  | error failure => cases concluded
  | ok cluster =>
    have completed := creates.completed consistent
    have compared := Volume.Compared.of_sameDevice serves device changed
    exact ⟨cluster, writes, creates, changed, compared.gainsDirectory consistent completed,
      compared.served, changed ▸ completed.consistent_after consistent⟩

/-- On a disk that refuses nothing, where two directories of a consistent volume neither of
which is to stand in the other are made one after the other, they can be made in the other order
as well. No request can then tell the trees apart, except by clusters and the order of listings,
and the same number of clusters is free. -/
theorem makeDirectory_commutes {mounted : Mounted} {host first both : Host}
    {path other normal further : List Char} (serves : host.Serves mounted.volume)
    (consistent : host.medium.Consistent mounted.volume)
    (normalized : Path.normalize path = .ok normal)
    (normalized' : Path.normalize other = .ok further)
    (ahead : ¬ Path.names normal <+: Path.names further)
    (behind : ¬ Path.names further <+: Path.names normal)
    (succeeded : mounted.makeDirectory path host = .ok () first)
    (succeeded' : mounted.makeDirectory other first = .ok () both) :
    ∃ second final, mounted.makeDirectory other host = .ok () second ∧
      mounted.makeDirectory path second = .ok () final ∧
      (∀ about, mounted.ShowsSame both final about) ∧
      (both.medium.freeClusters mounted.volume).card =
        (final.medium.freeClusters mounted.volume).card := by
  obtain ⟨cluster, writes, creates, changed, one, served, stays⟩ :=
    creates_of_makeDirectory serves consistent normalized succeeded
  obtain ⟨number, rest, creates', changed', two, servedBoth, _⟩ :=
    creates_of_makeDirectory served stays normalized' succeeded'
  obtain ⟨result, _, early, concluded, left, device⟩ := makeDirectory_creates serves normalized'
  obtain ⟨ending, _, late, concluded', left', _⟩ :=
    makeDirectory_creates (serves.of_sameDevice device) normalized
  rw [changed] at creates' changed'
  rw [left] at late left'
  -- The creations succeed in the other order as well, by the counts of free slots and free
  -- clusters.
  obtain ⟨⟨_, rfl⟩, ⟨_, rfl⟩, counted⟩ :=
    creates.exchange consistent creates' ahead behind early late
  have made := ran_ok_iff.mpr ⟨concluded, rfl⟩
  have made' := ran_ok_iff.mpr ⟨concluded', rfl⟩
  obtain ⟨_, _, _, _, instead, servedSecond, stays'⟩ :=
    creates_of_makeDirectory serves consistent normalized' made
  obtain ⟨_, _, _, _, last, servedFinal, _⟩ :=
    creates_of_makeDirectory servedSecond stays' normalized made'
  refine ⟨_, _, made, made', fun about => ?_, by rw [changed', left', counted]⟩
  exact GainsDirectory.exchange (by simp [served, servedBoth, servedSecond, servedFinal]) normalized
    normalized' ahead behind one two instead last about

/-- A directory is made in one that stands on the disk, and another one in the root. In either
order both are there at the end, and the file that was there is shown as it was. -/
theorem makeDirectory_commutes_furnished :
    let mounted : Mounted := ⟨0, .small, ⟨0, 20, 4⟩⟩
    let path := ['/', 'b', '/', 'x']
    let other := ['/', 'c']
    let first := afterwards (mounted.makeDirectory path) furnishedHost
    let both := afterwards (mounted.makeDirectory other) first
    (furnishedHost.Serves .small ∧ furnishedHost.medium.Consistent .small ∧
      mounted.makeDirectory path furnishedHost = .ok () first ∧
      mounted.makeDirectory other first = .ok () both) ∧
      ∃ second final, mounted.makeDirectory other furnishedHost = .ok () second ∧
        mounted.makeDirectory path second = .ok () final ∧
        (∀ about, mounted.ShowsSame both final about) ∧
        (both.medium.freeClusters .small).card = (final.medium.freeClusters .small).card ∧
        ∀ shown ∈ [both, final], outcome (mounted.status path) shown = .ok ⟨.directory, 0⟩ ∧
          outcome (mounted.status other) shown = .ok ⟨.directory, 0⟩ ∧
          outcome (mounted.status ['/', 'a']) shown = .ok ⟨.file, 1500⟩ := by
  intro mounted path other first both
  have normalized : Path.normalize path = .ok ['B', '/', 'X'] := by decide +kernel
  have normalized' : Path.normalize other = .ok ['C'] := by decide +kernel
  have spelled : Path.normalize ['/', 'a'] = .ok ['A'] := by decide +kernel
  obtain ⟨ahead, behind, above, aside⟩ :
      ¬ Path.names ['B', '/', 'X'] <+: Path.names ['C'] ∧
      ¬ Path.names ['C'] <+: Path.names ['B', '/', 'X'] ∧
      ¬ Path.names ['B', '/', 'X'] <+: Path.names ['A'] ∧
      ¬ Path.names ['C'] <+: Path.names ['A'] := by decide +kernel
  obtain ⟨made, made'⟩ : outcome (mounted.makeDirectory path) furnishedHost = .ok () ∧
      outcome (mounted.makeDirectory other) first = .ok () := by decide +kernel
  have succeeded : mounted.makeDirectory path furnishedHost = .ok () first :=
    ran_ok_iff.mpr ⟨made, rfl⟩
  have succeeded' : mounted.makeDirectory other first = .ok () both :=
    ran_ok_iff.mpr ⟨made', rfl⟩
  obtain ⟨_, _, _, _, one, served, stays⟩ := creates_of_makeDirectory furnishedHost_serves
    furnishedHost_consistent normalized succeeded
  obtain ⟨_, _, _, _, two, _⟩ := creates_of_makeDirectory served stays normalized' succeeded'
  have below : outcome (mounted.status path) both = .ok ⟨.directory, 0⟩ :=
    (two.kept path (not_leadsThrough normalized behind)).status.trans
      (one.found path _ normalized rfl).1
  have beside : outcome (mounted.status other) both = .ok ⟨.directory, 0⟩ :=
    (two.found other _ normalized' rfl).1
  have file : outcome (mounted.status ['/', 'a']) both = .ok ⟨.file, 1500⟩ :=
    (two.kept _ (not_leadsThrough spelled aside)).status.trans
      ((one.kept _ (not_leadsThrough spelled above)).status.trans furnishedHost_file)
  obtain ⟨second, final, turned, turned', same, counted⟩ :=
    makeDirectory_commutes furnishedHost_serves furnishedHost_consistent normalized normalized'
      ahead behind succeeded succeeded'
  refine ⟨⟨furnishedHost_serves, furnishedHost_consistent, succeeded, succeeded'⟩, second, final,
    turned, turned', same, counted, ?_⟩
  simp only [List.forall_mem_cons, (same path).status, (same other).status,
    (same ['/', 'a']).status]
  exact ⟨⟨below, beside, file⟩, ⟨below, beside, file⟩, fun _ none => absurd none List.not_mem_nil⟩

end Mounted

end FatVolume
