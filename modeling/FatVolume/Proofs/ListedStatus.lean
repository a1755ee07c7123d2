import FatVolume.Proofs.Listings
import FatVolume.Proofs.ShortNames

/-!
# Records and statuses

A record of a listing and the status of a path tell of an entry in two ways: the one on the way
through all entries of a directory, the other by a search for the name that the record shows. If
this name leads back to the entry, both tell the same kind. They tell the same size of a file, and
of a directory whose recorded size is zero. For other directories they differ, since a record
tells that a directory has no size, and a status tells what is recorded.

Names that do not lead back are left out here: those that are refused as components, those that
are shown with bytes replaced, and those that an earlier entry carries as well.
-/

namespace FatVolume

namespace Medium

variable {medium : Medium} {volume : Volume} {path : List Char} {directory : Directory}

/-- A path with one more component is looked up by searching for that component in the
directory to which the path leads. -/
theorem lookup_joined {component normal : List Char} {name : RawName}
    (led : (medium.lookup volume path >>= Resolved.directory) = .ok directory)
    (encoded : ShortName.encode component = .ok name)
    (fits : Path.normalize (path ++ '/' :: component) = .ok normal) :
    medium.lookup volume (path ++ '/' :: component) =
      (medium.find volume directory name).map .ofEntry := by
  obtain ⟨resolved, looked, opened⟩ := ok_of_bind led
  obtain ⟨front, normalized, _⟩ := ok_of_bind looked
  have names := Path.names_joined normalized fits (ShortName.isName_of_encode encoded)
  rw [lookup_of_walk normalized] at looked
  rw [lookup_of_walk fits, names, walk_concat, looked, encoded]
  change (resolved.directory >>= fun directory => _) = _
  rw [opened]
  rfl

/-- The status at a path with one more component is what the first entry records that
carries the name of that component in the directory. -/
theorem status_joined {component normal : List Char} {name : RawName} {entry : Entry}
    (led : (medium.lookup volume path >>= Resolved.directory) = .ok directory)
    (encoded : ShortName.encode component = .ok name)
    (fits : Path.normalize (path ++ '/' :: component) = .ok normal)
    (first : FirstCarries name (medium.slots volume directory).items entry) :
    medium.status volume (path ++ '/' :: component) = .ok ⟨entry.kind, entry.size.toNat⟩ := by
  rw [status, lookup_joined led encoded fits, (find_iff_firstCarries directory name entry).mpr first]
  rfl

end Medium

namespace Fills

variable {entries : List Entry} {records filled : Array ListingRecord} {count : Nat}

/-- Records are filled with no entries by leaving them as they are, with a count of zero. -/
theorem nothing (records : Array ListingRecord) : Fills [] records records 0 where
  counted := by simp
  size := rfl
  tells := by simp
  left _ _ := rfl

/-- Records that some entries have used up are filled in the same way by these entries
with more of them behind. -/
theorem append (fills : Fills entries records filled count)
    (full : records.size ≤ entries.length) (missed : List Entry) :
    Fills (entries ++ missed) records filled count where
  counted := by rw [fills.counted, List.length_append]; omega
  size := fills.size
  tells number entry inside stood := by
    have few := fills.counted
    rw [List.getElem?_append_left (by omega)] at stood
    exact fills.tells number entry inside stood
  left := fills.left

end Fills

namespace Mounted

variable {mounted : Mounted} {host : Host} {task : Task} {argument : Option (List Char)}
  {target path : List Char} {records filled : Array ListingRecord} {result : Except Failure Nat}
  {directory : Directory}

/-- A request for a status only reads the disk, and undisturbed it ends as it does on the
medium itself. -/
theorem status_reads (medium : Medium) (path : List Char) :
    Reads (mounted.status path) medium (medium.status mounted.volume path) :=
  (lookup_reads path).andThen fun _ _ => .pure _

/-- Unless the disk fails it, a listing fills records with the entries of the directory that it
shows. Any other failure stands behind all of these. -/
theorem listRecords_fills (resolved : task.resolve (argument.getD []) = .ok target)
    (led : (host.medium.lookup mounted.volume target >>= Resolved.directory) = .ok directory)
    (written : outcome (mounted.listRecords task argument records) host = .ok (filled, result))
    (spared : SparedByDisk result) :
    ∃ count, Fills ((listed (host.medium.slots mounted.volume directory).items).filter (!·.isDot))
      records filled count := by
  cases opened : outcome (mounted.openDirectory target) host with
  | error failure =>
    rw [listRecords_outcome resolved (listDirectory_unopened opened _ _)] at written
    obtain ⟨rfl, rfl⟩ := Prod.mk.inj (Except.ok.inj written)
    -- The path leads to a directory, so that this cannot be walked is what stopped the listing.
    have intended := (openDirectory_reads host.medium target).intended_of_spared rfl
      fun other same => spared other (by rw [opened] at same; cases same; rfl)
    obtain ⟨named, looked, entered⟩ := ok_of_bind led
    rw [opened, looked] at intended
    change _ = named.directory >>= _ at intended
    rw [entered] at intended
    rw [Cursor.slots_of_start_error host.medium intended.symm]
    exact ⟨0, .nothing records⟩
  | ok cursor =>
    obtain ⟨other, leads, started, left⟩ := openDirectory_ok opened
    obtain rfl := Except.ok.inj (led.symm.trans leads)
    obtain ⟨ready, ahead⟩ := Cursor.start_ready host.medium started
    obtain ⟨entries, ending, yields, _⟩ := Listing.exists_yields mounted.volume .named
      ⟨cursor, afterwards (mounted.openDirectory target) host⟩
    obtain ⟨missed, shows, whole⟩ := yields.shown_ahead left ready
    rw [ahead] at shows
    obtain ⟨stored, count, handed, fills⟩ := RecordBuffer.handOver_add records entries ending
    have ended := listDirectory_yields opened yields RecordBuffer.add { records }
    rw [handed] at ended
    rw [listRecords_outcome resolved ended] at written
    obtain ⟨rfl, rfl⟩ := Prod.mk.inj (Except.ok.inj written)
    refine ⟨count, ?_⟩
    rw [← Medium.entries_eq_listed]
    change Fills ((((host.medium.slots mounted.volume directory).entries).items.map Prod.snd).filter
      Shown.named.wanted) records stored count
    rw [shows]
    by_cases full : records.size < entries.length
    · exact fills.append (Nat.le_of_lt full) missed
    · have spared : SparedByDisk _ := spared
      rw [whole fun failure ends => spared failure (by simp [full, ends]), List.append_nil]
      exact fills

/-- A listing that no failure of the disk has ended fills records with the entries that it shows.
Where the name that a record shows can be searched for and leads back to the entry, the status of
the path with this name is told, and has the kind that the record has; it has the size that the
record has exactly for a file and for a directory whose recorded size is zero. -/
theorem status_of_record (mounted : Mounted) {host : Host} {task : Task}
    {argument : Option (List Char)} {target path : List Char}
    {records filled : Array ListingRecord} {result : Except Failure Nat} {directory : Directory}
    (resolved : task.resolve (argument.getD []) = .ok target)
    (same : Path.normalize target = Path.normalize path)
    (led : (host.medium.lookup mounted.volume path >>= Resolved.directory) = .ok directory)
    (written : outcome (mounted.listRecords task argument records) host = .ok (filled, result))
    (spared : SparedByDisk result) :
    let slots := (host.medium.slots mounted.volume directory).items
    let shown := (listed slots).filter (!·.isDot)
    ∃ count, Fills shown records filled count ∧
      ∀ (number : Nat) (entry : Entry) (name : RawName) (normal : List Char) (later : Host),
        number < count → shown[number]? = some entry →
        ShortName.encode entry.displayName = .ok name → FirstCarries name slots entry →
        let joined := path ++ '/' :: entry.displayName
        Path.normalize joined = .ok normal → later.medium = host.medium →
        SparedByDisk (outcome (mounted.status joined) later) →
          ∃ record status, filled[number]? = some record ∧
            record.nameBytes = Text.utf8 entry.displayName ∧
            outcome (mounted.status joined) later = .ok status ∧
            record.kind? = some status.kind ∧
            (record.size.toNat = status.size ↔ (entry.isDirectory = true → entry.size = 0)) := by
  intro slots shown
  have reached : host.medium.lookup mounted.volume target =
      host.medium.lookup mounted.volume path := by rw [Medium.lookup, same, Medium.lookup]
  obtain ⟨count, fills⟩ := listRecords_fills resolved (reached ▸ led) written spared
  refine ⟨count, fills, ?_⟩
  intro number entry name normal later inside stood encoded first joined fits unchanged served
  obtain ⟨record, stands, named, kind, size⟩ := fills.tells number entry inside stood
  have told : outcome (mounted.status joined) later = .ok ⟨entry.kind, entry.size.toNat⟩ := by
    rw [(status_reads host.medium joined).intended_of_spared unchanged served]
    exact Medium.status_joined led encoded fits first
  refine ⟨record, _, stands, named, told, kind, ?_⟩
  rw [size]
  cases entry.isDirectory with
  | false => simp
  | true => simp [← UInt32.toNat_inj, eq_comm]

/-- Of two files that share a name, the first one is listed, and its name leads back to it
with the same kind and size. -/
theorem status_of_record_small :
    let mounted : Mounted := ⟨0, .small, ⟨0, 20, 4⟩⟩
    let records := Array.replicate 2 ListingRecord.empty
    ∃ filled record,
      outcome (mounted.listRecords {} none records) namesakesHost = .ok (filled, .ok 2) ∧
      filled[0]? = some record ∧ record.nameBytes = [0x62] ∧ record.kind? = some .file ∧
      record.size.toNat = 1 ∧
      outcome (mounted.status ['/', 'b']) namesakesHost = .ok ⟨.file, 1⟩ := by
  intro mounted records
  let entry := lone 0x62 0 1
  have counts : (outcome (mounted.listRecords {} none records) namesakesHost >>= fun written =>
      .ok written.2) = .ok (.ok 2) := by decide +kernel
  obtain ⟨⟨filled, result⟩, written, same⟩ := ok_of_bind counts
  obtain rfl := Except.ok.inj same
  have root : (namesakesHost.medium.lookup mounted.volume [] >>= Resolved.directory) =
      .ok .root := by decide +kernel
  have answered : outcome (mounted.status ['/', 'b']) namesakesHost = .ok ⟨.file, 1⟩ := by
    decide +kernel
  have shows : ((listed (namesakesHost.medium.slots mounted.volume .root).items).filter
      (!·.isDot))[0]? = some entry := by decide +kernel
  have sought : (listed (namesakesHost.medium.slots mounted.volume .root).items).find?
      (fun other => ShortName.sameFolded other.name (lone 0x42 0 0).name) = some entry := by
    decide +kernel
  obtain ⟨count, fills, told⟩ := @status_of_record mounted namesakesHost {} none ['/'] [] records
    filled (.ok 2) .root (by decide) (by decide +kernel) root written (by simp [SparedByDisk])
  have few : 0 < count := by
    obtain ⟨some, _⟩ := List.getElem?_eq_some_iff.mp shows
    rw [fills.counted]
    exact Nat.lt_min.mpr ⟨by decide, some⟩
  have spelled : [] ++ '/' :: entry.displayName = ['/', 'b'] := by decide +kernel
  obtain ⟨record, status, stands, named, tells, kind, size⟩ :=
    told 0 entry (lone 0x42 0 0).name ['B'] namesakesHost few shows (by decide +kernel)
      (find?_listed.mp sought) (by decide +kernel) rfl (by rw [spelled, answered]; simp [SparedByDisk])
  rw [spelled, answered] at tells
  cases tells
  exact ⟨filled, record, written, stands, named, kind, size.mpr (by decide), answered⟩

/-- For a directory with a recorded size other than zero, the record of a listing tells
zero and the status tells the recorded size. -/
theorem sizedDirectory_told_apart :
    let mounted : Mounted := ⟨0, .small, ⟨0, 20, 4⟩⟩
    let entry := lone 0x44 Attributes.directory 7 2
    let host := rootHost [entry]
    ShortName.encode entry.displayName = .ok entry.name ∧
      FirstCarries entry.name (host.medium.slots mounted.volume .root).items entry ∧
      (outcome (mounted.listRecords {} none #[.empty]) host).map
        (fun written => (written.1.map ListingRecord.size, written.2)) = .ok (#[0], .ok 1) ∧
      outcome (mounted.status ('/' :: entry.displayName)) host = .ok ⟨.directory, 7⟩ := by
  intro mounted entry host
  have sought : (listed (host.medium.slots mounted.volume .root).items).find?
      (fun other => ShortName.sameFolded other.name entry.name) = some entry := by decide +kernel
  exact ⟨by decide +kernel, find?_listed.mp sought, by decide +kernel, by decide +kernel⟩

end Mounted

end FatVolume
