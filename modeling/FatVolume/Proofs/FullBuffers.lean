import FatVolume.Proofs.Listings

/-!
# Listings into buffers that become full

A listing into records learns that they are used up when it is handed one entry more. So it
asks the disk for what a reader asks who wants one entry more than there are records, and no
further: whatever comes behind that entry, the records hold the first entries and their number
is told.

Where no further entry comes, the listing has gone on to the end of the directory. A failure
that stands directly behind the entry of the last record is then told in place of the number of
records, although all of them are filled.
-/

namespace FatVolume

namespace Listing

/-- A visitor that fills records goes on as long as a collector of one entry more than there are
records does. Both leave the cursor and the host in the same state. -/
theorem deliver_add_afterwards (volume : Volume) (shown : Shown) {buffer : RecordBuffer}
    {collected : Array Entry} (aligned : collected.size = buffer.filled)
    (room : buffer.filled ≤ buffer.records.size) (count : Nat) (walk : Walk) :
    afterwards (deliver volume shown (Mounted.counting RecordBuffer.add) (buffer, count)) walk =
      afterwards (deliver volume shown (collectEntry (some (buffer.records.size + 1))) collected)
        walk := by
  match asked : next volume shown walk with
  | .ok none rest | .error failure rest =>
    simp only [afterwards]
    rw [deliver, deliver, asked]
  | .ok (some entry) rest =>
    have fewer := next_slotsLeft asked
    have more : (collected.push entry).size = collected.size + 1 := Array.size_push entry
    simp only [afterwards]
    rw [deliver, deliver, asked]
    simp only [Mounted.counting, RecordBuffer.add, collectEntry, Option.some.injEq]
    by_cases free : buffer.filled < buffer.records.size
    · rw [if_pos free, if_neg (by omega)]
      have size : (buffer.records.setIfInBounds buffer.filled (ListingRecord.ofEntry entry)).size =
          buffer.records.size := Array.size_setIfInBounds
      have further := @deliver_add_afterwards volume shown
        ⟨buffer.records.setIfInBounds buffer.filled (ListingRecord.ofEntry entry), buffer.filled + 1⟩
        (collected.push entry) (by dsimp only; omega) (by dsimp only; omega) (count + 1) rest
      rw [size] at further
      exact further
    · rw [if_neg free, if_pos (by omega)]
termination_by walk.cursor.slotsLeft volume

end Listing

namespace Mounted

variable {mounted : Mounted} {host : Host} {task : Task} {target : List Char}

/-- Listing into records attempts the transfers of a reader who wants one entry more than there
are records, and no others. What it works out beside them is the count that it tells. -/
theorem listRecords_afterwards (mounted : Mounted) (host : Host) {argument : Option (List Char)}
    (records : Array ListingRecord) (resolved : task.resolve (argument.getD []) = .ok target) :
    ∃ counted, afterwards (mounted.listRecords task argument records) host =
      let read := afterwards (mounted.readDirectory target (some (records.size + 1))) host
      { read with computed := counted ++ read.computed } := by
  obtain ⟨final, result, listed, _⟩ :=
    mounted.listDirectory_ends target RecordBuffer.add { records } host
  have written : afterwards (mounted.listRecords task argument records) host =
      afterwards (mounted.volume.workOut (.entryCount final.filled))
        (afterwards (mounted.listDirectory target RecordBuffer.add { records }) host) := by
    rw [listRecords, resolved]
    dsimp only
    rw [afterwards_bind_ok listed]
    rfl
  rw [written, listDirectory, readDirectory]
  cases opened : outcome (mounted.openDirectory target) host with
  | error failure =>
    have observed : outcome (observe (mounted.openDirectory target)) host = .ok (.error failure) := by
      rw [outcome_observe, opened]
    rw [afterwards_bind_ok observed, afterwards_observe, afterwards_bind_error opened]
    exact ⟨[.entryCount final.filled], rfl⟩
  | ok cursor =>
    have observed : outcome (observe (mounted.openDirectory target)) host = .ok (.ok cursor) := by
      rw [outcome_observe, opened]
    obtain ⟨entries, ending, yields, _⟩ := Listing.exists_yields mounted.volume .named
      ⟨cursor, afterwards (mounted.openDirectory target) host⟩
    have delivered := yields.deliver (counting RecordBuffer.add) (({ records } : RecordBuffer), 0)
    rw [← Cursor.outcome_along] at delivered
    -- A buffer with so many records stops its walk where a collection of one entry more stops.
    have lockstep : afterwards (Listing.deliver mounted.volume .named (counting RecordBuffer.add)
          (({ records } : RecordBuffer), 0)) ⟨cursor, afterwards (mounted.openDirectory target) host⟩ =
        afterwards (Listing.deliver mounted.volume .named
          (Listing.collectEntry (some (records.size + 1))) #[])
          ⟨cursor, afterwards (mounted.openDirectory target) host⟩ :=
      Listing.deliver_add_afterwards mounted.volume .named rfl (Nat.zero_le _) 0 _
    rw [afterwards_bind_ok observed, afterwards_observe, afterwards_bind_ok opened]
    dsimp only
    rw [handEntries, afterwards_bind_ok delivered, Cursor.afterwards_along, Cursor.afterwards_along,
      Listing.collect, if_neg (by simp), ← lockstep]
    generalize Listing.handOver (counting RecordBuffer.add) ending _ entries = delivery
    refine ⟨[.entryCount final.filled, .entryCount delivery.state.2], ?_⟩
    cases delivery.failure <;> rfl

/-- Where walking a directory comes to as many entries as there are records, all records are
filled with the first entries. Their number is told if one more entry comes, or if the directory
ends there; otherwise the failure is told that ends the walk directly behind them. -/
theorem listRecords_full (argument : Option (List Char)) (records : Array ListingRecord)
    {collected : Array Entry} {ending : Option Failure} (resolved : task.resolve (argument.getD []) = .ok target)
    (walked : outcome (mounted.readDirectory target none) host = .ok ⟨collected, ending⟩)
    (enough : records.size ≤ collected.size) :
    ∃ filled result,
      outcome (mounted.listRecords task argument records) host = .ok (filled, result) ∧
      Fills collected.toList records filled records.size ∧
      (result = .ok records.size ↔ records.size < collected.size ∨ ending = none) ∧
      ∀ failure, result = .error failure ↔ collected.size = records.size ∧ ending = some failure := by
  cases opened : outcome (mounted.openDirectory target) host with
  | error failure =>
    rw [readDirectory, outcome_bind_error opened] at walked
    cases walked
  | ok cursor =>
    obtain ⟨entries, cut, yields, _⟩ := Listing.exists_yields mounted.volume .named
      ⟨cursor, afterwards (mounted.openDirectory target) host⟩
    rw [readDirectory, outcome_bind_ok opened, Cursor.outcome_along, Listing.collect,
      if_neg (by simp), yields.deliver, Listing.handOver_collectEntry] at walked
    cases walked
    obtain ⟨filled, count, handed, fills⟩ := RecordBuffer.handOver_add records entries ending
    have listed := listDirectory_yields opened yields RecordBuffer.add { records }
    rw [handed] at listed
    have written := listRecords_outcome resolved listed
    simp only [Array.empty_append, List.size_toArray] at enough ⊢
    obtain rfl : count = records.size := by rw [fills.counted, Nat.min_eq_left enough]
    refine ⟨filled, _, written, fills, ?_, fun failure => ?_⟩
    · by_cases longer : records.size < entries.length
      · simp [longer]
      · cases ending <;> simp [longer]
    · by_cases longer : records.size < entries.length
      · simp [longer, Nat.ne_of_gt longer]
      · have same : entries.length = records.size := by omega
        cases ending <;> simp [same]

/-- A host with a disk of twenty sectors on which the root region leads to a directory that
begins with some entries. All other slots of its one cluster are erased, and its chain is broken
behind it, since the table says that the cluster is free. -/
def unendedHost (entries : List Entry) : Host where
  disk :=
    { capacity := 20
      contents :=
        let erased : Record := Vector.replicate 32 0xE5
        (((∅ : Std.TreeMap Nat Sector).insert 3
          (Sector.ofRecords [(lone 0x44 Attributes.directory 0 2).encode])).insert 4
            (Sector.ofRecords (entries.map Entry.encode ++
              List.replicate (16 - entries.length) erased))).insert 5
                (Sector.ofRecords (List.replicate 16 erased)) }
  largestBlock := 4096

/-- Where the buffer is filled by the first of two entries, the broken chain behind the
second one is not met, and the listing succeeds. -/
theorem listRecords_full_unended :
    let mounted : Mounted := ⟨0, .small, ⟨0, 20, 4⟩⟩
    let entries := [lone 0x41 0 0, lone 0x42 0 0]
    let host := unendedHost entries
    ({} : Task).resolve ['/', 'D'] = .ok ['/', 'D'] ∧
      ∃ collected ending filled,
        outcome (mounted.readDirectory ['/', 'D'] none) host = .ok ⟨collected, ending⟩ ∧
        collected.toList = entries ∧ ending = some .brokenChain ∧
        outcome (mounted.listRecords {} (some ['/', 'D']) #[.empty]) host = .ok (filled, .ok 1) ∧
        Fills entries #[.empty] filled 1 := by
  intro mounted entries host
  have resolved : ({} : Task).resolve ['/', 'D'] = .ok ['/', 'D'] := by decide +kernel
  have shown : (outcome (mounted.readDirectory ['/', 'D'] none) host).map
      (fun delivery => (delivery.state.toList, delivery.failure)) =
        .ok (entries, some .brokenChain) := by decide +kernel
  cases walked : outcome (mounted.readDirectory ['/', 'D'] none) host with
  | error failure =>
    rw [walked] at shown
    cases shown
  | ok delivery =>
    obtain ⟨collected, ending⟩ := delivery
    rw [walked] at shown
    obtain ⟨same, broken⟩ := Prod.mk.inj (Except.ok.inj shown)
    have size : collected.size = 2 := congrArg List.length same
    obtain ⟨filled, result, written, fills, counts, _⟩ :=
      listRecords_full (some ['/', 'D']) #[.empty] resolved walked (by rw [size]; decide)
    rw [counts.mpr (.inl (by rw [size]; decide))] at written
    rw [same] at fills
    exact ⟨resolved, collected, ending, filled, rfl, same, broken, written, fills⟩

/-- The broken chain directly behind the entry of the only record is told, although a reader
receives this entry before. -/
theorem listRecords_full_told_broken :
    let mounted : Mounted := ⟨0, .small, ⟨0, 20, 4⟩⟩
    let host := unendedHost [lone 0x41 0 0]
    (outcome (mounted.readDirectory ['/', 'D'] none) host).map
        (fun delivery => (delivery.state.toList, delivery.failure)) =
        .ok ([lone 0x41 0 0], some .brokenChain) ∧
      (outcome (mounted.listRecords {} (some ['/', 'D']) #[.empty]) host).map Prod.snd =
        .ok (.error .brokenChain) := by
  intro mounted host
  exact ⟨by decide +kernel, by decide +kernel⟩

end Mounted

end FatVolume
