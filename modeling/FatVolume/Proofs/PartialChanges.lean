import FatVolume.Proofs.Formatted
import FatVolume.Proofs.TableBytes

/-!
# Changes of an entry that stop between copies

The entry of a cluster is changed in one copy of the table after the other, and a disk may
refuse a transfer at any of them. The copies in front of the one that was being handled then
hold the new value, and no other byte of the disk is different.

Such a disk is read as if nothing or everything had been changed. The first copy decides
unless it says free: before it is changed the old value is read, and from then on the new
one, if this does not say free. The other clusters have the links that they had.
-/

namespace FatVolume

/-- How the change of one sector ends: it is carried out, or a transfer of the sector is
refused, or the disk has sectors of another size. Only the first one changes the disk. -/
inductive RewriteEnds (write : Write) (before after : Host) : Except Failure Unit → Prop
  | carriedOut (sized : before.disk.sectorSize = 512) (undisturbed : before.Undisturbed after)
      (changed : after.medium = before.medium.write write) :
      RewriteEnds write before after (.ok ())
  | refused (attempt : Transfer) (cause : DiskError) (served : List Event)
      (addressed : attempt.lba = write.lba) (granted : ∀ event ∈ served, ¬ event.IsRefusal)
      (last : after.trace = .transfer attempt (some cause) :: (served ++ before.trace))
      (kept : after.medium = before.medium) :
      RewriteEnds write before after (.error (.transfer cause))
  | foreign (other : before.disk.sectorSize ≠ 512) (kept : after.medium = before.medium) :
      RewriteEnds write before after (.error (.sectorSize before.disk.sectorSize))

/-- Changing a sector reads it and writes what has become of it: both are carried out, or
the first that is refused leaves it as it was. -/
theorem rewriteSector_ends (lba : Nat) (edit : Sector → Sector) (host : Host) :
    let rewrite : HostM Unit := readSector lba >>= fun sector => writeSector lba (edit sector)
    RewriteEnds ⟨lba, edit (host.medium lba)⟩ host (afterwards rewrite host)
      (outcome rewrite host) := by
  intro rewrite
  have unread {failure : Failure} {after : Host}
      (failed : attempt (.read lba) host = .error failure after) :
      rewrite host = .error failure after := by
    obtain ⟨ended, left⟩ := ran_error_iff.mp (readSector_of_error failed)
    exact (bind_of_error ended).trans (left ▸ rfl)
  by_cases sized : host.disk.sectorSize = 512
  case neg =>
    obtain ⟨failed, left⟩ := ran_error_iff.mp (unread (attempt_of_sectorSize sized _))
    rw [failed, left]
    exact .foreign sized rfl
  cases read : host.disk.refusal (.read lba) with
  | some cause =>
    obtain ⟨failed, left⟩ := ran_error_iff.mp (unread (attempt_of_refusal sized read))
    rw [failed, left]
    exact .refused (.read lba) cause [] rfl (by simp) rfl rfl
  | none =>
    -- The sector has been read, and all that can still be refused is the write.
    let loaded := host.served (.read lba)
    let data := edit (host.medium lba)
    have still : loaded.disk.sectorSize = 512 := sized
    have continues : rewrite host = attempt (.write lba data) loaded := by
      obtain ⟨succeeded, left⟩ := ran_ok_iff.mp (readSector_of_service sized read)
      exact (bind_of_ok succeeded).trans (left ▸ rfl)
    cases written : loaded.disk.refusal (.write lba data) with
    | some cause =>
      obtain ⟨failed, left⟩ := ran_error_iff.mp (continues.trans (attempt_of_refusal still written))
      rw [failed, left]
      refine .refused (.write lba data) cause [.transfer (.read lba) none] rfl ?_ rfl rfl
      rintro event member ⟨attempt, cause, rfl⟩
      simp at member
    | none =>
      obtain ⟨succeeded, left⟩ := ran_ok_iff.mp (continues.trans (attempt_of_service still written))
      rw [succeeded, left]
      refine .carriedOut sized ⟨[.transfer (.write lba data) none, .transfer (.read lba) none], rfl, ?_⟩
        (loaded.medium_served_write lba data)
      rintro event member ⟨attempt, cause, rfl⟩
      simp at member

namespace Medium

variable {medium : Medium} {volume : Volume} {cluster : Nat} {value : UInt16}

/-- The writes that change a link in one more copy are those for the copies before it, and
then that for this copy. -/
theorem linkWrites_succ (copies : Nat) :
    medium.linkWrites volume cluster value (copies + 1) =
      medium.linkWrites volume cluster value copies ++
        [⟨volume.linkSector copies cluster,
          (medium (volume.linkSector copies cluster)).setWord (Layout.linkIndex cluster) value⟩] := by
  simp [linkWrites, List.range_succ]

/-- Once every copy has been changed, reading the link tells the new value, even where
this value says that the cluster is free. -/
theorem link_changed (data : volume.DataCluster cluster) :
    (medium.apply (medium.linkWrites volume cluster value volume.tableCopies)).link volume cluster =
      value := by
  simp only [link]
  rw [linkIn_changed data volume.usable.tableCopies_pos]
  split
  · rfl
  · next undecided => exact linkIn_changed data (by omega)

end Medium

namespace Volume

/-- How the change of an entry ends that is to handle so many copies and has handled the
first ones of them: all were handled, or a transfer for the next one was refused, or the disk
has sectors of another size, and then none was handled. -/
inductive ChangeEnds (volume : Volume) (cluster copies : Nat) (before after : Host) :
    Nat → Except Failure Unit → Prop
  | whole (sized : 0 < copies → before.disk.sectorSize = 512)
      (undisturbed : before.Undisturbed after) :
      ChangeEnds volume cluster copies before after copies (.ok ())
  | refused {handled : Nat} (attempt : Transfer) (cause : DiskError) (served : List Event)
      (missed : handled < copies) (addressed : attempt.lba = volume.linkSector handled cluster)
      (granted : ∀ event ∈ served, ¬ event.IsRefusal)
      (last : after.trace = .transfer attempt (some cause) :: (served ++ before.trace)) :
      ChangeEnds volume cluster copies before after handled (.error (.transfer cause))
  | foreign (missed : 0 < copies) (other : before.disk.sectorSize ≠ 512) :
      ChangeEnds volume cluster copies before after 0 (.error (.sectorSize before.disk.sectorSize))

/-- The operation changes the entry of a cluster in so many copies, one after the other, as far
as the disk lets it: in the copies that were handled, and nothing else. -/
def ChangesInTurn (volume : Volume) (cluster : Nat) (value : UInt16) (copies : Nat)
    (operation : HostM Unit) (host : Host) : Prop :=
  host.SameDevice (afterwards operation host) ∧
    ∃ handled, volume.ChangeEnds cluster copies host (afterwards operation host) handled
        (outcome operation host) ∧
      (afterwards operation host).medium =
        host.medium.apply (host.medium.linkWrites volume cluster value handled)

variable {volume : Volume} {cluster : Nat}

/-- Changing a link in one copy reads the sector of its entry and writes it back, or the
first of these that is refused leaves the sector as it was. -/
theorem setLinkCopy_ends (value : UInt16) (copy : Nat) (host : Host) :
    RewriteEnds ⟨volume.linkSector copy cluster,
        (host.medium (volume.linkSector copy cluster)).setWord (Layout.linkIndex cluster) value⟩
      host (afterwards (volume.setLinkCopy cluster value copy) host)
      (outcome (volume.setLinkCopy cluster value copy) host) := by
  -- The address is worked out first, which adds to the computations of the host and to nothing else.
  let counted : Host := { host with computed := .linkSector copy cluster :: host.computed }
  have ends := rewriteSector_ends (volume.linkSector copy cluster)
    (·.setWord (Layout.linkIndex cluster) value) counted
  change RewriteEnds _ counted (afterwards (volume.setLinkCopy cluster value copy) host)
    (outcome (volume.setLinkCopy cluster value copy) host) at ends
  generalize outcome (volume.setLinkCopy cluster value copy) host = result at *
  cases ends with
  | carriedOut sized undisturbed changed => exact .carriedOut sized undisturbed changed
  | refused attempt cause served addressed granted last kept =>
    exact .refused attempt cause served addressed granted last kept
  | foreign other kept => exact .foreign other kept

/-- Behind the copies that were handled, the next one is handled in the same way. No copy
shares a sector with another one, so its sector is as it was found. -/
theorem ChangesInTurn.further {value : UInt16} {copies : Nat} {operation : HostM Unit}
    {host : Host} (data : volume.DataCluster cluster)
    (changes : volume.ChangesInTurn cluster value copies operation host) :
    volume.ChangesInTurn cluster value (copies + 1)
      (operation >>= fun _ => volume.setLinkCopy cluster value copies) host := by
  obtain ⟨device, handled, ends, changed⟩ := changes
  rw [ChangesInTurn]
  generalize ended : outcome operation host = result at ends
  cases ends with
  -- Behind a refusal nothing more is done, and one more copy is left out.
  | refused attempt cause served missed addressed granted last =>
    rw [afterwards_bind_error ended, outcome_bind_error ended]
    exact ⟨device, handled,
      .refused attempt cause served (Nat.lt_succ_of_lt missed) addressed granted last, changed⟩
  | foreign missed other =>
    rw [afterwards_bind_error ended, outcome_bind_error ended]
    exact ⟨device, 0, .foreign (Nat.lt_succ_of_lt missed) other, changed⟩
  | whole sized undisturbed =>
    rw [afterwards_bind_ok ended, outcome_bind_ok ended]
    generalize afterwards operation host = between at *
    -- The copies in front were changed in sectors of their own.
    have asFound : between.medium (volume.linkSector copies cluster) =
        host.medium (volume.linkSector copies cluster) := by
      rw [changed]
      refine Medium.linkWrites_untouched fun copy inside same => ?_
      have equal := (Layout.linkSector_inj data data same).1
      omega
    have performed : PerformsFrom (volume.setLinkCopy cluster value copies) between _ _ :=
      setLinkCopy_performs value copies between rfl
    obtain ⟨_, _, _, kept, _⟩ := performed
    have step : RewriteEnds _ between _
        (outcome (volume.setLinkCopy cluster value copies) between) :=
      setLinkCopy_ends value copies between
    rw [asFound] at step
    generalize outcome (volume.setLinkCopy cluster value copies) between = result at step
    generalize afterwards (volume.setLinkCopy cluster value copies) between = after at *
    refine ⟨device.trans kept, ?_⟩
    cases step with
    | carriedOut standard calm rewritten =>
      refine ⟨copies + 1, .whole (fun _ => device.sectorSize ▸ standard)
        (undisturbed.trans calm), ?_⟩
      rw [rewritten, changed, Medium.linkWrites_succ, Medium.apply_append]
      rfl
    | refused attempt cause served addressed granted last untouched =>
      obtain ⟨earlier, traced, known⟩ := undisturbed
      refine ⟨copies, .refused attempt cause (served ++ earlier) (Nat.lt_succ_self _) addressed
        (fun event member => (List.mem_append.mp member).elim (granted event) (known event)) ?_,
        untouched.trans changed⟩
      rw [last, traced, List.append_assoc]
    | foreign other untouched =>
      rw [device.sectorSize] at other ⊢
      -- The size of the sectors does not change, so it was noticed at the first copy.
      obtain rfl : copies = 0 := by
        by_contra some
        exact other (sized (Nat.pos_of_ne_zero some))
      exact ⟨0, .foreign (Nat.lt_succ_self _) other, untouched.trans changed⟩

/-- Any number of copies is changed in turn: all of them, or those before the one at which
something was refused. -/
theorem setLinkCopies_changesInTurn (data : volume.DataCluster cluster) (value : UInt16)
    (copies : Nat) (host : Host) :
    volume.ChangesInTurn cluster value copies
      ((List.range copies).forM (volume.setLinkCopy cluster value)) host := by
  -- Copy by copy: those that were handled are the first ones, whatever happens at the next.
  induction copies with
  | zero => exact ⟨.refl host, 0, .whole (by simp) (Host.Spared.refl _ host), rfl⟩
  | succ copies inductionHypothesis =>
    have extended : (List.range (copies + 1)).forM (volume.setLinkCopy cluster value) =
        (List.range copies).forM (volume.setLinkCopy cluster value) >>= fun _ =>
          volume.setLinkCopy cluster value copies := by
      simp only [List.range_succ, List.forM_eq_forM, List.forM_append, List.forM_cons,
        List.forM_nil, bind_pure_unit]
    rw [extended]
    exact inductionHypothesis.further data

/-- A change of an entry is exact, and is read as made or as not begun. It has handled the
first copies: every one if it succeeds, and otherwise those in front of the copy whose transfer
was refused last. The entry has the new value in the copies that were handled, and every other
byte of the disk is what it was. The new value is read if all copies were handled; if it does
not say free, it is read as soon as one was, and the old value as long as none was. The values
that are read for all other clusters are the same before and after. -/
theorem setLink_changesInTurn (data : volume.DataCluster cluster) (value : UInt16) (host : Host) :
    let after := afterwards (volume.setLink cluster value) host
    ∃ handled, volume.ChangeEnds cluster volume.tableCopies host after handled
        (outcome (volume.setLink cluster value) host) ∧
      (∀ copy < handled, after.disk.tableEntry volume.toLayout copy cluster = value) ∧
      (∀ copy ≥ handled, after.disk.tableEntry volume.toLayout copy cluster =
        host.disk.tableEntry volume.toLayout copy cluster) ∧
      (∀ offset, (∀ copy < handled, ¬ volume.InLink copy cluster offset) →
        after.disk.byte offset = host.disk.byte offset) ∧
      (handled = volume.tableCopies → Reads (volume.link cluster) after.medium (.ok value)) ∧
      (∃ old, Reads (volume.link cluster) host.medium (.ok old) ∧ (value ≠ 0 →
        Reads (volume.link cluster) after.medium (.ok (if handled = 0 then old else value)))) ∧
      ∀ number, volume.DataCluster number → number ≠ cluster →
        ∃ told, Reads (volume.link number) host.medium (.ok told) ∧
          Reads (volume.link number) after.medium (.ok told) := by
  intro after
  obtain ⟨_, handled, ends, changed⟩ :=
    setLinkCopies_changesInTurn data value volume.tableCopies host
  change after.medium = _ at changed
  refine ⟨handled, ends, fun copy inside => ?_, fun copy behind => ?_, fun offset outside => ?_,
    fun all => ?_, ⟨host.medium.link volume cluster, link_reads cluster, fun taken => ?_⟩,
    fun number numbered other => ⟨host.medium.link volume number, link_reads number, ?_⟩⟩
  · rw [Host.tableEntry_eq_linkIn, changed, Medium.linkIn_changed data inside]
  · rw [Host.tableEntry_eq_linkIn, changed, Medium.linkIn_kept data data (.inr behind),
      Host.tableEntry_eq_linkIn]
  · change after.medium.byte offset = host.medium.byte offset
    rw [changed, Medium.byte_linkWrites data outside]
  · have told : after.medium.link volume cluster = value := by
      rw [changed, all, Medium.link_changed data]
    exact told ▸ link_reads cluster
  · have told : after.medium.link volume cluster =
        if handled = 0 then host.medium.link volume cluster else value := by
      split
      · next none =>
        rw [changed, none]
        rfl
      · next some => rw [changed, Medium.link_written data taken (Nat.pos_of_ne_zero some)]
    exact told ▸ link_reads cluster
  · have told : after.medium.link volume number = host.medium.link volume number := by
      rw [changed, Medium.link_other data numbered other]
    exact told ▸ link_reads number

/-- Where the write to the second copy is refused, the first tells the new value and the
second the old one, and reading the link tells the new one. -/
theorem setLink_changesInTurn_torn :
    let host := Host.untouched 20 4096 { failWrites := [2] }
    let after := afterwards (small.setLink 2 Link.endMark) host
    small.DataCluster 2 ∧
      outcome (small.setLink 2 Link.endMark) host = .error (.transfer .device) ∧
      after.disk.tableEntry small.toLayout 0 2 = Link.endMark ∧
      after.disk.tableEntry small.toLayout 1 2 = 0 ∧
      Reads (small.link 2) after.medium (.ok Link.endMark) := by
  intro host after
  have data : small.DataCluster 2 := ⟨le_rfl, by decide⟩
  obtain ⟨handled, _, _, kept, _, _, ⟨old, _, read⟩, _⟩ :=
    setLink_changesInTurn data Link.endMark host
  have failed : outcome (small.setLink 2 Link.endMark) host = .error (.transfer .device) := by
    decide +kernel
  have first : after.disk.tableEntry small.toLayout 0 2 = Link.endMark := by decide +kernel
  have second : after.disk.tableEntry small.toLayout 1 2 = 0 := by decide +kernel
  have some : handled ≠ 0 := by
    intro none
    have same := kept 0 (Nat.le_of_eq none)
    rw [first] at same
    exact absurd same (by decide +kernel)
  have told := read (by decide)
  rw [if_neg some] at told
  exact ⟨data, failed, first, second, told⟩

end Volume

end FatVolume
