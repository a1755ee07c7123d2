import FatVolume.Proofs.Outcome

/-!
# Media and writes

A medium is the content of a disk by itself, as a sector for every address. Writes are
applied to it one after the other; a sector that no write names keeps its content.

The journal of a run lists the writes that were served, oldest first, as they are found
in the trace. What a run leaves on the disk is the medium it started from with its
journal applied, so every state that a power cut can leave behind is that medium with
the first writes of the journal applied.
-/

namespace FatVolume

/-- The content of a disk. -/
abbrev Medium := Nat → Sector

/-- A remainder by 512 is a position in a sector; this is the bound with which the bytes
of a medium are addressed. -/
theorem Sector.position_lt (position : Nat) : position % 512 < 512 :=
  Nat.mod_lt position (by decide)

/-- One sector put in place of another. -/
structure Write where
  lba : Nat
  data : Sector
  deriving DecidableEq

namespace Medium

/-- The medium after one write. -/
def write (medium : Medium) (write : Write) : Medium :=
  fun lba => if lba = write.lba then write.data else medium lba

/-- The medium after some writes, the first one first. -/
def apply (medium : Medium) (writes : List Write) : Medium := writes.foldl Medium.write medium

/-- A write is seen at its own address. -/
theorem write_self (medium : Medium) (lba : Nat) (data : Sector) :
    medium.write ⟨lba, data⟩ lba = data := if_pos rfl

/-- A write is not seen at any other address: media are compared sector by sector. -/
theorem write_other (medium : Medium) {write : Write} {lba : Nat} (other : lba ≠ write.lba) :
    medium.write write lba = medium lba := if_neg other

/-- No writes leave the medium as it is. -/
@[simp] theorem apply_nil (medium : Medium) : medium.apply [] = medium := rfl

/-- Writes are carried out in the order of the list, the first one before the rest. -/
@[simp] theorem apply_cons (medium : Medium) (write : Write) (writes : List Write) :
    medium.apply (write :: writes) = (medium.write write).apply writes := rfl

/-- Writes that are carried out in two parts have the effect of all of them in a row. -/
theorem apply_append (medium : Medium) (writes further : List Write) :
    medium.apply (writes ++ further) = (medium.apply writes).apply further := List.foldl_append

/-- A sector that no write names keeps its content, however many writes there are. -/
theorem apply_untouched (medium : Medium) {writes : List Write} {lba : Nat}
    (untouched : ∀ write ∈ writes, lba ≠ write.lba) : medium.apply writes lba = medium lba := by
  induction writes generalizing medium with
  | nil => rfl
  | cons write rest inductionHypothesis =>
    have first := untouched write List.mem_cons_self
    rw [apply_cons, inductionHypothesis (medium.write write)
      fun other member => untouched other (List.mem_cons_of_mem _ member)]
    exact medium.write_other first

/-- Of writes to different sectors each one lasts: no later one replaces what it stored. -/
theorem apply_written (medium : Medium) {writes : List Write} {write : Write}
    (distinct : (writes.map Write.lba).Nodup) (member : write ∈ writes) :
    medium.apply writes write.lba = write.data := by
  induction writes generalizing medium with
  | nil => cases member
  | cons first rest inductionHypothesis =>
    rw [List.map_cons, List.nodup_cons] at distinct
    rw [apply_cons]
    rcases List.mem_cons.mp member with rfl | later
    · rw [apply_untouched]
      · exact medium.write_self write.lba write.data
      · intro other follows same
        exact distinct.1 (List.mem_map.mpr ⟨other, follows, same.symm⟩)
    · exact inductionHypothesis (medium.write first) distinct.2 later

end Medium

/-- The content of the disk of a host. -/
def Host.medium (host : Host) : Medium := host.disk.sector

/-- The medium of a host that has served a write is its medium after that write, so that a
disk can be followed as a function of addresses. -/
theorem Host.medium_served_write (host : Host) (lba : Nat) (data : Sector) :
    (host.served (.write lba data)).medium = host.medium.write ⟨lba, data⟩ :=
  funext fun other => Disk.sector_serve_write host.disk lba other data

namespace Event

/-- The write that the event served, if it served one. -/
def write? : Event → Option Write
  | transfer (.write lba data) none => some ⟨lba, data⟩
  | _ => none

/-- The event is a refused transfer. -/
def IsRefusal (event : Event) : Prop := ∃ attempt cause, event = .transfer attempt (some cause)

/-- The event is a write, served or refused. -/
def IsWrite (event : Event) : Prop := ∃ lba data answer, event = .transfer (.write lba data) answer

instance : DecidablePred IsRefusal
  | .transfer attempt (some cause) => .isTrue ⟨attempt, cause, rfl⟩
  | .transfer _ none | .notice _ => .isFalse (by rintro ⟨_, _, ⟨⟩⟩)

end Event

/-- The writes that were served among some events, oldest first, where the events stand
newest first. -/
def journal (events : List Event) : List Write := events.reverse.filterMap Event.write?

/-- The journal of two stretches of events is that of the earlier one followed by that of
the later one, as events stand newest first. -/
@[simp] theorem journal_append (later earlier : List Event) :
    journal (later ++ earlier) = journal earlier ++ journal later := by
  rw [journal, List.reverse_append, List.filterMap_append, journal, journal]

end FatVolume
