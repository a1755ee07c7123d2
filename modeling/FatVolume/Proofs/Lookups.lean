import FatVolume.Proofs.Enumeration
import FatVolume.Proofs.Spellings

/-!
# What a look-up finds

A look-up sees of a path the names of the components that are lexically left, so paths that
differ in nothing else are looked up alike. This holds as an equality of operations, and so
through every refusal of the disk and for failures as well as for entries.

In one directory a name leads to the first live entry in front of the end marker that carries
it. A name is carried byte for byte, but for the case of ASCII letters; bytes outside ASCII have
no case. Of a directory whose slots break off in front of an end marker nothing is said here.
-/

namespace FatVolume

namespace Text

/-- Bytes are the same, or one ASCII letter in its two cases. -/
def SameLetter (left right : UInt8) : Prop :=
  left = right ∨ (0x41 ≤ left ∧ left ≤ 0x5A ∧ right = left + 0x20) ∨
    (0x41 ≤ right ∧ right ≤ 0x5A ∧ left = right + 0x20)

/-- Two bytes are the same in upper case if and only if they are the same, or the two
cases of one letter. -/
theorem upperByte_eq_iff (left right : UInt8) :
    upperByte left = upperByte right ↔ SameLetter left right := by
  have first := toNat_upperByte left
  have second := toNat_upperByte right
  simp only [SameLetter, ← UInt8.toNat_inj, UInt8.le_iff_toNat_le, UInt8.toNat_add]
  rw [first, second]
  have low := left.toNat_lt
  have high := right.toNat_lt
  change _ ↔ _ ∨ (65 ≤ _ ∧ _ ≤ 90 ∧ _ = (_ + 32) % 256) ∨ (65 ≤ _ ∧ _ ≤ 90 ∧ _ = (_ + 32) % 256)
  split <;> split <;> omega

end Text

namespace ShortName

/-- Stored names are the same byte for byte, but for the case of ASCII letters. -/
def Agrees (left right : RawName) : Prop :=
  ∀ position : Fin 11, Text.SameLetter left[position] right[position]

/-- Two names are the same when folded if and only if they agree in each of their eleven
places but for the case of letters. -/
theorem sameFolded_iff_agrees (left right : RawName) :
    sameFolded left right = true ↔ Agrees left right := by
  rw [sameFolded, beq_iff_eq, Vector.ext_iff]
  constructor
  · intro same position
    have folded := same position.val position.isLt
    rw [Vector.getElem_map, Vector.getElem_map] at folded
    exact (Text.upperByte_eq_iff _ _).mp folded
  · intro agrees position inside
    rw [Vector.getElem_map, Vector.getElem_map]
    exact (Text.upperByte_eq_iff _ _).mpr (agrees ⟨position, inside⟩)

end ShortName

/-! ## Entries in front of the first end marker -/

/-- The entries of the live ones among some slots, in their order, up to the first end marker. -/
def listed (slots : List (SlotPosition × Slot)) : List Entry :=
  (slots.takeWhile fun item => item.2 ≠ .endMarker).filterMap fun item => item.2.asEntry

/-- A live slot holds the entry, and no end marker stands in front of it. -/
def Lists (slots : List (SlotPosition × Slot)) (entry : Entry) : Prop :=
  ∃ earlier position later, slots = earlier ++ (position, .live entry) :: later ∧
    ∀ item ∈ earlier, item.2 ≠ .endMarker

/-- The first of the listed entries that carries a name. -/
def FirstCarries (name : RawName) (slots : List (SlotPosition × Slot)) (entry : Entry) : Prop :=
  ∃ earlier position later, slots = earlier ++ (position, .live entry) :: later ∧
    (∀ item ∈ earlier, item.2 ≠ .endMarker) ∧ ShortName.Agrees entry.name name ∧
      ∀ other, Lists earlier other → ¬ ShortName.Agrees other.name name

/-- Behind slots that hold no end marker, the listed entries of more slots follow those of
the former. -/
theorem listed_append {earlier : List (SlotPosition × Slot)}
    (before : ∀ item ∈ earlier, item.2 ≠ .endMarker) (later : List (SlotPosition × Slot)) :
    listed (earlier ++ later) = listed earlier ++ listed later := by
  have passed : ∀ item ∈ earlier, decide (item.2 ≠ .endMarker) = true := fun item member =>
    decide_eq_true (before item member)
  have whole : (earlier.takeWhile fun item => item.2 ≠ .endMarker) = earlier :=
    List.takeWhile_eq_self_iff.mpr passed
  rw [listed, List.takeWhile_append_of_pos passed, List.filterMap_append, listed, listed, whole]

/-- A live entry at the front of some slots is listed first, and the entries of the slots
behind it follow. -/
theorem listed_live (position : SlotPosition) (entry : Entry) (later : List (SlotPosition × Slot)) :
    listed ((position, .live entry) :: later) = entry :: listed later := rfl

/-- Each of the listed entries stands in a live slot that no end marker precedes, and the
entries listed before it are those of the slots in front. -/
theorem listed_divided {slots : List (SlotPosition × Slot)} {front back : List Entry}
    {entry : Entry} (divided : listed slots = front ++ entry :: back) :
    ∃ earlier position later, slots = earlier ++ (position, .live entry) :: later ∧
      (∀ item ∈ earlier, item.2 ≠ .endMarker) ∧ listed earlier = front := by
  -- Slots without an entry in front of the one that was found are passed along with the earlier
  -- ones.
  induction slots generalizing front with
  | nil => cases front <;> cases divided
  | cons item rest inductionHypothesis =>
    obtain ⟨position, slot⟩ := item
    have onward (passed : slot ≠ .endMarker) {nearer : List Entry}
        (joined : listed [(position, slot)] ++ nearer = front)
        (behind : listed rest = nearer ++ entry :: back) :
        ∃ earlier place later, (position, slot) :: rest = earlier ++ (place, .live entry) :: later ∧
          (∀ item ∈ earlier, item.2 ≠ .endMarker) ∧ listed earlier = front := by
      obtain ⟨earlier, place, later, rfl, before, same⟩ := inductionHypothesis behind
      have first : ∀ item ∈ [(position, slot)], item.2 ≠ .endMarker := by simpa using passed
      refine ⟨(position, slot) :: earlier, place, later, rfl,
        List.forall_mem_cons.mpr ⟨passed, before⟩, ?_⟩
      rw [← List.singleton_append, listed_append first, same, joined]
    cases slot with
    | endMarker => cases front <;> cases divided
    | live other =>
      rw [listed_live] at divided
      cases front with
      | nil =>
        obtain ⟨rfl, _⟩ := List.cons.inj divided
        exact ⟨[], position, rest, rfl, by simp, rfl⟩
      | cons first nearer =>
        obtain ⟨rfl, behind⟩ := List.cons.inj divided
        exact onward (by simp) rfl behind
    | erased | longName | volumeLabel => exact onward (by simp) rfl divided

/-- An entry is among the listed ones if and only if some live slot holds it that no end
marker precedes. -/
theorem mem_listed {slots : List (SlotPosition × Slot)} {entry : Entry} :
    entry ∈ listed slots ↔ Lists slots entry := by
  constructor
  · intro member
    obtain ⟨front, back, divided⟩ := List.mem_iff_append.mp member
    obtain ⟨earlier, position, later, same, before, _⟩ := listed_divided divided
    exact ⟨earlier, position, later, same, before⟩
  · rintro ⟨earlier, position, later, rfl, before⟩
    rw [listed_append before, listed_live]
    exact List.mem_append_right _ List.mem_cons_self

/-- The first of the listed entries that carries a name is the one which no other such
entry precedes among the slots. -/
theorem find?_listed {slots : List (SlotPosition × Slot)} {name : RawName} {entry : Entry} :
    (listed slots).find? (fun entry => ShortName.sameFolded entry.name name) = some entry ↔
      FirstCarries name slots entry := by
  have carries (entry : Entry) : ShortName.sameFolded entry.name name = true ↔
      ShortName.Agrees entry.name name := ShortName.sameFolded_iff_agrees _ _
  rw [List.find?_eq_some_iff_append, carries]
  constructor
  · rintro ⟨agrees, front, back, divided, unlike⟩
    obtain ⟨earlier, position, later, same, before, rfl⟩ := listed_divided divided
    refine ⟨earlier, position, later, same, before, agrees, fun other lists alike => ?_⟩
    have different := unlike other (mem_listed.mpr lists)
    rw [(carries other).mpr alike] at different
    cases different
  · rintro ⟨earlier, position, later, rfl, before, agrees, unlike⟩
    refine ⟨agrees, listed earlier, listed later, ?_, fun other member => ?_⟩
    · rw [listed_append before, listed_live]
    · rw [Bool.not_eq_true', Bool.eq_false_iff]
      exact mt (carries other).mp (unlike other (mem_listed.mp member))

namespace Medium

variable {medium : Medium} {volume : Volume}

/-- The entries of a directory on a medium are those that are listed among its slots, up
to the first end marker. -/
theorem entries_eq_listed (directory : Directory) :
    (medium.entries volume directory).items.map Prod.snd =
      listed (medium.slots volume directory).items :=
  congrArg Course.items (Cursor.entriesOf_eq (medium.slots volume directory))

/-- What is found in a directory is the first listed entry that carries the name; where
there is none, the search fails as the directory ends, or finds nothing. -/
theorem find_eq_listed (directory : Directory) (name : RawName) :
    medium.find volume directory name =
      ((listed (medium.slots volume directory).items).find? fun entry =>
        ShortName.sameFolded entry.name name).elim
          (.error ((medium.entries volume directory).ending.getD .notFound)) .ok := by
  rw [← entries_eq_listed, List.find?_map, find, Course.firstWanted]
  dsimp only [Function.comp_def]
  cases (medium.entries volume directory).items.find? fun item =>
      ShortName.sameFolded item.2.name name with
  | some item => rfl
  | none => cases (medium.entries volume directory).ending <;> rfl

/-- An entry is found in a directory if and only if it is the first that carries the name,
also where the directory breaks off behind it. -/
theorem find_iff_firstCarries (directory : Directory) (name : RawName) (entry : Entry) :
    medium.find volume directory name = .ok entry ↔
      FirstCarries name (medium.slots volume directory).items entry := by
  rw [find_eq_listed, ← find?_listed]
  cases (listed (medium.slots volume directory).items).find? fun entry =>
      ShortName.sameFolded entry.name name with
  | some found => simp
  | none => simp

/-- In a directory that does not break off, a name is not found if and only if no listed
entry carries it. -/
theorem find_iff_unlisted {directory : Directory}
    (whole : (medium.entries volume directory).ending = none) (name : RawName) :
    medium.find volume directory name = .error .notFound ↔
      ∀ entry, Lists (medium.slots volume directory).items entry →
        ¬ ShortName.Agrees entry.name name := by
  rw [find_eq_listed, whole]
  simp only [← mem_listed, ← ShortName.sameFolded_iff_agrees]
  rw [← List.find?_eq_none]
  cases (listed (medium.slots volume directory).items).find? fun entry =>
      ShortName.sameFolded entry.name name with
  | some found => simp
  | none => simp

end Medium

/-! ## Look-ups -/

namespace Volume

variable (volume : Volume)

/-- What a short name leads to, or the failure in place of one, seen from what stands before. -/
def stride (current : Resolved) (name : Except Failure RawName) : HostM Resolved := do
  let directory ← current.directory
  let name ← name
  return .ofEntry (← volume.findEntry directory name)

/-- A path is looked up from the root along its names, each of them in the directory that
those before it have led to. -/
theorem resolve_eq_strides (path : List Char) :
    volume.resolve path = (Path.names path).foldlM volume.stride .root := by
  rw [resolve, Path.names, List.foldlM_map]
  rfl

end Volume

namespace Path

/-- Paths that are lexically left with the same components, however these are spelled. -/
def Alike (path other : List Char) : Prop :=
  List.Forall₂ ShortName.Alike (lexical path) (lexical other)

/-- Paths whose components are alike one by one have the same names in their normal forms. -/
theorem Alike.names {path other normal further : List Char} (alike : Alike path other)
    (normalized : normalize path = .ok normal) (normalized' : normalize other = .ok further) :
    names normal = names further := by
  rw [names_lexical normalized, names_lexical normalized', ← List.forall₂_eq_eq_eq,
    List.forall₂_map_left_iff, List.forall₂_map_right_iff]
  exact alike.imp fun _ _ => ShortName.encode_congr

end Path

/-- A sector that begins with some records. -/
def Sector.ofRecords (records : List Record) : Sector :=
  ⟨((records.flatMap Vector.toList ++ List.replicate 512 0).take 512).toArray,
    List.length_take_of_le (by rw [List.length_append, List.length_replicate]; omega)⟩

namespace Mounted

/-- A path is looked up along the components that are lexically left of it, each of which is
encoded and searched for in the directory that those before it have led to. -/
theorem lookup_eq_searches (mounted : Mounted) {path normal : List Char}
    (normalized : Path.normalize path = .ok normal) :
    mounted.lookup path = (Path.lexical path).foldlM (fun above component => do
      let directory ← above.directory
      let name ← ShortName.encode component
      return .ofEntry (← mounted.volume.findEntry directory name)) .root := by
  rw [lookup, normalized]
  change mounted.volume.resolve normal = _
  rw [Volume.resolve_eq_strides, Path.names_lexical normalized, List.foldlM_map]
  rfl

/-- A look-up depends only on the components that are lexically left of a path, and on these
only up to the case of ASCII letters and up to a dot that ends one without other dots: paths
that agree in this are looked up alike, on every disk and through all its refusals. A look-up is
a search for each of these components in turn. In a directory that does not break off, an
undisturbed search for a name finds the first live entry in front of the end marker that carries
it, and tells that there is none exactly then. -/
theorem lookup_foldsSpelling (mounted : Mounted) :
    (∀ path other normal further, Path.normalize path = .ok normal →
      Path.normalize other = .ok further → Path.Alike path other →
        mounted.lookup path = mounted.lookup other) ∧
    (∀ path normal, Path.normalize path = .ok normal →
      mounted.lookup path = (Path.lexical path).foldlM (fun above component => do
        let directory ← above.directory
        let name ← ShortName.encode component
        return .ofEntry (← mounted.volume.findEntry directory name)) .root) ∧
    ∀ (host : Host) (directory : Directory) (name : RawName), host.disk.sectorSize = 512 →
      host.Undisturbed (afterwards (mounted.volume.findEntry directory name) host) →
      (host.medium.entries mounted.volume directory).ending = none →
        let slots := (host.medium.slots mounted.volume directory).items
        let found := outcome (mounted.volume.findEntry directory name) host
        (∀ entry, found = .ok entry ↔ FirstCarries name slots entry) ∧
          (found = .error .notFound ↔
            ∀ entry, Lists slots entry → ¬ ShortName.Agrees entry.name name) := by
  refine ⟨?spelled, fun path normal normalized => mounted.lookup_eq_searches normalized, ?searched⟩
  case spelled =>
    intro path other normal further normalized normalized' alike
    rw [lookup, normalized, lookup, normalized']
    change mounted.volume.resolve normal = mounted.volume.resolve further
    rw [Volume.resolve_eq_strides, Volume.resolve_eq_strides,
      alike.names normalized normalized']
  case searched =>
    intro host directory name sized undisturbed whole slots found
    have searched : found = host.medium.find mounted.volume directory name :=
      ((Volume.findEntry_reads directory name host rfl).carriedOut sized undisturbed).1
    rw [searched]
    exact ⟨Medium.find_iff_firstCarries directory name, Medium.find_iff_unlisted whole name⟩

/-- An entry with a name of one byte. -/
def lone (first attributes : UInt8) (size : UInt32) (cluster : UInt16 := 0) : Entry where
  name := (Vector.replicate 11 ShortName.padding).setIfInBounds 0 first
  attributes := attributes
  cluster := cluster
  size := size

/-- A host with a disk of twenty sectors on which the root region begins with some entries. -/
def rootHost (entries : List Entry) : Host where
  disk :=
    { capacity := 20
      contents := (∅ : Std.TreeMap Nat Sector).insert 3
        (Sector.ofRecords (entries.map Entry.encode)) }
  largestBlock := 4096

/-- A host on whose disk the root region holds a label, an entry that refers to the directory
itself, two files that share a name but for its case, and one whose name is a byte outside
ASCII. -/
def namesakesHost : Host :=
  rootHost [lone 0x42 Attributes.volumeLabel 0, lone 0x2E Attributes.directory 0, lone 0x62 0 1,
    lone 0x42 0 2, lone 0xC4 0 3]

/-- The disk with namesakes serves the small volume: all of its sectors lie within the
capacity, and no transfer is refused. -/
theorem namesakesHost_serves : namesakesHost.Serves .small :=
  .of_capacity rfl (by decide) fun _ _ => rfl

/-- Neither the label nor the second file is found, and bytes outside ASCII are not folded. What
the search finds is what the look-up of a path ends in. -/
theorem lookup_foldsSpelling_small :
    let mounted : Mounted := ⟨0, .small, ⟨0, 20, 4⟩⟩
    let slots := (namesakesHost.medium.slots mounted.volume .root).items
    (namesakesHost.medium.entries mounted.volume .root).ending = none ∧
      (∀ name, namesakesHost.Undisturbed
        (afterwards (mounted.volume.findEntry .root name) namesakesHost)) ∧
      mounted.lookup ['/', 'x', '.', '/', '.', '.', '/', 'B'] = mounted.lookup ['\\', 'b', '.'] ∧
      outcome (mounted.lookup ['\\', 'b', '.']) namesakesHost = .ok (.ofEntry (lone 0x62 0 1)) ∧
      FirstCarries (lone 0x42 0 0).name slots (lone 0x62 0 1) ∧
      ∀ entry, Lists slots entry → ¬ ShortName.Agrees entry.name (lone 0xE4 0 0).name := by
  intro mounted slots
  have whole : (namesakesHost.medium.entries mounted.volume .root).ending = none :=
    Medium.liveEntries_ending _
  have calm (name : RawName) : namesakesHost.Undisturbed
      (afterwards (mounted.volume.findEntry .root name) namesakesHost) := by
    have confined : Confined mounted.volume.toLayout AnyTransfer
        (mounted.volume.findEntry .root name) fun _ => True :=
      Volume.findEntry_confined (fun _ _ => trivial) .root name fun _ => trivial
    exact (confined namesakesHost).1.served namesakesHost_serves
  have normalized : Path.normalize ['/', 'x', '.', '/', '.', '.', '/', 'B'] = .ok ['B'] := by
    decide +kernel
  have normalized' : Path.normalize ['\\', 'b', '.'] = .ok ['B', '.'] := by decide +kernel
  have found : outcome (mounted.volume.findEntry .root (lone 0x42 0 0).name) namesakesHost =
      .ok (lone 0x62 0 1) := by decide +kernel
  have missing : outcome (mounted.volume.findEntry .root (lone 0xE4 0 0).name) namesakesHost =
      .error .notFound := by decide +kernel
  obtain ⟨spelled, linked, searched⟩ := lookup_foldsSpelling mounted
  have shown : outcome (mounted.lookup ['\\', 'b', '.']) namesakesHost =
      .ok (.ofEntry (lone 0x62 0 1)) := by
    have lexical : Path.lexical ['\\', 'b', '.'] = [['b', '.']] := by decide
    rw [linked _ _ normalized', lexical, List.foldlM_cons]
    change outcome ((mounted.volume.findEntry .root (lone 0x42 0 0).name >>= _) >>= _) _ = _
    rw [bind_assoc, outcome_bind_ok found]
    rfl
  exact ⟨whole, calm, spelled _ _ _ _ normalized normalized' (.cons (by decide) .nil), shown,
    ((searched namesakesHost .root _ rfl (calm _) whole).1 _).mp found,
    (searched namesakesHost .root _ rfl (calm _) whole).2.mp missing⟩

end Mounted

end FatVolume
