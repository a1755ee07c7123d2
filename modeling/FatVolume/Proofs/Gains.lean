import FatVolume.Proofs.Completion

/-!
# Directories that gain entries

While directories are created anywhere in a tree, each directory keeps the slots that it has,
in their places, and a slot that is not free keeps what it holds. Its entries stay as they
are, in their order, with others among them. An entry that comes to a directory differs from
all that were there.

What is created may lie in the directory or elsewhere, and a creation may fail on its way.
That the disk cuts it short is not considered.
-/

namespace FatVolume

/-! ## Slots that gain entries -/

/-- The entries that stand among some slots, wherever a marker stands. -/
def entriesIn (slots : List (SlotPosition × Slot)) : List Entry :=
  slots.filterMap fun item => item.2.asEntry

/-- Each slot stands where it stood, and holds what it held unless it was free. -/
def Gains (before after : List (SlotPosition × Slot)) : Prop :=
  ∀ (number : Nat) (position : SlotPosition) (slot : Slot),
    before[number]? = some (position, slot) →
      ∃ now, after[number]? = some (position, now) ∧ (slot.isFree = false → now = slot)

/-- All entries of a list are among the entries of that list, so that keeping only those
changes nothing. -/
theorem filter_mem_self (entries : List Entry) : entries.filter (· ∈ entries) = entries :=
  List.filter_eq_self.mpr fun _ member => decide_eq_true member

/-- The entries in some slots that are put together are those of the front and then those
of the rear. -/
theorem entriesIn_append (first second : List (SlotPosition × Slot)) :
    entriesIn (first ++ second) = entriesIn first ++ entriesIn second :=
  List.filterMap_append

/-- The entries in the first slots of a list and those in the other ones are together all
entries of that list. -/
theorem entriesIn_take_drop (slots : List (SlotPosition × Slot)) (number : Nat) :
    entriesIn (slots.take number) ++ entriesIn (slots.drop number) = entriesIn slots := by
  rw [← entriesIn_append, List.take_append_drop]

/-- The entries in the slots up to and with one of them are those in the slots in front of
it, and its own if it holds one. -/
theorem entriesIn_take_succ {slots : List (SlotPosition × Slot)} {number : Nat}
    {item : SlotPosition × Slot} (stands : slots[number]? = some item) :
    entriesIn (slots.take (number + 1)) =
      entriesIn (slots.take number) ++ item.2.asEntry.toList := by
  obtain ⟨position, slot⟩ := item
  rw [List.take_add_one, stands, entriesIn_append]
  cases slot <;> rfl

/-- Where nothing but end markers stands behind the first of them, the live entries up to
it are the entries in all slots. -/
theorem Medium.Ended.entries {slots : List (SlotPosition × Slot)} (ended : Medium.Ended slots)
    (ending : Option Failure) :
    (liveEntries ending slots).items.map Prod.snd = entriesIn slots := by
  fun_induction liveEntries ending slots with
  | case1 => rfl
  | case2 position rest =>
    refine (List.filterMap_eq_nil_iff.mpr fun item member => ?_).symm
    rcases List.mem_cons.mp member with rfl | behind
    · rfl
    · rw [List.rel_of_pairwise_cons ended behind rfl]
      rfl
  | case3 position entry rest inductionHypothesis =>
    exact congrArg (entry :: ·) (inductionHypothesis (List.Pairwise.of_cons ended))
  | case4 position rest inductionHypothesis | case5 position rest inductionHypothesis
  | case6 position rest inductionHypothesis =>
    exact inductionHypothesis (List.Pairwise.of_cons ended)

/-- Where nothing but end markers stands behind the first of them, no entry stands in the
slots from any end marker on. -/
theorem Medium.Ended.entries_behind {slots : List (SlotPosition × Slot)}
    (ended : Medium.Ended slots) {number : Nat} {position : SlotPosition}
    (stood : slots[number]? = some (position, .endMarker)) :
    entriesIn (slots.drop number) = [] := by
  obtain ⟨bounded, same⟩ := List.getElem?_eq_some_iff.mp stood
  have split := List.drop_eq_getElem_cons bounded
  have rest : Medium.Ended (slots.drop number) := List.Pairwise.drop ended
  rw [same] at split
  rw [← rest.entries none, split]
  rfl

namespace Gains

variable {before between after : List (SlotPosition × Slot)}

/-- Slots that have not changed stand where they stood, and hold what they held. -/
theorem refl (slots : List (SlotPosition × Slot)) : Gains slots slots :=
  fun _ _ slot stands => ⟨slot, stands, fun _ => rfl⟩

/-- Slots that come from earlier ones in two changes, each of which writes free slots
only, come from them by writing free slots only. -/
theorem trans (first : Gains before between) (second : Gains between after) :
    Gains before after := by
  intro number position slot stands
  obtain ⟨now, stood, kept⟩ := first number position slot stands
  obtain ⟨later, stays, same⟩ := second number position now stood
  refine ⟨later, stays, fun taken => ?_⟩
  obtain rfl := kept taken
  exact same taken

/-- The first slots of a directory stand where they stood and hold what they held unless
they were free, if this holds for all its slots. -/
theorem take (gains : Gains before after) (number : Nat) :
    Gains (before.take number) (after.take number) := by
  intro place position slot stands
  rw [List.getElem?_take] at stands ⊢
  split at stands
  · next inside =>
    rw [if_pos inside]
    exact gains place position slot stands
  · cases stands

/-- The slots of a directory behind the first ones stand where they stood and hold what
they held unless they were free, if this holds for all its slots. -/
theorem drop (gains : Gains before after) (number : Nat) :
    Gains (before.drop number) (after.drop number) := by
  intro place position slot stands
  rw [List.getElem?_drop] at stands ⊢
  exact gains _ position slot stands

/-- Where one slot is free, it may come to hold anything while all others stand as they
did. -/
theorem of_replaced {front rear : List (SlotPosition × Slot)} {position : SlotPosition}
    {old new : Slot} (free : old.isFree = true) :
    Gains (front ++ (position, old) :: rear) (front ++ (position, new) :: rear) := by
  intro number place slot stands
  rw [List.getElem?_append] at stands ⊢
  by_cases before : number < front.length
  · rw [if_pos before] at stands ⊢
    exact ⟨slot, stands, fun _ => rfl⟩
  · rw [if_neg before] at stands ⊢
    cases behind : number - front.length with
    | zero =>
      rw [behind] at stands
      cases stands
      refine ⟨new, rfl, fun taken => ?_⟩
      rw [free] at taken
      cases taken
    | succ more =>
      rw [behind] at stands
      exact ⟨slot, stands, fun _ => rfl⟩

/-- Where end markers are put behind the slots of a directory, each of its slots stands
where it stood and holds what it held. -/
theorem of_lengthened (lengthened : Medium.Lengthened before after) : Gains before after := by
  cases lengthened with
  | same => exact refl before
  | more full blank =>
    intro number position slot stands
    have inside := (List.getElem?_eq_some_iff.mp stands).1
    exact ⟨slot, (List.getElem?_append_left inside).trans stands, fun _ => rfl⟩

/-- The entries in the slots are among those in the later slots, in the same order, since
no slot that held one has been written. -/
theorem sublist (gains : Gains before after) :
    (entriesIn before).Sublist (entriesIn after) := by
  -- Slot by slot: one that held an entry still does, and one that was free may hold another by
  -- now.
  induction before generalizing after with
  | nil => exact List.nil_sublist _
  | cons item rest inductionHypothesis =>
    obtain ⟨position, slot⟩ := item
    obtain ⟨now, first, kept⟩ := gains 0 position slot rfl
    obtain ⟨others, rfl⟩ : ∃ others, after = (position, now) :: others := by
      cases after with
      | nil => cases first
      | cons head others =>
        cases first
        exact ⟨others, rfl⟩
    have behind := inductionHypothesis (gains.drop 1)
    cases slot with
    | live entry =>
      obtain rfl := kept rfl
      exact behind.cons_cons entry
    | endMarker | erased | longName | volumeLabel =>
      exact behind.trans ((List.sublist_cons_self _ others).filterMap _)

/-- Where the later entries are the former ones but for others, so are those among the first
slots. -/
theorem entries_take (gains : Gains before after)
    (kept : (entriesIn after).filter (· ∈ entriesIn before) =
      entriesIn before) (number : Nat) :
    (entriesIn (after.take number)).filter (· ∈ entriesIn before) =
      entriesIn (before.take number) := by
  have among {part later : List (SlotPosition × Slot)} (gained : Gains part later)
      (inside : part.Sublist before) :
      (entriesIn part).Sublist
        ((entriesIn later).filter (· ∈ entriesIn before)) := by
    have filtered := gained.sublist.filter (· ∈ entriesIn before)
    have whole : (entriesIn part).filter (· ∈ entriesIn before) = entriesIn part :=
      List.filter_eq_self.mpr fun entry member =>
        decide_eq_true ((inside.filterMap fun item => item.2.asEntry).subset member)
    rwa [whole] at filtered
  have first := among (gains.take number) (List.take_sublist number before)
  have second := among (gains.drop number) (List.drop_sublist number before)
  -- Together the two parts have as many entries before as after, and neither has fewer after.
  have whole := congrArg List.length kept
  rw [← entriesIn_take_drop after number, List.filter_append, List.length_append] at whole
  have total := congrArg List.length (entriesIn_take_drop before number)
  rw [List.length_append] at total
  have fewer := first.length_le
  have less := second.length_le
  exact (first.eq_of_length (by omega)).symm

end Gains

namespace Medium

/-- The entries of a directory, without their positions. -/
def inventory (medium : Medium) (volume : Volume) (directory : Directory) : List Entry :=
  (medium.entries volume directory).items.map Prod.snd

/-! ## Later media -/

/-- A medium that comes after another one while directories are created: a directory has kept
its slots and its entries, and its chain may have grown. -/
structure Onward (medium later : Medium) (volume : Volume) (directory : Directory) : Prop where
  consistent : later.Consistent volume
  reachable : later.Reachable volume directory
  chain : ∀ first clusters, directory = .chain first → medium.ChainFrom volume first clusters →
    ∃ growth, later.ChainFrom volume first (clusters ++ growth)
  slots : Gains (medium.slots volume directory).items (later.slots volume directory).items
  kept : (later.inventory volume directory).filter (· ∈ medium.inventory volume directory) =
    medium.inventory volume directory

variable {medium between later : Medium} {volume : Volume} {directory : Directory}

/-- On a consistent medium the inventory of a directory that is reached consists of the
entries in all its slots. -/
theorem Consistent.inventory_eq (consistent : medium.Consistent volume)
    (reachable : medium.Reachable volume directory) :
    medium.inventory volume directory = entriesIn (medium.slots volume directory).items :=
  (consistent.ended directory reachable).entries _

namespace Onward

/-- A directory of a consistent medium has kept its slots and its entries on that medium
itself. -/
theorem refl (consistent : medium.Consistent volume)
    (reachable : medium.Reachable volume directory) : medium.Onward medium volume directory where
  consistent := consistent
  reachable := reachable
  chain _ clusters _ chain := ⟨[], by rwa [List.append_nil]⟩
  slots := .refl _
  kept := filter_mem_self _

/-- A directory that has kept its slots and its entries over one stretch and again over a
second has kept them over both. -/
theorem trans (first : medium.Onward between volume directory)
    (second : between.Onward later volume directory) : medium.Onward later volume directory where
  consistent := second.consistent
  reachable := second.reachable
  chain start clusters same chain := by
    obtain ⟨growth, grown⟩ := first.chain start clusters same chain
    obtain ⟨further, longer⟩ := second.chain start _ same grown
    exact ⟨growth ++ further, by rwa [← List.append_assoc]⟩
  slots := first.slots.trans second.slots
  kept := by
    have among : ∀ entry ∈ medium.inventory volume directory,
        entry ∈ between.inventory volume directory := by
      intro entry member
      rw [← first.kept] at member
      exact List.mem_of_mem_filter member
    have narrowed : (later.inventory volume directory).filter
        (· ∈ medium.inventory volume directory) =
        ((later.inventory volume directory).filter (· ∈ between.inventory volume directory)).filter
          (· ∈ medium.inventory volume directory) := by
      rw [List.filter_filter]
      refine List.filter_congr fun entry _ => ?_
      rw [← Bool.decide_and, decide_eq_decide]
      exact ⟨fun member => ⟨member, among entry member⟩, And.left⟩
    rw [narrowed, second.kept, first.kept]

/-- Among the first slots of a directory, too, the later entries that were there before
are exactly the former ones. -/
theorem entries_take (onward : medium.Onward later volume directory)
    (consistent : medium.Consistent volume) (reachable : medium.Reachable volume directory)
    (number : Nat) :
    (entriesIn ((later.slots volume directory).items.take number)).filter
        (· ∈ medium.inventory volume directory) =
      entriesIn ((medium.slots volume directory).items.take number) := by
  have kept := onward.kept
  rw [onward.consistent.inventory_eq onward.reachable] at kept
  rw [consistent.inventory_eq reachable] at kept ⊢
  exact onward.slots.entries_take kept number

end Onward

/-- A directory keeps its slots and its entries when the tree is carried over, and its
inventory is the one that it had. -/
theorem Carries.onward {growth : SlotPosition → List Nat}
    (carries : medium.Carries later volume growth) (consistent : medium.Consistent volume)
    (reachable : medium.Reachable volume directory) :
    medium.Onward later volume directory ∧
      later.inventory volume directory = medium.inventory volume directory := by
  have same : later.inventory volume directory = medium.inventory volume directory :=
    congrArg (fun course => course.items.map Prod.snd) (carries.entries consistent reachable)
  refine ⟨⟨carries.consistent_after consistent, (carries.reachable_iff consistent).mpr reachable,
    ?_, .of_lengthened (carries.slots directory reachable).2, ?_⟩, same⟩
  · rintro first clusters rfl chain
    obtain ⟨item, others, owner, _, rfl, stored, distinct⟩ :=
      consistent.chain_of_reachable reachable
    obtain rfl := chain.unique stored
    exact ⟨_, carries.chain item clusters owner stored distinct⟩
  · rw [same]
    exact filter_mem_self _

/-- One entry has come to some others and differs from them. -/
def Joins (before after : List Entry) (entry : Entry) : Prop :=
  ∃ front rear, before = front ++ rear ∧ after = front ++ entry :: rear ∧ entry ∉ before

namespace Joins

variable {before after : List Entry} {entry other : Entry} (joins : Joins before after entry)
include joins

/-- Of the entries behind a change by which one has joined, those that were there before
are exactly the former ones, in their order. -/
theorem kept : after.filter (· ∈ before) = before := by
  obtain ⟨front, rear, rfl, rfl, fresh⟩ := joins
  rw [List.filter_append, List.filter_cons_of_neg (by simpa using fresh), ← List.filter_append]
  exact filter_mem_self _

/-- Of the entries behind a change by which one has joined, the only one that was not
there before is the one that joined. -/
theorem eq_of_mem (member : other ∈ after) (fresh : other ∉ before) : other = entry := by
  obtain ⟨front, rear, rfl, rfl, _⟩ := joins
  rw [List.mem_append, List.mem_cons] at member
  rw [List.mem_append, not_or] at fresh
  exact (member.resolve_left fresh.1).resolve_right fresh.2

/-- Of a kind of entries each of which occurred once, each still does when one has joined
that was not among them. -/
theorem once {kind : Entry → Bool} (single : (before.filter kind).Nodup) :
    (after.filter kind).Nodup := by
  obtain ⟨front, rear, rfl, rfl, fresh⟩ := joins
  rw [List.filter_append] at single ⊢
  by_cases among : kind entry = true
  · rw [List.filter_cons_of_pos among, List.nodup_middle, List.nodup_cons, ← List.filter_append]
    rw [← List.filter_append] at single
    exact ⟨fun member => fresh (List.mem_of_mem_filter member), single⟩
  · rw [List.filter_cons_of_neg among]
    exact single

end Joins

namespace Insertion

variable {parent : Directory} {position : SlotPosition} {name : RawName} {cluster : Nat}
  (insertion : medium.Insertion volume parent position name cluster)
include insertion

/-- When an entry is put into the tree, every slot of a directory that is reached holds
what it held unless it was free. -/
theorem slots_gain (reachable : medium.Reachable volume directory) :
    Gains (medium.slots volume directory).items
      ((medium.inserted position name cluster).slots volume directory).items := by
  by_cases same : directory = parent
  · subst same
    obtain ⟨front, vacated, rear, divided, free, _, changed⟩ := insertion.slots_parent
    rw [divided, changed]
    exact .of_replaced free
  · rw [insertion.slots_other reachable same]
    exact .refl _

/-- When an entry is put into the tree, its directory gains exactly that entry, and the
others keep the inventory that they had. -/
theorem onward (absent : ∀ item ∈ (medium.entries volume parent).items,
      ShortName.sameFolded item.2.name name = false)
    (reachable : medium.Reachable volume directory) :
    medium.Onward (medium.inserted position name cluster) volume directory ∧
      ((medium.inserted position name cluster).inventory volume directory =
          medium.inventory volume directory ∨
        Joins (medium.inventory volume directory)
          ((medium.inserted position name cluster).inventory volume directory)
            (Entry.directory name cluster)) := by
  have lists : (medium.inserted position name cluster).inventory volume directory =
        medium.inventory volume directory ∨
      Joins (medium.inventory volume directory)
        ((medium.inserted position name cluster).inventory volume directory)
          (Entry.directory name cluster) := by
    by_cases same : directory = parent
    · subst same
      obtain ⟨front, rear, before, after⟩ := insertion.entries_parent
      refine .inr ⟨front.map Prod.snd, rear.map Prod.snd, ?_, ?_, fun member => ?_⟩
      · rw [inventory, before, List.map_append]
      · rw [inventory, after, List.map_append, List.map_cons]
      · obtain ⟨item, present, same⟩ := List.mem_map.mp member
        have other := absent item present
        rw [same, Entry.directory, Bool.eq_false_iff, Ne, insertion.canonical.sameFolded_iff]
          at other
        exact other insertion.canonical.upper
    · left
      rw [inventory, insertion.entries_other reachable same, inventory]
  refine ⟨⟨insertion.consistent_after, insertion.reachable_iff.mpr (.inl reachable), ?_,
    insertion.slots_gain reachable, ?_⟩, lists⟩
  · rintro first clusters rfl chain
    obtain ⟨item, others, owner, _, rfl, stored, distinct⟩ :=
      insertion.consistent.chain_of_reachable reachable
    obtain rfl := chain.unique stored
    exact ⟨[], by rw [List.append_nil]; exact insertion.stores owner stored⟩
  · rcases lists with same | joins
    · rw [same]
      exact filter_mem_self _
    · exact joins.kept

end Insertion

/-! ## Creations -/

variable {path : List Char}

/-- On a medium on the way to a new directory, every directory that was reached has kept
its slots and its entries, and its inventory is the one that it had. -/
theorem Partway.onward (partway : medium.Partway later volume)
    (consistent : medium.Consistent volume) (reachable : medium.Reachable volume directory) :
    medium.Onward later volume directory ∧
      later.inventory volume directory = medium.inventory volume directory := by
  obtain ⟨base, spare, ⟨⟨_, carries⟩, _⟩, spares, unused⟩ := partway
  obtain ⟨first, same⟩ := carries.onward consistent reachable
  obtain ⟨second, still⟩ :=
    (spares.carries first.consistent unused).onward first.consistent first.reachable
  exact ⟨first.trans second, still.trans same⟩

/-- When a directory has been completed, the inventory of each directory is the one that
it had, or has been joined by the entry of the new one. -/
theorem Completed.onward {cluster : Nat} (completed : medium.Completed later volume path cluster)
    (consistent : medium.Consistent volume) (reachable : medium.Reachable volume directory) :
    medium.Onward later volume directory ∧
      (later.inventory volume directory = medium.inventory volume directory ∨
        ∃ name, (Path.names path).getLast? = some (.ok name) ∧
          Joins (medium.inventory volume directory) (later.inventory volume directory)
            (Entry.directory name cluster)) := by
  obtain ⟨front, parent, position, name, base, prepared, names, awaits, settled, free, spares,
    insertion, rfl⟩ := completed
  have unused : ¬ base.Used volume cluster := fun used => used.link_ne_zero free
  have partway := Partway.of_spares settled spares unused
  obtain ⟨first, same⟩ := partway.onward consistent reachable
  have still := (partway.sameTree consistent).awaits awaits
  obtain ⟨second, lists⟩ := insertion.onward still.absent first.reachable
  refine ⟨first.trans second, ?_⟩
  rw [same] at lists
  refine lists.imp_right fun joins => ⟨name, ?_, joins⟩
  rw [names, List.getLast?_concat]

/-- A creation leaves the inventory of a directory as it was, or it has succeeded and its
entry has joined them. -/
theorem Creates.onward {result : Except Failure Nat} {writes : List Write}
    (creates : medium.Creates volume path result writes) (consistent : medium.Consistent volume)
    (reachable : medium.Reachable volume directory) :
    medium.Onward (medium.apply writes) volume directory ∧
      ((medium.apply writes).inventory volume directory = medium.inventory volume directory ∨
        ∃ name cluster, result = .ok cluster ∧ (Path.names path).getLast? = some (.ok name) ∧
          Joins (medium.inventory volume directory)
            ((medium.apply writes).inventory volume directory) (Entry.directory name cluster)) := by
  rcases creates.states consistent List.prefix_rfl with partway | ⟨_, cluster, ended, completed⟩
  · obtain ⟨onward, same⟩ := partway.onward consistent reachable
    exact ⟨onward, .inl same⟩
  · obtain ⟨onward, lists⟩ := completed.onward consistent reachable
    exact ⟨onward, lists.imp_right fun ⟨name, last, joins⟩ => ⟨name, cluster, ended, last, joins⟩⟩

end Medium

end FatVolume
