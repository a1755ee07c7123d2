import FatVolume.Proofs.Formatted
import FatVolume.Proofs.Repetition

/-!
# What a cursor enumerates

The links from a data cluster lead through distinct data clusters, and behind them to an end
mark, to a value that is no data cluster, or back to one of them. There is no other way,
since a volume has finitely many clusters. A cursor yields the slots of these clusters in
order, and then ends, or tells that the chain is broken. Where the links lead back, it has
followed as many of them as a chain can have by then.

The root region has as many slots as the boot sector says, whatever they hold. A search for
entries yields the live ones in front of the first end marker.

Nothing is assumed of the medium. The requests are taken to be undisturbed; what they come
to when transfers are refused is the matter of resumption.
-/

namespace FatVolume

/-! ## Trails of links -/

namespace Medium

variable {medium : Medium} {volume : Volume}

/-- From a cluster on, the links lead through these data clusters, and the last of them has
this table value. -/
inductive Trail (medium : Medium) (volume : Volume) : Nat → List Nat → Nat → Prop
  | stop {cluster : Nat} (data : volume.DataCluster cluster) :
      Trail medium volume cluster [cluster] (medium.link volume cluster).toNat
  | step {cluster successor value : Nat} {rest : List Nat} (data : volume.DataCluster cluster)
      (linked : (medium.link volume cluster).toNat = successor)
      (trail : Trail medium volume successor rest value) :
      Trail medium volume cluster (cluster :: rest) value

/-- A table value that is neither an end mark nor a data cluster cannot be followed: the
chain is broken there. -/
theorem follow_of_broken {cluster : Nat} (low : (medium.link volume cluster).toNat < 0xFFF8)
    (other : ¬ volume.DataCluster (medium.link volume cluster).toNat) :
    medium.follow volume cluster = .error .brokenChain := by
  have goesOn : ¬ Link.endsChain (medium.link volume cluster) = true := by
    rw [Link.endsChain_iff]
    omega
  by_cases free : medium.link volume cluster = 0
  · rw [follow, Link.classify, if_pos free]
  · have outside : ¬ (2 ≤ (medium.link volume cluster).toNat ∧
        (medium.link volume cluster).toNat ≤ volume.maxCluster) := other
    rw [follow, Link.classify, if_neg free, if_neg goesOn, if_neg outside]

namespace Trail

variable {first value : Nat} {clusters : List Nat}

/-- All clusters of a trail are data clusters of the volume, the first one and each one
that a link leads to. -/
theorem data (trail : medium.Trail volume first clusters value) :
    ∀ cluster ∈ clusters, volume.DataCluster cluster := by
  induction trail with
  | stop data =>
    intro cluster member
    rw [List.mem_singleton.mp member]
    exact data
  | step data linked trail inductionHypothesis =>
    intro cluster member
    rcases List.mem_cons.mp member with rfl | later
    · exact data
    · exact inductionHypothesis cluster later

/-- A trail begins with its first cluster, and so has one cluster at least. -/
theorem first_mem (trail : medium.Trail volume first clusters value) : first ∈ clusters := by
  cases trail <;> exact List.mem_cons_self

/-- The cluster at which a trail begins is a data cluster of the volume. -/
theorem first_data (trail : medium.Trail volume first clusters value) :
    volume.DataCluster first := trail.data first trail.first_mem

/-- A trail whose last value is a data cluster is followed into it, and then has that
cluster as its last one. -/
theorem onward (trail : medium.Trail volume first clusters value)
    (next : volume.DataCluster value) :
    medium.Trail volume first (clusters ++ [value]) (medium.link volume value).toNat := by
  induction trail with
  | stop data => exact .step data rfl (.stop next)
  | step data linked _ inductionHypothesis => exact .step data linked (inductionHypothesis next)

/-- A trail of distinct clusters can be followed, over distinct clusters still, until it
comes to a value that is no data cluster or is one of its own. -/
theorem exists_ending (trail : medium.Trail volume first clusters value)
    (distinct : clusters.Nodup) :
    ∃ all last, medium.Trail volume first all last ∧ all.Nodup ∧
      (¬ volume.DataCluster last ∨ last ∈ all) := by
  have room := length_le_clusterCount trail.data distinct
  generalize unmet : volume.clusterCount - clusters.length = count
  -- By the number of data clusters that are not on the trail yet: one fewer with each step.
  induction count using Nat.strongRecOn generalizing clusters value with
  | ind count inductionHypothesis =>
    by_cases next : volume.DataCluster value
    · by_cases met : value ∈ clusters
      · exact ⟨clusters, value, trail, distinct, .inr met⟩
      · have further := trail.onward next
        have apart : (clusters ++ [value]).Nodup :=
          List.nodup_append.mpr ⟨distinct, List.nodup_singleton value, fun cluster member other
            same => by rw [List.mem_singleton.mp same]; exact ne_of_mem_of_not_mem member met⟩
        have longer := length_le_clusterCount further.data apart
        rw [List.length_append, List.length_singleton] at longer
        refine inductionHypothesis (count - 1) (by omega) further apart (by simpa using longer) ?_
        rw [List.length_append, List.length_singleton]
        omega
    · exact ⟨clusters, value, trail, distinct, .inl next⟩

/-- A trail whose last value is an end mark is an intact chain over the same clusters. -/
theorem chain (trail : medium.Trail volume first clusters value) (ends : 0xFFF8 ≤ value) :
    medium.ChainFrom volume first clusters := by
  induction trail with
  | stop data => exact .last data ((Link.endsChain_iff _).mpr ends)
  | step data linked _ inductionHypothesis => exact .next data linked (inductionHypothesis ends)

/-- The clusters of a trail that comes to a value which cannot be followed are all met,
and then the course breaks off as a broken chain. -/
theorem beyond_broken (trail : medium.Trail volume first clusters value)
    (low : value < 0xFFF8) (other : ¬ volume.DataCluster value) {links : Nat}
    (enough : clusters.length ≤ links + 1) :
    medium.beyond volume links first = ⟨clusters.tail, some .brokenChain⟩ := by
  -- Each link of the trail is followed, until the value that cannot be.
  induction trail generalizing links with
  | stop data =>
    rw [beyond, follow_of_broken low other]
    rfl
  | step data linked trail inductionHypothesis =>
    have nonempty := List.length_pos_of_mem trail.first_mem
    rw [List.length_cons] at enough
    obtain ⟨further, rfl⟩ : ∃ further, links = further + 1 := ⟨links - 1, by omega⟩
    rw [beyond, follow_of_linked trail.first_data linked]
    dsimp only
    rw [inductionHypothesis low other (by omega)]
    cases trail <;> rfl

/-- In a trail that comes back to itself, the link of every cluster leads to a cluster of
the trail. -/
theorem returns (trail : medium.Trail volume first clusters value)
    (next : volume.DataCluster value) :
    ∀ cluster ∈ clusters, ∃ successor, (successor ∈ clusters ∨ successor = value) ∧
      medium.follow volume cluster = .ok (some successor) := by
  induction trail with
  | stop data =>
    intro cluster member
    rw [List.mem_singleton.mp member]
    exact ⟨_, .inr rfl, follow_of_linked next rfl⟩
  | step data linked trail inductionHypothesis =>
    intro cluster member
    rcases List.mem_cons.mp member with rfl | later
    · exact ⟨_, .inl (List.mem_cons_of_mem _ trail.first_mem),
        follow_of_linked trail.first_data linked⟩
    · obtain ⟨successor, among, followed⟩ := inductionHypothesis next cluster later
      exact ⟨successor, among.imp_left (List.mem_cons_of_mem _), followed⟩

end Trail

/-- Among clusters whose links only lead to each other, no course of links comes to an
end: it breaks off when no more links may be followed. -/
theorem beyond_of_returning {clusters : List Nat}
    (returns : ∀ cluster ∈ clusters, ∃ successor ∈ clusters,
      medium.follow volume cluster = .ok (some successor))
    (links : Nat) {cluster : Nat} (member : cluster ∈ clusters) :
    (medium.beyond volume links cluster).ending = some .brokenChain := by
  induction links generalizing cluster with
  | zero =>
    obtain ⟨successor, _, followed⟩ := returns cluster member
    rw [beyond, followed]
  | succ links inductionHypothesis =>
    obtain ⟨successor, among, followed⟩ := returns cluster member
    rw [beyond, followed]
    exact inductionHypothesis among

/-- A course of links meets at most as many clusters as the number of links that it may
follow. -/
theorem beyond_length (links cluster : Nat) :
    (medium.beyond volume links cluster).items.length ≤ links := by
  induction links generalizing cluster with
  | zero =>
    rw [beyond]
    split <;> exact Nat.le_refl 0
  | succ links inductionHypothesis =>
    rw [beyond]
    split
    · exact Nat.zero_le _
    · exact Nat.zero_le _
    · exact Nat.succ_le_succ (inductionHypothesis _)

/-! ## Slots along a trail -/

/-- The slots of a chain from a data cluster on are those of that cluster and of all
clusters that its links meet, and end as these do. -/
theorem slots_chain {first : Nat} (data : volume.DataCluster first) :
    medium.slots volume (.chain first) =
      ⟨(first :: (medium.beyond volume (volume.clusterCount - 1) first).items).flatMap
          (medium.clusterSlots volume),
        (medium.beyond volume (volume.clusterCount - 1) first).ending⟩ := by
  simp only [slots]
  rw [(Layout.checkCluster_ok_iff first).mpr data]
  rfl

/-- A chain from a data cluster on never has more slots than the data region, even if its
links return to where they came from. -/
theorem slots_length_le {first : Nat} (data : volume.DataCluster first) :
    (medium.slots volume (.chain first)).items.length ≤
      volume.clusterCount * volume.sectorsPerCluster * 16 := by
  have met : (medium.beyond volume (volume.clusterCount - 1) first).items.length ≤ _ :=
    beyond_length _ first
  have clusters : 0 < volume.clusterCount := Nat.sub_pos_of_lt volume.usable.two_le_maxCluster
  rw [slots_chain data]
  dsimp only
  rw [flatMap_clusterSlots_length, List.length_cons]
  exact Nat.mul_le_mul_right _ (Nat.mul_le_mul_right _ (by omega))

namespace Trail

variable {first value : Nat} {clusters : List Nat}

/-- The slots of a trail that comes to a value which cannot be followed are those of its
clusters, and then reading them breaks off as a broken chain. -/
theorem slots_broken (trail : medium.Trail volume first clusters value)
    (distinct : clusters.Nodup) (low : value < 0xFFF8) (other : ¬ volume.DataCluster value) :
    medium.slots volume (.chain first) =
      ⟨clusters.flatMap (medium.clusterSlots volume), some .brokenChain⟩ := by
  have bounded := length_le_clusterCount trail.data distinct
  have whole : first :: clusters.tail = clusters := by cases trail <;> rfl
  rw [slots_chain trail.first_data, trail.beyond_broken low other (by omega)]
  dsimp only
  rw [whole]

/-- Reading the slots of a trail that comes back to itself ends as a broken chain, instead
of going round for ever. -/
theorem slots_returning (trail : medium.Trail volume first clusters value)
    (back : value ∈ clusters) :
    (medium.slots volume (.chain first)).ending = some .brokenChain := by
  rw [slots_chain trail.first_data]
  refine beyond_of_returning (fun cluster member => ?_) _ trail.first_mem
  obtain ⟨successor, among, followed⟩ := trail.returns (trail.data value back) cluster member
  rcases among with inside | rfl
  · exact ⟨successor, inside, followed⟩
  · exact ⟨successor, back, followed⟩

end Trail

end Medium

/-! ## Entries in front of the first end marker -/

/-- The entries among some slots are those of the live ones in front of the first end marker;
they end there, or as the slots do. -/
theorem Cursor.entriesOf_eq (slots : Course (SlotPosition × Slot)) :
    entriesOf slots =
      ⟨(slots.items.takeWhile fun item => item.2 ≠ .endMarker).filterMap fun item => item.2.asEntry,
        if slots.items.any fun item => item.2 = .endMarker then none else slots.ending⟩ := by
  obtain ⟨items, ending⟩ := slots
  change Course.mk ((liveEntries ending items).items.map Prod.snd)
    (liveEntries ending items).ending = _
  fun_induction liveEntries ending items with
  | case1 => rfl
  | case2 => rfl
  | case3 position entry rest inductionHypothesis =>
    obtain ⟨items, ends⟩ := Course.mk.inj inductionHypothesis
    rw [Course.behind_items, List.map_append, items]
    exact congrArg _ ends
  | case4 position rest inductionHypothesis | case5 position rest inductionHypothesis
  | case6 position rest inductionHypothesis => exact inductionHypothesis

/-! ## Enumerations -/

namespace Cursor

variable {medium : Medium} {volume : Volume} {directory : Directory} {cursor : Cursor}

/-- A cursor that has no slots ahead already stands in the cluster in which it comes to
its end. -/
theorem cluster_of_ahead_nil (none : (cursor.ahead medium volume).items = []) :
    cursor.lastCluster medium volume = cursor.cluster? := by
  obtain ⟨place, held, done⟩ := cursor
  cases done with
  | true => exact lastCluster_done rfl
  | false =>
    cases place with
    | root taken => rfl
    | chain cluster sector taken hops =>
      rw [ahead, if_neg Bool.false_ne_true] at none
      dsimp only at none
      rw [Course.behind_items, List.append_eq_nil_iff] at none
      have behind : (medium.beyond volume (volume.clusterCount - 1 - hops) cluster).items = [] := by
        have slots := congrArg List.length none.2
        rw [Course.flatMap, Medium.flatMap_clusterSlots_length, List.length_nil] at slots
        have sectors := volume.usable.sectorsPerCluster_pos
        rw [Nat.mul_assoc] at slots
        exact List.length_eq_zero_iff.mp ((Nat.mul_eq_zero.mp slots).resolve_right (by omega))
      change some ((medium.beyond volume (volume.clusterCount - 1 - hops) cluster).items.getLastD
        cluster) = some cluster
      rw [behind]
      rfl

/-- A cursor that starts over an intact chain of distinct clusters comes to its end in the
last one of them. -/
theorem start_lastCluster {first : Nat} {clusters : List Nat}
    (started : start volume (.chain first) = .ok cursor)
    (chain : medium.ChainFrom volume first clusters) (distinct : clusters.Nodup) :
    cursor.lastCluster medium volume = clusters.getLast? := by
  have bounded := chain.length_le distinct
  simp only [start] at started
  obtain ⟨_, _, same⟩ := ok_of_bind started
  cases same
  have enough : clusters.length ≤ volume.clusterCount - 1 - 0 + 1 := by
    have some := List.length_pos_of_mem chain.first_mem
    omega
  have behind := chain.beyond enough
  change some ((medium.beyond volume (volume.clusterCount - 1 - 0) first).items.getLastD first) = _
  rw [behind]
  cases chain <;> rw [List.getLast?_cons, List.tail_cons, List.getLastD_eq_getLast?]

/-- How so many undisturbed requests for a slot are answered that began at the start of a
directory, and where they leave the cursor. -/
def Enumerates (medium : Medium) (volume : Volume) (count : Nat)
    (answers : List (Except Failure (Option (SlotPosition × Slot)))) (left : Cursor) :
    Directory → Prop
  | .root =>
    let slots := medium.rootSlots volume
    slots.length = volume.rootEntries ∧ (slots.map Prod.fst).Nodup ∧
      answers = Course.told ⟨slots, none⟩ count
  | .chain first =>
    ∀ clusters value, medium.Trail volume first clusters value → clusters.Nodup →
      let slots := clusters.flatMap (medium.clusterSlots volume)
      slots.length = clusters.length * volume.sectorsPerCluster * 16 ∧
      (slots.map Prod.fst).Nodup ∧
      (0xFFF8 ≤ value →
        answers = Course.told ⟨slots, none⟩ count ∧
          (slots.length < count → left.cluster? = clusters.getLast?)) ∧
      (value < 0xFFF8 → ¬ volume.DataCluster value →
        Course.told ⟨slots, some .brokenChain⟩ count <+: answers) ∧
      (value ∈ clusters →
        let all := (medium.slots volume (.chain first)).items
        all.length ≤ volume.clusterCount * volume.sectorsPerCluster * 16 ∧
          Course.told ⟨all, some .brokenChain⟩ count <+: answers)

/-- Answers that begin with what the slots of a chain tell enumerate it in every case: for
an end mark, a broken link, and links that return. -/
theorem enumerates_chain {first count : Nat} {left : Cursor}
    {answers : List (Except Failure (Option (SlotPosition × Slot)))}
    (counted : answers.length = count)
    (told : (medium.slots volume (.chain first)).told count <+: answers)
    (stands : ∀ clusters, medium.ChainFrom volume first clusters → clusters.Nodup →
      (clusters.flatMap (medium.clusterSlots volume)).length ≤ count →
        left.cluster? = clusters.getLast?) :
    Enumerates medium volume count answers left (.chain first) := by
  intro clusters value trail distinct
  refine ⟨Medium.flatMap_clusterSlots_length clusters,
    Medium.clusterSlots_distinct trail.data distinct,
    fun ends => ⟨?_, fun enough => ?_⟩, fun low other => ?_, fun back => ?_⟩
  · rw [(trail.chain ends).slots distinct] at told
    exact (told.eq_of_length ((Course.told_length _ count).trans counted.symm)).symm
  · exact stands clusters (trail.chain ends) distinct (Nat.le_of_lt enough)
  · rwa [trail.slots_broken distinct low other] at told
  · refine ⟨Medium.slots_length_le trail.first_data, ?_⟩
    rwa [← trail.slots_returning back]

/-- Undisturbed requests for entries from the start of a directory tell of the live ones among its
slots, up to the first end marker. -/
theorem start_entriesTold {host : Host} (sized : host.disk.sectorSize = 512)
    (started : start volume directory = .ok cursor) (count : Nat)
    (undisturbed : host.Undisturbed (afterwards (requests (next volume) count) ⟨cursor, host⟩).host) :
    ∃ answers, outcome (requests (next volume) count) ⟨cursor, host⟩ = .ok answers ∧
      answers.length = count ∧
      (entriesOf (host.medium.slots volume directory)).told count <+: answers := by
  obtain ⟨answers, answered, counted, told⟩ :=
    (next_resumable host.medium volume cursor.cluster?.isSome).told (next_onlyAdds volume) count rfl
      sized ⟨start_poised host.medium started, rfl⟩ undisturbed
  rw [entriesAhead, (start_ready host.medium started).2] at told
  exact ⟨answers, answered, counted, told⟩

/-- Undisturbed requests for slots enumerate the directory, and undisturbed requests for
entries the live ones among its slots up to the first end marker. The links of a chain lead
through distinct clusters to one of the three ends that an enumeration tells apart. -/
theorem start_enumerates {host : Host} (sized : host.disk.sectorSize = 512)
    (started : start volume directory = .ok cursor) (count : Nat) :
    (host.Undisturbed (afterwards (requests (nextSlot volume) count) ⟨cursor, host⟩).host →
      ∃ answers, outcome (requests (nextSlot volume) count) ⟨cursor, host⟩ = .ok answers ∧
        Enumerates host.medium volume count answers
          (afterwards (requests (nextSlot volume) count) ⟨cursor, host⟩).cursor directory) ∧
    (host.Undisturbed (afterwards (requests (next volume) count) ⟨cursor, host⟩).host →
      ∃ answers, outcome (requests (next volume) count) ⟨cursor, host⟩ = .ok answers ∧
        answers.length = count ∧
        let slots := host.medium.slots volume directory
        Course.told
          ⟨(slots.items.takeWhile fun item => item.2 ≠ .endMarker).filterMap fun item =>
              item.2.asEntry,
            if slots.items.any fun item => item.2 = .endMarker then none else slots.ending⟩
          count <+: answers) ∧
    (∀ first, directory = .chain first →
      ∃ clusters value, host.medium.Trail volume first clusters value ∧ clusters.Nodup ∧
        (0xFFF8 ≤ value ∨ (value < 0xFFF8 ∧ ¬ volume.DataCluster value) ∨ value ∈ clusters)) := by
  have poised := start_poised host.medium started
  have ahead := (start_ready host.medium started).2
  refine ⟨fun undisturbed => ?_, fun undisturbed => ?_, ?_⟩
  · obtain ⟨answers, answered, counted, resumes⟩ :=
      (nextSlot_resumable host.medium volume (cursor.lastCluster host.medium volume)).resumes
        (nextSlot_onlyAdds volume) count rfl sized ⟨poised, rfl⟩ fun _ =>
          undisturbed.sparesLinks volume.toLayout
    -- Without a disturbance none of the answers is a failure of the disk, so they tell the slots
    -- ahead themselves.
    have told := resumes.told (not_not_intro undisturbed)
    rw [ahead, counted] at told
    refine ⟨answers, answered, ?_⟩
    cases directory with
    | root =>
      exact ⟨Medium.rootSlots_length, Medium.rootSlots_distinct,
        (told.eq_of_length ((Course.told_length _ count).trans counted.symm)).symm⟩
    | chain first =>
      refine enumerates_chain counted told fun clusters chain distinct enough => ?_
      have whole := chain.slots distinct
      -- When all slots have been told, nothing is left ahead, and the cursor stands where its
      -- chain ends.
      obtain ⟨heading, remains⟩ := resumes.left (not_not_intro undisturbed) (by rw [ahead, whole])
      rw [ahead, whole, counted] at remains
      dsimp only at remains
      rw [List.drop_eq_nil_of_le enough] at remains
      rw [← cluster_of_ahead_nil (congrArg Course.items remains), heading.leads,
        start_lastCluster started chain distinct]
  · obtain ⟨answers, answered, counted, told⟩ := start_entriesTold sized started count undisturbed
    rw [entriesOf_eq] at told
    exact ⟨answers, answered, counted, told⟩
  · rintro first rfl
    simp only [start] at started
    obtain ⟨_, checked, _⟩ := ok_of_bind started
    have data := (Layout.checkCluster_ok_iff first).mp checked
    -- There are finitely many data clusters, so a trail of distinct ones comes to its end.
    obtain ⟨clusters, value, trail, distinct, ends⟩ :=
      (Medium.Trail.stop data : host.medium.Trail volume first _ _).exists_ending
        (List.nodup_singleton first)
    refine ⟨clusters, value, trail, distinct, ?_⟩
    rcases ends with other | back
    · by_cases low : value < 0xFFF8
      · exact .inr (.inl ⟨low, other⟩)
      · exact .inl (Nat.not_lt.mp low)
    · exact .inr (.inr back)

/-- A host with a disk of twenty sectors on which a chain leads from cluster 2 to cluster 5
and ends there. -/
def linkedHost : Host where
  disk :=
    { capacity := 20
      contents := (∅ : Std.TreeMap Nat Sector).insert 1
        ((Sector.zero.setWord (Layout.linkIndex 2) 5).setWord (Layout.linkIndex 5) 0xFFFF) }
  largestBlock := 4096

/-- On the disk with two linked clusters the cursor gives their 64 slots and then the end,
and stands in the second cluster then. -/
theorem start_enumerates_linked :
    let cursor : Cursor := { place := .chain 2 0 0 0 }
    let walk := afterwards (requests (nextSlot .small) 66) ⟨cursor, linkedHost⟩
    linkedHost.disk.sectorSize = 512 ∧ start .small (.chain 2) = .ok cursor ∧
      linkedHost.Undisturbed walk.host ∧
      outcome (requests (nextSlot .small) 66) ⟨cursor, linkedHost⟩ =
        .ok (Course.told ⟨[2, 5].flatMap (linkedHost.medium.clusterSlots .small), none⟩ 66) ∧
      walk.cursor.cluster? = some 5 := by
  have data (cluster : Nat) (low : 2 ≤ cluster) (high : cluster ≤ 9) :
      Volume.small.DataCluster cluster := ⟨low, Nat.le_trans high (by decide)⟩
  have started : start .small (.chain 2) = .ok { place := .chain 2 0 0 0 } := by
    rw [start, (Layout.checkCluster_ok_iff 2).mpr (data 2 (by decide) (by decide))]
    rfl
  have undisturbed : linkedHost.Undisturbed
      (afterwards (requests (nextSlot .small) 66) ⟨{ place := .chain 2 0 0 0 }, linkedHost⟩).host :=
    Host.Spared.of_trace (requests_onlyAdds (nextSlot_onlyAdds .small) 66 _) (by decide +kernel)
  have trail : linkedHost.medium.Trail .small 2 [2, 5] 0xFFFF := by
    have led : (linkedHost.medium.link .small 2).toNat = 5 := by decide +kernel
    have ends : (linkedHost.medium.link .small 5).toNat = 0xFFFF := by decide +kernel
    have last : linkedHost.medium.Trail .small 5 [5] _ :=
      .stop (data 5 (by decide) (by decide))
    rw [ends] at last
    exact .step (data 2 (by decide) (by decide)) led last
  obtain ⟨answers, answered, enumerates⟩ := (start_enumerates rfl started 66).1 undisturbed
  obtain ⟨counted, _, whole, _⟩ := enumerates [2, 5] 0xFFFF trail (by decide)
  obtain ⟨same, stands⟩ := whole (by decide)
  rw [same] at answered
  have enough : ([2, 5].flatMap (linkedHost.medium.clusterSlots .small)).length < 66 := by
    rw [counted]
    decide
  exact ⟨rfl, started, undisturbed, answered, stands enough⟩

end Cursor

end FatVolume
