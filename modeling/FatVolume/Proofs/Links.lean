import FatVolume.Proofs.Geometry
import FatVolume.Proofs.Performance
import Mathlib.Data.List.Perm.Subperm

/-!
# Links and chains on a medium

The table value of a cluster is a function of the medium: the entry in the first copy,
or that in the second where the first says free. Following links is a course over
cluster numbers, which breaks off at a link that cannot be followed, or when more links
have been followed than a volume can have in one chain.

A chain is intact when its clusters are data clusters and the last one ends it. The
course over an intact chain without a repetition meets all its clusters and does not
break off.
-/

namespace FatVolume

/-- What is met one after the other, and the failure at which it breaks off, if one does. -/
structure Course (α : Type) where
  items : List α
  ending : Option Failure
  deriving DecidableEq

namespace Course

variable {α β : Type}

/-- A course with other items in front. -/
def behind (course : Course α) (items : List α) : Course α := ⟨items ++ course.items, course.ending⟩

/-- A course over what each item of a course holds. -/
def flatMap (course : Course α) (content : α → List β) : Course β :=
  ⟨course.items.flatMap content, course.ending⟩

/-- A course over what becomes of each item of a course. -/
def map (course : Course α) (change : α → β) : Course β := ⟨course.items.map change, course.ending⟩

/-- Putting items in front of a course puts them in front of its items, and does not
change how the course ends. -/
theorem behind_items (course : Course α) (items : List α) :
    (course.behind items).items = items ++ course.items := rfl

/-- The contents of a course that stands behind some items stand behind the contents of
those items. -/
theorem flatMap_behind (course : Course α) (items : List α) (content : α → List β) :
    (course.behind items).flatMap content = (course.flatMap content).behind (items.flatMap content) := by
  simp only [flatMap, behind, List.flatMap_append]

/-- Changing each item of a course commutes with putting items in front of it. -/
theorem map_behind (course : Course α) (items : List α) (change : α → β) :
    (course.behind items).map change = (course.map change).behind (items.map change) := by
  simp only [map, behind, List.map_append]

/-- A course that is put behind items twice stands behind all of them, in the order in
which they are met. -/
theorem behind_behind (course : Course α) (items further : List α) :
    (course.behind further).behind items = course.behind (items ++ further) := by
  simp only [behind, List.append_assoc]

end Course

/-- The end marks are the values from 0xFFF8 on; those just below mark a bad cluster and
reserved numbers, and end no chain. -/
theorem Link.endsChain_iff (value : UInt16) : endsChain value = true ↔ 0xFFF8 ≤ value.toNat := by
  simp only [endsChain]
  rw [decide_eq_true_iff, UInt16.le_iff_toNat_le]
  rfl

/-- The number of a data cluster is no mark of a free cluster, of an end or of a bad
cluster: it leads to that cluster. -/
theorem Layout.DataCluster.classify {layout : Layout} {cluster : Nat} {value : UInt16}
    (data : layout.DataCluster cluster) (named : value.toNat = cluster) :
    Link.classify value layout.maxCluster = .next cluster := by
  have small := data.lt_marker
  obtain ⟨low, high⟩ := data
  have taken : value ≠ 0 := by
    rintro rfl
    change 0 = cluster at named
    omega
  have goesOn : ¬ Link.endsChain value = true := by
    rw [Link.endsChain_iff]
    omega
  rw [Link.classify, if_neg taken, if_neg goesOn, if_pos (by omega), named]

namespace Medium

variable (medium : Medium) (volume : Volume)

/-- The table value of a cluster in one copy. -/
def linkIn (copy cluster : Nat) : UInt16 :=
  (medium (volume.linkSector copy cluster)).word (Layout.linkIndex cluster)

/-- The table value of a cluster. -/
def link (cluster : Nat) : UInt16 :=
  if medium.linkIn volume 0 cluster ≠ 0 ∨ volume.tableCopies < 2 then medium.linkIn volume 0 cluster
  else medium.linkIn volume 1 cluster

section

-- What a link holds makes no difference to how a walk along links is unfolded.
attribute [local irreducible] Link.classify

/-- The cluster after a cluster; none at the end of a chain. -/
def follow (cluster : Nat) : Except Failure (Option Nat) :=
  match Link.classify (medium.link volume cluster) volume.maxCluster with
  | .next successor => .ok (some successor)
  | .endOfChain => .ok none
  | .free => .error .brokenChain
  | .invalid _ => .error .brokenChain

attribute [local irreducible] follow

/-- The clusters behind a cluster, as far as so many links lead. -/
def beyond : Nat → Nat → Course Nat
  | links, cluster =>
    match medium.follow volume cluster with
    | .error failure => ⟨[], some failure⟩
    | .ok none => ⟨[], none⟩
    | .ok (some successor) =>
      match links with
      | 0 => ⟨[], some .brokenChain⟩
      | further + 1 => (beyond further successor).behind [successor]

end

/-- From a cluster on, the links lead through these data clusters to an end mark. -/
inductive ChainFrom : Nat → List Nat → Prop
  | last {cluster : Nat} (data : volume.DataCluster cluster)
      (ends : Link.endsChain (medium.link volume cluster) = true) : ChainFrom cluster [cluster]
  | next {cluster successor : Nat} {rest : List Nat} (data : volume.DataCluster cluster)
      (linked : (medium.link volume cluster).toNat = successor)
      (chain : ChainFrom successor rest) : ChainFrom cluster (cluster :: rest)

variable {medium volume}

/-- All clusters of a chain are data clusters of the volume, the first one included. -/
theorem ChainFrom.data {first : Nat} {clusters : List Nat}
    (chain : medium.ChainFrom volume first clusters) :
    ∀ cluster ∈ clusters, volume.DataCluster cluster := by
  induction chain with
  | last data ends =>
    intro cluster member
    rw [List.mem_singleton.mp member]
    exact data
  | next data linked chain inductionHypothesis =>
    intro cluster member
    rcases List.mem_cons.mp member with rfl | later
    · exact data
    · exact inductionHypothesis cluster later

/-- A chain goes through the cluster at which it begins. -/
theorem ChainFrom.first_mem {first : Nat} {clusters : List Nat}
    (chain : medium.ChainFrom volume first clusters) : first ∈ clusters := by
  cases chain <;> exact List.mem_cons_self

/-- The cluster at which a chain begins is a data cluster, so a directory or a file in it
can be opened. -/
theorem ChainFrom.first_data {first : Nat} {clusters : List Nat}
    (chain : medium.ChainFrom volume first clusters) : volume.DataCluster first :=
  chain.data first chain.first_mem

/-- An end mark is not zero: the last cluster of a chain counts as claimed. -/
theorem link_ne_zero_of_ends {cluster : Nat}
    (ends : Link.endsChain (medium.link volume cluster) = true) :
    medium.link volume cluster ≠ 0 := by
  intro free
  rw [free] at ends
  exact absurd ends (by decide)

/-- A link to a data cluster is not zero, since data clusters are numbered from 2 on. -/
theorem link_ne_zero_of_linked {cluster successor : Nat} (data : volume.DataCluster successor)
    (linked : (medium.link volume cluster).toNat = successor) :
    medium.link volume cluster ≠ 0 := by
  intro free
  have low := data.1
  rw [free] at linked
  change 0 = successor at linked
  omega

/-- No cluster of a chain is free. A free cluster can thus be claimed without harm to any
chain. -/
theorem ChainFrom.link_ne_zero {first cluster : Nat} {clusters : List Nat}
    (chain : medium.ChainFrom volume first clusters) (member : cluster ∈ clusters) :
    medium.link volume cluster ≠ 0 := by
  induction chain with
  | last data ends =>
    rw [List.mem_singleton.mp member]
    exact link_ne_zero_of_ends ends
  | next data linked chain inductionHypothesis =>
    rcases List.mem_cons.mp member with rfl | later
    · exact link_ne_zero_of_linked chain.first_data linked
    · exact inductionHypothesis later

/-- An end mark leads nowhere, and that is no failure. -/
theorem follow_of_ends {cluster : Nat} (ends : Link.endsChain (medium.link volume cluster) = true) :
    medium.follow volume cluster = .ok none := by
  rw [follow, Link.classify, if_neg (link_ne_zero_of_ends ends), if_pos ends]

/-- A link with the number of a data cluster leads to that cluster. -/
theorem follow_of_linked {cluster successor : Nat} (data : volume.DataCluster successor)
    (linked : (medium.link volume cluster).toNat = successor) :
    medium.follow volume cluster = .ok (some successor) := by
  rw [follow, data.classify linked]

/-- A link that can be followed has the number of the cluster that it leads to. -/
theorem linked_of_follow {cluster successor : Nat}
    (followed : medium.follow volume cluster = .ok (some successor)) :
    (medium.link volume cluster).toNat = successor := by
  simp only [follow] at followed
  split at followed
  · next classified =>
    cases followed
    simp only [Link.classify] at classified
    split_ifs at classified
    cases classified
    rfl
  · cases followed
  · cases followed
  · cases followed

/-- Where no link can be followed and none is broken, there is an end mark. -/
theorem ends_of_follow {cluster : Nat} (followed : medium.follow volume cluster = .ok none) :
    Link.endsChain (medium.link volume cluster) = true := by
  simp only [follow] at followed
  split at followed
  · cases followed
  · next classified =>
    simp only [Link.classify] at classified
    split_ifs at classified with _ ends
    exact ends
  · cases followed
  · cases followed

/-- The links from a cluster lead through one chain at most, for each link is followed in
one way. -/
theorem ChainFrom.unique {first : Nat} {clusters others : List Nat}
    (chain : medium.ChainFrom volume first clusters) (other : medium.ChainFrom volume first others) :
    clusters = others := by
  -- A link has one value, so two chains from one cluster take the same step or end together.
  induction chain generalizing others with
  | last data ends =>
    cases other with
    | last => rfl
    | next _ linked chain =>
      have followed := follow_of_linked chain.first_data linked
      rw [follow_of_ends ends] at followed
      cases followed
  | next data linked chain inductionHypothesis =>
    cases other with
    | last _ ends =>
      have followed := follow_of_linked chain.first_data linked
      rw [follow_of_ends ends] at followed
      cases followed
    | next _ same rest =>
      rw [linked] at same
      subst same
      rw [inductionHypothesis rest]

/-- From each of its clusters on, a chain goes on as a chain that is no longer than the
whole. -/
theorem ChainFrom.onward {first cluster : Nat} {clusters : List Nat}
    (chain : medium.ChainFrom volume first clusters) (member : cluster ∈ clusters) :
    ∃ rest, medium.ChainFrom volume cluster rest ∧ rest.length ≤ clusters.length := by
  induction chain with
  | last data ends =>
    obtain rfl := List.mem_singleton.mp member
    exact ⟨_, .last data ends, Nat.le_refl _⟩
  | next data linked chain inductionHypothesis =>
    rcases List.mem_cons.mp member with rfl | later
    · exact ⟨_, .next data linked chain, Nat.le_refl _⟩
    · obtain ⟨rest, onward, shorter⟩ := inductionHypothesis later
      exact ⟨rest, onward, Nat.le_succ_of_le shorter⟩

/-- A chain that comes to an end meets no cluster twice: from a second visit on, it would
go on for ever. -/
theorem ChainFrom.distinct {first : Nat} {clusters : List Nat}
    (chain : medium.ChainFrom volume first clusters) : clusters.Nodup := by
  induction chain with
  | last => exact List.pairwise_singleton _ _
  | next data linked chain inductionHypothesis =>
    refine List.nodup_cons.mpr ⟨fun member => ?_, inductionHypothesis⟩
    obtain ⟨rest, again, shorter⟩ := chain.onward member
    rw [again.unique (.next data linked chain), List.length_cons] at shorter
    omega

/-- A chain is met as a whole by a course that may follow enough links, and the course
ends without a failure. -/
theorem ChainFrom.beyond {first links : Nat} {clusters : List Nat}
    (chain : medium.ChainFrom volume first clusters) (enough : clusters.length ≤ links + 1) :
    medium.beyond volume links first = ⟨clusters.tail, none⟩ := by
  induction chain generalizing links with
  | last data ends =>
    rw [Medium.beyond, follow_of_ends ends]
    rfl
  | next data linked chain inductionHypothesis =>
    have nonempty := List.length_pos_of_mem chain.first_mem
    rw [List.length_cons] at enough
    obtain ⟨further, rfl⟩ : ∃ further, links = further + 1 := ⟨links - 1, by omega⟩
    rw [Medium.beyond, follow_of_linked chain.first_data linked]
    dsimp only
    rw [inductionHypothesis (by omega)]
    cases chain <;> rfl

/-- Links lead to data clusters only. A stored number outside of them is a broken link. -/
theorem follow_data {cluster successor : Nat}
    (followed : medium.follow volume cluster = .ok (some successor)) :
    volume.DataCluster successor := by
  simp only [follow] at followed
  split at followed
  · next classified =>
    cases followed
    simp only [Link.classify] at classified
    split_ifs at classified with _ _ inside
    cases classified
    exact inside
  · cases followed
  · cases followed
  · cases followed

/-- No link of a free cluster can be followed, for a zero is a broken link. -/
theorem link_ne_zero_of_follow {cluster successor : Nat}
    (followed : medium.follow volume cluster = .ok (some successor)) :
    medium.link volume cluster ≠ 0 :=
  link_ne_zero_of_linked (follow_data followed) (linked_of_follow followed)

/-- A link that cannot be followed breaks the chain, and this is the only failure of the
table itself. -/
theorem follow_error {cluster : Nat} {failure : Failure}
    (failed : medium.follow volume cluster = .error failure) : failure = .brokenChain := by
  simp only [follow] at failed
  split at failed <;> cases failed <;> rfl

/-- Following links comes to the end of a chain, to the limit on links, or to where the
chain is broken; no other failure is met. -/
theorem beyond_ending (links cluster : Nat) :
    (medium.beyond volume links cluster).ending = none ∨
      (medium.beyond volume links cluster).ending = some .brokenChain := by
  -- A course has only one way to break off, at whichever link it does.
  induction links generalizing cluster with
  | zero =>
    rw [beyond]
    split
    · next failed =>
      obtain rfl := follow_error failed
      exact .inr rfl
    · exact .inl rfl
    · exact .inr rfl
  | succ links inductionHypothesis =>
    rw [beyond]
    split
    · next failed =>
      obtain rfl := follow_error failed
      exact .inr rfl
    · exact .inl rfl
    · next successor _ => exact inductionHypothesis successor

/-- All clusters that are met behind a cluster are data clusters, even on a chain that is
broken later. -/
theorem beyond_data {cluster : Nat} (links : Nat) :
    ∀ later ∈ (medium.beyond volume links cluster).items, volume.DataCluster later := by
  induction links generalizing cluster with
  | zero =>
    rw [beyond]
    split <;> simp
  | succ links inductionHypothesis =>
    rw [beyond]
    split
    · simp
    · simp
    · next successor followed =>
      intro later member
      rcases List.mem_cons.mp member with rfl | behind
      · exact follow_data followed
      · exact inductionHypothesis later behind

/-- Distinct data clusters are no more than the volume has. Chains are bounded by this,
and so are walks along them. -/
theorem length_le_clusterCount {clusters : List Nat}
    (data : ∀ cluster ∈ clusters, volume.DataCluster cluster) (distinct : clusters.Nodup) :
    clusters.length ≤ volume.clusterCount := by
  have inside : clusters ⊆ List.range' 2 volume.clusterCount := by
    intro cluster member
    obtain ⟨low, high⟩ := data cluster member
    rw [List.mem_range'_1]
    simp only [Layout.clusterCount]
    omega
  have bounded := (List.subperm_of_subset distinct inside).length_le
  rwa [List.length_range'] at bounded

/-- A chain without a repetition has no more clusters than the volume, so the bound on
hops never cuts it short. -/
theorem ChainFrom.length_le {first : Nat} {clusters : List Nat}
    (chain : medium.ChainFrom volume first clusters) (distinct : clusters.Nodup) :
    clusters.length ≤ volume.clusterCount := length_le_clusterCount chain.data distinct

end Medium

/-! ## Reading links -/

namespace Volume

variable {medium : Medium} {volume : Volume}

/-- A number that is worked out is the value of its computation. The note that is made of it
touches neither the medium nor the disk. -/
theorem workOut_reads (computation : Computation) :
    Reads (volume.workOut computation) medium (.ok (computation.value volume.toLayout)) :=
  (Performs.compute _).bind (.pure _)

/-- The sector that follows in a cluster has the next number. -/
theorem nextSector_reads (sector : Nat) :
    Reads (volume.workOut (.nextSector sector)) medium (.ok (sector + 1)) := workOut_reads _

/-- Behind the last sector of a cluster, the sector in front is that last one. The
difference is taken only where it is not negative. -/
theorem previousSector_reads (sector : Nat) :
    Reads (volume.workOut (.previousSector (sector + 1))) medium (.ok sector) := workOut_reads _

/-- A link that is followed adds one to the number of those that were. -/
theorem nextHop_reads (hops : Nat) :
    Reads (volume.workOut (.nextHop hops)) medium (.ok (hops + 1)) := workOut_reads _

/-- The address of an entry is the sector of its copy in which the entry lies, worked out
without a transfer. -/
theorem linkAddress_reads (copy cluster : Nat) :
    Reads (volume.linkAddress copy cluster) medium (.ok (volume.linkSector copy cluster)) :=
  workOut_reads _

/-- The link of a cluster is to be what the medium has: the entry of the first copy, or
that of the second one where the first is zero. -/
theorem link_reads (cluster : Nat) :
    Reads (volume.link cluster) medium (.ok (medium.link volume cluster)) := by
  refine (linkAddress_reads 0 cluster).bind ((Reads.readSector _).bind ?_)
  unfold Medium.link Medium.linkIn
  dsimp only
  by_cases decided : (medium (volume.linkSector 0 cluster)).word (Layout.linkIndex cluster) ≠ 0 ∨
      volume.tableCopies < 2
  · rw [if_pos decided, if_pos decided]
    exact .pure _
  · rw [if_neg decided, if_neg decided]
    refine (linkAddress_reads 1 cluster).bind ((Reads.readSector _).bind ?_)
    split
    · exact (Performs.report _).bind (.pure _)
    · exact .pure _

/-- Following the link of a cluster is to end where the link on the medium leads, or in
the failure that it means. -/
theorem follow_reads (cluster : Nat) :
    Reads (volume.follow cluster) medium (medium.follow volume cluster) := by
  apply (link_reads cluster).bind
  simp only [Medium.follow]
  cases Link.classify (medium.link volume cluster) volume.maxCluster with
  | next successor => exact .pure _
  | endOfChain => exact .pure _
  | free => exact .throw _
  | invalid value => exact .throw _

end Volume

end FatVolume
