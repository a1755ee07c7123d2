import FatVolume.Proofs.Alongside
import FatVolume.Proofs.MachineWords
import Mathlib.Logic.Relation

/-!
# Runs as sequences of permitted steps

Whatever an operation does to its host, it does in steps: it attempts a transfer, notes
a computation, or reports a notice. A run is confined to a volume when each transfer
goes to an address that the volume owns and is of an allowed kind, and each computation
is proper. `Confined` says so of an operation for every host, hence for every content
of the medium and every pattern of refusals, together with what is known of the value
it ends in. `Guided` says the same of an operation that moves a cursor, where what is
known of the cursor before and after takes part.

A refused transfer is a step like any other. Only a success promises something about
cursor and value: a cursor that has met a failure is not spoken of.
-/

namespace FatVolume

/-- One thing that an operation may do to its host. -/
inductive Step (layout : Layout) (allowed : Transfer → Prop) : Host → Host → Prop
  | transfer (host : Host) (transfer : Transfer) (owned : layout.Owns transfer.lba)
      (permitted : allowed transfer) : Step layout allowed host (afterwards (attempt transfer) host)
  | compute (host : Host) (computation : Computation) (proper : computation.Proper layout) :
      Step layout allowed host (afterwards (compute computation) host)
  | report (host : Host) (notice : Notice) :
      Step layout allowed host (afterwards (report notice) host)

/-- Any number of permitted steps, one after the other. -/
abbrev Steps (layout : Layout) (allowed : Transfer → Prop) : Host → Host → Prop :=
  Relation.ReflTransGen (Step layout allowed)

/-- From every host, the operation takes permitted steps only, and a value in which it
ends is as described. -/
def Confined {α : Type} (layout : Layout) (allowed : Transfer → Prop) (operation : HostM α)
    (described : α → Prop) : Prop :=
  ∀ host, Steps layout allowed host (afterwards operation host) ∧
    ∀ value, outcome operation host = .ok value → described value

/-- From every walk whose cursor is as expected, the operation takes permitted steps
only, and a value in which it ends is as described together with the cursor it leaves. -/
def Guided {α : Type} (layout : Layout) (allowed : Transfer → Prop) (operation : WalkM α)
    (expected : Cursor → Prop) (described : α → Cursor → Prop) : Prop :=
  ∀ walk, expected walk.cursor →
    Steps layout allowed walk.host (afterwards operation walk).host ∧
      ∀ value, outcome operation walk = .ok value →
        described value (afterwards operation walk).cursor

variable {α β : Type} {layout : Layout} {allowed : Transfer → Prop}

namespace Confined

/-- Returning a value takes no step; what is to be described has to hold of the value. -/
theorem pure {value : α} {described : α → Prop} (holds : described value) :
    Confined layout allowed (pure value) described := by
  intro host
  constructor
  · exact .refl
  · intro other ended
    cases ended
    exact holds

/-- A failure takes no step, and there is no value of which anything would have to hold. -/
theorem throw (failure : Failure) {described : α → Prop} :
    Confined layout allowed (throw failure) described := by
  intro host
  constructor
  · exact .refl
  · intro value ended
    cases ended

/-- What is described of the values may be weakened, with the same steps. -/
theorem mono {operation : HostM α} {described further : α → Prop}
    (confined : Confined layout allowed operation described)
    (implied : ∀ value, described value → further value) :
    Confined layout allowed operation further := by
  intro host
  obtain ⟨steps, known⟩ := confined host
  exact ⟨steps, fun value ended => implied value (known value ended)⟩

/-- What is known of every value in which the operation ends may be added to the
description. The steps stay the same. -/
theorem knowing {operation : HostM α} {described further : α → Prop}
    (confined : Confined layout allowed operation described)
    (known : ∀ host value, outcome operation host = .ok value → further value) :
    Confined layout allowed operation fun value => described value ∧ further value := by
  intro host
  obtain ⟨steps, concluded⟩ := confined host
  exact ⟨steps, fun value ended => ⟨concluded value ended, known host value ended⟩⟩

/-- What two operations in a row do, each of them does: the second one may use what is
described of the value of the first. -/
theorem bind {first : HostM α} {next : α → HostM β} {between : α → Prop} {described : β → Prop}
    (confined : Confined layout allowed first between)
    (continued : ∀ value, between value → Confined layout allowed (next value) described) :
    Confined layout allowed (first >>= next) described := by
  intro host
  obtain ⟨steps, known⟩ := confined host
  cases ended : outcome first host with
  | ok value =>
    rw [afterwards_bind_ok ended, outcome_bind_ok ended]
    obtain ⟨further, concluded⟩ := continued value (known value ended) (afterwards first host)
    exact ⟨steps.trans further, concluded⟩
  | error failure =>
    rw [afterwards_bind_error ended, outcome_bind_error ended]
    exact ⟨steps, fun value impossible => by cases impossible⟩

/-- What stands behind a failure is never run, so nothing has to be known of it. -/
theorem throw_bind (failure : Failure) {next : α → HostM β} {described : β → Prop} :
    Confined layout allowed (MonadExcept.throw failure >>= next) described :=
  Confined.bind (Confined.throw failure) fun _ impossible => False.elim impossible

/-- A test without effects takes no step, and what is known of its value is known behind
it. -/
theorem lift {computation : Except Failure α} {described : α → Prop}
    (known : ∀ value, computation = .ok value → described value) :
    Confined layout allowed (liftM computation) described := by
  intro host
  rw [afterwards_lift, outcome_lift]
  exact ⟨.refl, known⟩

/-- An observed operation takes the steps of the operation. Where it has ended in a value,
the description holds of this. -/
theorem observe {operation : HostM α} {described : α → Prop}
    (confined : Confined layout allowed operation described) :
    Confined layout allowed (FatVolume.observe operation)
      fun ending => ∀ value, ending = .ok value → described value := by
  intro host
  obtain ⟨steps, known⟩ := confined host
  rw [afterwards_observe, outcome_observe]
  constructor
  · exact steps
  · intro ending ended
    cases ended
    exact known

/-- Asking for the host takes no step. What follows must not rely on which host it is. -/
theorem get {described : Host → Prop} (known : ∀ host, described host) :
    Confined layout allowed get described := fun _ => ⟨.refl, fun value _ => known value⟩

/-- What every round of a loop over a list is confined to, the loop is confined to. -/
theorem forM {values : List α} {body : α → HostM Unit}
    (confined : ∀ value ∈ values, Confined layout allowed (body value) fun _ => True) :
    Confined layout allowed (values.forM body) fun _ => True := by
  induction values with
  | nil => exact pure trivial
  | cons first rest inductionHypothesis =>
    change Confined layout allowed (body first >>= fun _ => rest.forM body) _
    apply (confined first List.mem_cons_self).bind
    intro _ _
    exact inductionHypothesis fun value member => confined value (List.mem_cons_of_mem _ member)

/-- An invariant that each element keeps is kept by a fold over a list, each round of
which is confined. -/
theorem foldlM {values : List β} {body : α → β → HostM α} {invariant : α → Prop}
    (kept : ∀ state value, invariant state →
      Confined layout allowed (body state value) invariant) (start : α) (holds : invariant start) :
    Confined layout allowed (values.foldlM body start) invariant := by
  induction values generalizing start with
  | nil => exact pure holds
  | cons first rest inductionHypothesis =>
    rw [List.foldlM_cons]
    exact (kept start first holds).bind inductionHypothesis

/-- A transfer is a step if its sector belongs to the layout and the transfer is allowed. -/
theorem attempt {transfer : Transfer} (owned : layout.Owns transfer.lba)
    (permitted : allowed transfer) :
    Confined layout allowed (attempt transfer) fun _ => True :=
  fun host => ⟨.single (.transfer host transfer owned permitted), fun _ _ => trivial⟩

/-- Noting a computation is a step if the computation is a proper one: its operands are
within the bounds of the layout. -/
theorem compute (computation : Computation) (proper : computation.Proper layout) :
    Confined layout allowed (compute computation) fun _ => True :=
  fun host => ⟨.single (.compute host computation proper), fun _ _ => trivial⟩

/-- Reporting a notice is a step that needs no permission. -/
theorem report (notice : Notice) :
    Confined layout allowed (report notice) fun _ => True :=
  fun host => ⟨.single (.report host notice), fun _ _ => trivial⟩

end Confined

namespace Guided

/-- What is known once the operation has ended in a value: the steps that were taken, and
the description of the value and of the cursor. -/
theorem ran_ok {operation : WalkM α} {expected : Cursor → Prop} {described : α → Cursor → Prop}
    {walk rest : Walk} {value : α} (guided : Guided layout allowed operation expected described)
    (begun : expected walk.cursor) (ran : operation walk = .ok value rest) :
    Steps layout allowed walk.host rest.host ∧ described value rest.cursor := by
  obtain ⟨steps, known⟩ := guided walk begun
  obtain ⟨succeeded, left⟩ := ran_ok_iff.mp ran
  rw [left] at steps known
  exact ⟨steps, known value succeeded⟩

/-- What is known once the operation has failed: the steps that were taken up to the
failure. -/
theorem ran_error {operation : WalkM α} {expected : Cursor → Prop}
    {described : α → Cursor → Prop} {walk rest : Walk} {failure : Failure}
    (guided : Guided layout allowed operation expected described) (begun : expected walk.cursor)
    (ran : operation walk = .error failure rest) : Steps layout allowed walk.host rest.host := by
  obtain ⟨steps, _⟩ := guided walk begun
  rw [(ran_error_iff.mp ran).2] at steps
  exact steps

/-- Returning a value moves no cursor; the description has to hold of the value and of
every expected cursor. -/
theorem pure {value : α} {expected : Cursor → Prop} {described : α → Cursor → Prop}
    (holds : ∀ cursor, expected cursor → described value cursor) :
    Guided layout allowed (pure value) expected described := by
  intro walk begun
  constructor
  · exact .refl
  · intro other ended
    cases ended
    exact holds walk.cursor begun

/-- A failure moves no cursor that anyone could go on with. -/
theorem throw (failure : Failure) {expected : Cursor → Prop} {described : α → Cursor → Prop} :
    Guided layout allowed (throw failure) expected described := by
  intro walk begun
  constructor
  · exact .refl
  · intro value ended
    cases ended

/-- An operation may go on with the cursor that the one in front of it has left, and
expect what was described of that. -/
theorem bind {first : WalkM α} {next : α → WalkM β} {expected : Cursor → Prop}
    {between : α → Cursor → Prop} {described : β → Cursor → Prop}
    (guided : Guided layout allowed first expected between)
    (continued : ∀ value, Guided layout allowed (next value) (between value) described) :
    Guided layout allowed (first >>= next) expected described := by
  intro walk begun
  obtain ⟨steps, known⟩ := guided walk begun
  cases ended : outcome first walk with
  | ok value =>
    rw [afterwards_bind_ok ended, outcome_bind_ok ended]
    obtain ⟨further, concluded⟩ := continued value (afterwards first walk) (known value ended)
    exact ⟨steps.trans further, concluded⟩
  | error failure =>
    rw [afterwards_bind_error ended, outcome_bind_error ended]
    exact ⟨steps, fun value impossible => by cases impossible⟩

/-- An operation on the host leaves the cursor where it is, so what was expected of the
cursor is known behind it. -/
theorem lift {operation : HostM α} {described : α → Prop}
    (confined : Confined layout allowed operation described) (expected : Cursor → Prop) :
    Guided layout allowed (liftM operation) expected
      fun value cursor => described value ∧ expected cursor := by
  intro walk begun
  obtain ⟨steps, known⟩ := confined walk.host
  rw [outcome_liftWalk, afterwards_liftWalk]
  exact ⟨steps, fun value succeeded => ⟨known value succeeded, begun⟩⟩

/-- What the expected cursors imply may be used to follow the operation. There is nothing
to show where no cursor is as expected. -/
theorem given {operation : WalkM α} {expected : Cursor → Prop} {described : α → Cursor → Prop}
    {fact : Prop} (known : ∀ cursor, expected cursor → fact)
    (guided : fact → Guided layout allowed operation expected described) :
    Guided layout allowed operation expected described :=
  fun walk begun => guided (known walk.cursor begun) walk begun

/-- Asking for the walk yields the cursor at hand, which is as expected. -/
theorem get {expected : Cursor → Prop} :
    Guided layout allowed get expected fun walk cursor => walk.cursor = cursor ∧ expected cursor := by
  intro walk begun
  constructor
  · exact .refl
  · intro value ended
    cases ended
    exact ⟨rfl, begun⟩

/-- A change of the cursor alone takes no step, and what follows may expect the changed
cursor. -/
theorem modify_bind {change : Walk → Walk} {next : PUnit → WalkM β} {expected : Cursor → Prop}
    {described : β → Cursor → Prop} (between : Cursor → Prop)
    (still : ∀ walk, (change walk).host = walk.host)
    (moved : ∀ walk, expected walk.cursor → between (change walk).cursor)
    (continued : Guided layout allowed (next ⟨⟩) between described) :
    Guided layout allowed (modify change >>= next) expected described := by
  intro walk begun
  obtain ⟨steps, known⟩ := continued (change walk) (moved walk begun)
  rw [still] at steps
  exact ⟨steps, known⟩

end Guided

/-- An operation with a cursor that is as expected is confined, and what it ends in is
described together with the cursor it leaves. -/
theorem Guided.alongside {operation : WalkM α} {expected : Cursor → Prop}
    {described : α → Cursor → Prop} {cursor : Cursor}
    (guided : Guided layout allowed operation expected described) (begun : expected cursor) :
    Confined layout allowed (cursor.alongside operation)
      fun ending => described ending.1 ending.2 := by
  intro host
  obtain ⟨steps, known⟩ := guided ⟨cursor, host⟩ begun
  rw [Cursor.outcome_alongside, Cursor.afterwards_alongside]
  constructor
  · exact steps
  · intro ending same
    cases ended : outcome operation ⟨cursor, host⟩ with
    | ok value =>
      rw [ended] at same
      cases same
      exact known value ended
    | error failure =>
      rw [ended] at same
      cases same

/-- So is an operation whose cursor is dropped; of the cursor it remains known that there
was one. -/
theorem Guided.along {operation : WalkM α} {expected : Cursor → Prop}
    {described : α → Cursor → Prop} {cursor : Cursor}
    (guided : Guided layout allowed operation expected described) (begun : expected cursor) :
    Confined layout allowed (cursor.along operation) fun value => ∃ rest, described value rest := by
  rw [Cursor.along_eq]
  exact (guided.alongside begun).bind fun ending known => .pure ⟨ending.2, known⟩

end FatVolume
