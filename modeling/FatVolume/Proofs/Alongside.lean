import FatVolume.Directory.Sweep
import FatVolume.Proofs.Outcome

/-!
# Operations that move a cursor, as operations on a host

A walk joins a cursor to the host that it reads from. `alongside` takes the cursor out of
the state and returns it with the value instead, so that what is known of operations on a
host applies to operations that move a cursor. A cursor that has met a failure is dropped.
-/

namespace FatVolume

variable {α β : Type}

namespace Cursor

/-- Run operations that move a cursor, and return the cursor with their value. -/
def alongside (cursor : Cursor) (operation : WalkM α) : HostM (α × Cursor) := fun host =>
  match operation ⟨cursor, host⟩ with
  | .ok value rest => .ok (value, rest.cursor) rest.host
  | .error failure rest => .error failure rest.host

/-- Dropping the cursor is running the operation beside it and keeping the value alone. -/
theorem along_eq (cursor : Cursor) (operation : WalkM α) :
    cursor.along operation = cursor.alongside operation >>= fun ending => pure ending.1 := by
  funext host
  change _ = EStateM.bind _ _ host
  simp only [along, alongside, EStateM.bind]
  cases operation ⟨cursor, host⟩ <;> rfl

/-- Running two operations beside a cursor is running the first beside it and the second
beside the cursor that the first one left. -/
theorem alongside_bind (cursor : Cursor) (operation : WalkM α) (next : α → WalkM β) :
    cursor.alongside (operation >>= next) =
      cursor.alongside operation >>= fun ending => ending.2.alongside (next ending.1) := by
  funext host
  change _ = EStateM.bind _ _ host
  have sequence : (operation >>= next) ⟨cursor, host⟩ = EStateM.bind operation next ⟨cursor, host⟩ :=
    rfl
  unfold alongside
  rw [sequence]
  simp only [EStateM.bind]
  cases operation ⟨cursor, host⟩ <;> rfl

/-- An operation on the host that is run beside a cursor hands the cursor on unchanged. -/
theorem alongside_lift (cursor : Cursor) (operation : HostM α) :
    cursor.alongside (liftM operation) = operation >>= fun value => pure (value, cursor) := by
  funext host
  change _ = EStateM.bind _ _ host
  simp only [alongside, EStateM.bind]
  dsimp only [liftM, monadLift, MonadLift.monadLift]
  cases operation host <;> rfl

section Parts

variable (cursor : Cursor) (operation : WalkM α) (host : Host)

/-- Beside a cursor an operation ends as it does on the walk of the cursor and the host,
together with the cursor of the walk it leaves. -/
@[simp] theorem outcome_alongside :
    outcome (cursor.alongside operation) host =
      (outcome operation ⟨cursor, host⟩).map fun value =>
        (value, (afterwards operation ⟨cursor, host⟩).cursor) := by
  simp only [outcome, afterwards, alongside]
  cases operation ⟨cursor, host⟩ <;> rfl

/-- The host that an operation beside a cursor leaves is the host of the walk that it
leaves. -/
@[simp] theorem afterwards_alongside :
    afterwards (cursor.alongside operation) host = (afterwards operation ⟨cursor, host⟩).host := by
  simp only [afterwards, alongside]
  cases operation ⟨cursor, host⟩ <;> rfl

end Parts

/-- What an operation beside a cursor comes to, it comes to on the walk: the value and the
cursor determine a successful run. -/
theorem ran_of_alongside {operation : WalkM α} {cursor moved : Cursor} {host : Host} {value : α}
    (ended : outcome (cursor.alongside operation) host = .ok (value, moved)) :
    ∃ rest, operation ⟨cursor, host⟩ = .ok value rest ∧ rest.cursor = moved := by
  simp only [outcome, alongside] at ended
  cases ran : operation ⟨cursor, host⟩ with
  | ok found rest =>
    rw [ran] at ended
    cases ended
    exact ⟨rest, rfl, rfl⟩
  | error failure rest =>
    rw [ran] at ended
    cases ended

/-- What an operation comes to whose cursor is dropped, it comes to on the walk. Some
cursor was left there. -/
theorem ran_of_along {operation : WalkM α} {cursor : Cursor} {host : Host} {value : α}
    (ended : outcome (cursor.along operation) host = .ok value) :
    ∃ rest, operation ⟨cursor, host⟩ = .ok value rest := by
  simp only [outcome, along] at ended
  cases ran : operation ⟨cursor, host⟩ with
  | ok found rest =>
    rw [ran] at ended
    cases ended
    exact ⟨rest, rfl⟩
  | error failure rest =>
    rw [ran] at ended
    cases ended

end Cursor

/-- An operation on the host ends alike when it is run beside a cursor, since it cannot
see the cursor. -/
theorem outcome_liftWalk (operation : HostM α) (walk : Walk) :
    outcome (liftM operation : WalkM α) walk = outcome operation walk.host := by
  simp only [outcome]
  dsimp only [liftM, monadLift, MonadLift.monadLift]
  cases operation walk.host <;> rfl

/-- An operation on the host that is run beside a cursor changes the host of the walk and
nothing else. -/
theorem afterwards_liftWalk (operation : HostM α) (walk : Walk) :
    afterwards (liftM operation : WalkM α) walk =
      { walk with host := afterwards operation walk.host } := by
  simp only [afterwards]
  dsimp only [liftM, monadLift, MonadLift.monadLift]
  cases operation walk.host <;> rfl

end FatVolume
