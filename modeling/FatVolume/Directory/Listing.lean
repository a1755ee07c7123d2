import FatVolume.Directory.Sweep

/-!
# Listing a directory

A listing hands the live entries of a directory to a visitor, in the order in which
they are stored, and as far as the visitor wants to go on. Nothing is read before it is
needed: a visitor that stops leaves the rest of the directory untouched.

A failure ends a listing after the entries that came before it. Those were handed over
all the same, so the visitor's state and the failure are both part of the result.
-/

namespace FatVolume

/-- The entries that a listing shows. -/
inductive Shown where
  /-- Every live entry. -/
  | all
  /-- Every live entry but those that refer to the directory itself and its parent. -/
  | named
  deriving DecidableEq, Repr

/-- The entry belongs to a listing. -/
def Shown.wanted : Shown → Entry → Bool
  | all, _ => true
  | named, entry => !entry.isDot

/-- What a listing has handed over, and the failure that ended it, if one did. -/
structure Delivery (σ : Type) where
  state : σ
  failure : Option Failure

namespace Listing

variable (volume : Volume) (shown : Shown)

/-- The next entry of a listing. A failure finishes it. -/
def next : WalkM (Option Entry) := fun walk =>
  match Cursor.nextEntry volume shown.wanted walk with
  | .ok entry rest => .ok entry rest
  | .error failure rest => .error failure rest.finish

/-- A listed entry has brought the cursor nearer to its end. This is the measure by which
listings end, also in a chain that returns to itself. -/
theorem next_slotsLeft {volume : Volume} {shown : Shown} {walk rest : Walk} {entry : Entry}
    (succeeded : next volume shown walk = .ok (some entry) rest) :
    rest.cursor.slotsLeft volume < walk.cursor.slotsLeft volume := by
  unfold next at succeeded
  split at succeeded <;> cases succeeded
  next found => exact Cursor.nextEntry_slotsLeft found

/-- Hand the entries of a listing to a visitor, one after the other, until the visitor
stops, the listing ends, or it fails. -/
def deliver {σ : Type} (visit : σ → Entry → ForInStep σ) (state : σ) : WalkM (Delivery σ) :=
    fun walk =>
  match _found : next volume shown walk with
  | .error failure rest => .ok ⟨state, some failure⟩ rest
  | .ok none rest => .ok ⟨state, none⟩ rest
  | .ok (some entry) rest =>
    match visit state entry with
    | .done final => .ok ⟨final, none⟩ rest
    | .yield following => deliver visit following rest
termination_by walk => walk.cursor.slotsLeft volume
decreasing_by exact next_slotsLeft _found

/-- Add an entry to those collected, and stop when the limit is reached. -/
def collectEntry (limit : Option Nat) (collected : Array Entry) (entry : Entry) :
    ForInStep (Array Entry) :=
  let more := collected.push entry
  if limit = some more.size then .done more else .yield more

/-- The entries that a reader receives who asks for at most `limit` of them. -/
def collect (limit : Option Nat) : WalkM (Delivery (Array Entry)) :=
  if limit = some 0 then pure ⟨#[], none⟩ else deliver volume shown (collectEntry limit) #[]

end Listing

end FatVolume
