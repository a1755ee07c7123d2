import FatVolume.Proofs.Spellings

/-!
# Paths that fit their room

Whether a path has an absolute form depends on each name that it enters on the way: what is then
lexically left, the name included, has to fit the room kept for a path. A component that is taken
away again later counts where it is entered. If all of them fit, the absolute form is the text of
what is lexically left in the end. Otherwise the path is too long, and it is never refused for
another reason.
-/

namespace FatVolume.Path

/-- The absolute text of components, in their order. -/
def written (parts : List (List Char)) : List Char := '/' :: ['/'].intercalate parts

/-- A component is no name, or its name fits behind those in front. -/
def HasRoom (front : List (List Char)) (component : List Char) : Prop :=
  component ≠ ['.'] → component ≠ ['.', '.'] →
    Text.utf8Length (written (front ++ [component])) ≤ capacity

instance (front : List (List Char)) (component : List Char) : Decidable (HasRoom front component) :=
  inferInstanceAs (Decidable (_ → _ → _))

/-- Each of some components has room where it is entered, behind those in front. -/
def FitBehind (front entering : List (List Char)) : Prop :=
  ∀ before component behind, entering = before ++ component :: behind →
    HasRoom (before.foldl enter front) component

/-- Each component of a path has room where it is entered, behind what is then lexically left. -/
def Fits (path : List Char) : Prop := FitBehind [] (components path)

/-- Where there is nothing to enter, everything fits behind any components. -/
theorem fitBehind_nil (front : List (List Char)) : FitBehind front [] := by
  intro before component behind divided
  cases before <;> cases divided

/-- Some components fit behind others if the first of them has room there, and the rest
fit behind what is then left of both. -/
theorem fitBehind_cons {front rest : List (List Char)} {first : List Char} :
    FitBehind front (first :: rest) ↔ HasRoom front first ∧ FitBehind (enter front first) rest := by
  constructor
  · intro fits
    refine ⟨fits [] first rest rfl, fun before component behind divided => ?_⟩
    exact fits (first :: before) component behind (congrArg (first :: ·) divided)
  · rintro ⟨here, later⟩ before component behind divided
    cases before with
    | nil =>
      cases divided
      exact here
    | cons other more =>
      cases divided
      exact later more component behind rfl

/-- Whether components have room is found out one by one. -/
def decideFitBehind : (front entering : List (List Char)) → Decidable (FitBehind front entering)
  | front, [] => .isTrue (fitBehind_nil front)
  | front, first :: rest =>
    have := decideFitBehind (enter front first) rest
    decidable_of_iff _ fitBehind_cons.symm

instance (path : List Char) : Decidable (Fits path) := decideFitBehind [] (components path)

/-- The text of the components in front with one more behind them is what the stack shows
when that component is pushed. -/
theorem written_concat (stack : List (List Char)) (component : List Char) :
    written (stack.reverse ++ [component]) = render (component :: stack) := by
  rw [render, List.reverse_cons, written]

/-- A component that has room behind those on the stack can be pushed, be it a name, the
directory itself or the one above. -/
theorem push_of_hasRoom {stack : List (List Char)} {component : List Char}
    (room : HasRoom stack.reverse component) : ∃ pushed, push stack component = .ok pushed := by
  rw [HasRoom, written_concat] at room
  rw [push]
  split_ifs with self parent fits
  · exact ⟨_, rfl⟩
  · exact ⟨_, rfl⟩
  · exact ⟨_, rfl⟩
  · exact absurd (room self parent) fits

/-- A component that has no room behind those on the stack is refused, since the path
would be too long with it. -/
theorem push_crowded {stack : List (List Char)} {component : List Char}
    (crowded : ¬ HasRoom stack.reverse component) :
    push stack component = .error .pathTooLong := by
  rw [HasRoom, written_concat, Classical.not_imp, Classical.not_imp] at crowded
  obtain ⟨notSelf, notParent, outgrown⟩ := crowded
  rw [push, if_neg notSelf, if_neg notParent, if_neg outgrown]

/-- Components are all entered where each of them has room, and otherwise entering them
fails, since the path is too long at one of them. -/
theorem foldlM_push_fits (stack entering : List (List Char)) :
    (FitBehind stack.reverse entering → ∃ after, entering.foldlM push stack = .ok after) ∧
    (¬ FitBehind stack.reverse entering → entering.foldlM push stack = .error .pathTooLong) := by
  -- The first component that has no room ends it, and with each that has, the stack is what the
  -- others are entered behind.
  induction entering generalizing stack with
  | nil => exact ⟨fun _ => ⟨stack, rfl⟩, fun crowded => absurd (fitBehind_nil _) crowded⟩
  | cons first rest inductionHypothesis =>
    rw [List.foldlM_cons, fitBehind_cons]
    by_cases room : HasRoom stack.reverse first
    · obtain ⟨pushed, entered⟩ := push_of_hasRoom room
      rw [entered, ← push_enter entered]
      obtain ⟨onward, refused⟩ := inductionHypothesis pushed
      exact ⟨fun fits => onward fits.2, fun crowded => refused fun later => crowded ⟨room, later⟩⟩
    · rw [push_crowded room]
      exact ⟨fun fits => absurd fits.1 room, fun _ => rfl⟩

/-- A path has an absolute form exactly if each of its components has room where it is entered; it
is otherwise too long. The absolute form is the text of what is lexically left of the path, and
nothing in it can be left out. The normal form of the path is the same text from the root on in
upper case, and there is none only if there is no absolute form. -/
theorem absolute_lexical (path : List Char) :
    (Fits path → absolute path = .ok (written (lexical path))) ∧
    (¬ Fits path → absolute path = .error .pathTooLong) ∧
    (∀ text, absolute path = .ok text → Canonical text ∧ Text.utf8Length text ≤ capacity) ∧
    normalize path = (absolute path).map fun text => Text.upper (text.drop 1) := by
  obtain ⟨entered, refused⟩ := foldlM_push_fits [] (components path)
  refine ⟨fun fits => ?_, fun crowded => ?_, fun text made => ?_, normalize_eq path⟩
  · obtain ⟨stack, reduced⟩ := entered fits
    exact absolute_ok_iff.mpr ⟨stack, reduced, congrArg written (reduce_lexical reduced)⟩
  · rw [absolute_eq, reduce, refused crowded]
    rfl
  · obtain ⟨stack, reduced, rfl⟩ := absolute_ok_iff.mp made
    have sound := reduce_reduced reduced reduced_nil
    exact ⟨canonical_render sound.clean, sound.fits⟩

/-- A name of 255 bytes just has room. With one byte more it has none, even if it is taken away
again. -/
theorem absolute_lexical_brim :
    let brim := ['.', '.', '\\', 'é'] ++ List.replicate 253 'a'
    let beyond := ['é'] ++ List.replicate 254 'a' ++ ['/', '.', '.']
    Fits brim ∧ absolute brim = .ok ('/' :: 'é' :: List.replicate 253 'a') ∧
    Canonical ('/' :: 'é' :: List.replicate 253 'a') ∧
    ¬ Fits beyond ∧ absolute beyond = .error .pathTooLong ∧
    normalize beyond = .error .pathTooLong := by
  intro brim beyond
  obtain ⟨made, _, canonical, _⟩ := absolute_lexical brim
  obtain ⟨_, refused, _, normal⟩ := absolute_lexical beyond
  have fits : Fits brim := by decide +kernel
  have crowded : ¬ Fits beyond := by decide +kernel
  have left : written (lexical brim) = '/' :: 'é' :: List.replicate 253 'a' := by decide +kernel
  rw [left] at made
  refine ⟨fits, made fits, (canonical _ (made fits)).1, crowded, refused crowded, ?_⟩
  rw [normal, refused crowded]
  rfl

end FatVolume.Path
