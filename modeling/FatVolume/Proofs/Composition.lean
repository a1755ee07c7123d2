import FatVolume.Proofs.Fitting
import FatVolume.Task

/-!
# How paths are put together

The text of a stack that a path can be reduced to is reduced to this stack again: its components
are names, and what they need on the way is at no point more than the whole text has. So is its
text from the root on, and so is either of them in upper case. Absolute and normal forms are
therefore fixed, and a path may be gone along in one step or in several: the text that stands in
between is as good as the path that led to it, and if a step outgrows the room of a path, so does
the whole.
-/

namespace FatVolume

namespace Text

/-- A character in upper case has no other upper case: converting it once more leaves it
as it is. -/
theorem toUpper_toUpper (character : Char) : character.toUpper.toUpper = character.toUpper := by
  rw [← Char.toNat_inj, toNat_toUpper, toNat_toUpper]
  split_ifs <;> omega

/-- A text in upper case is left as it is when it is converted once more, character by
character. -/
theorem upper_upper (text : List Char) : upper (upper text) = upper text := by
  rw [upper, upper, List.map_map]
  exact List.map_congr_left fun character _ => toUpper_toUpper character

/-- A character becomes a dot in upper case only if it is one, since a dot is no letter. -/
theorem toUpper_eq_dot_iff (character : Char) : character.toUpper = '.' ↔ character = '.' := by
  rw [← Char.toNat_inj, ← Char.toNat_inj, toNat_toUpper]
  change _ = 46 ↔ _ = 46
  split_ifs <;> omega

end Text

namespace Path

/-! ## Upper case of a stack -/

/-- Components that are joined by slashes are converted to upper case one by one, as a
slash is its own upper case. -/
theorem upper_intercalate (parts : List (List Char)) :
    Text.upper (['/'].intercalate parts) = ['/'].intercalate (parts.map Text.upper) := by
  induction parts with
  | nil => rfl
  | cons first rest inductionHypothesis =>
    cases rest with
    | nil => rw [List.map_singleton, List.intercalate_singleton, List.intercalate_singleton]
    | cons second more =>
      rw [List.map_cons] at inductionHypothesis ⊢
      rw [List.map_cons, List.intercalate_cons_cons, List.intercalate_cons_cons,
        ← inductionHypothesis, Text.upper, List.map_append, List.map_append]
      rfl

/-- The text of a stack in upper case is the text of the stack of its components in upper
case. -/
theorem upper_render (stack : List (List Char)) :
    Text.upper (render stack) = render (stack.map Text.upper) := by
  rw [render, render, ← List.map_reverse, ← upper_intercalate]
  rfl

/-- The name of a component is still one in upper case: it is not empty, holds no
separator, and stands for neither this directory nor the one above. -/
theorem IsName.upper {component : List Char} (named : IsName component) :
    IsName (Text.upper component) where
  nonempty := by simpa [Text.upper] using named.nonempty
  joined character member := by
    obtain ⟨lower, inside, rfl⟩ := List.mem_map.mp member
    rw [Text.isSeparator_toUpper]
    exact named.joined lower inside
  notSelf same := named.notSelf <| by
    simpa [Text.upper, List.map_eq_cons_iff, Text.toUpper_eq_dot_iff] using same
  notParent same := named.notParent <| by
    simpa [Text.upper, List.map_eq_cons_iff, Text.toUpper_eq_dot_iff] using same

/-- A reduced stack is still reduced in upper case, since its components are names there
and its text is as long as before. -/
theorem Reduced.upper {stack : List (List Char)} (reduced : Reduced stack) :
    Reduced (stack.map Text.upper) where
  clean := by
    rw [List.forall_mem_map]
    exact fun below member => (reduced.clean below member).upper
  fits := by
    rw [← upper_render, Text.utf8Length_upper]
    exact reduced.fits

/-! ## Texts that are reduced already -/

/-- Entering the names of a reduced stack one by one, from the root on, gives the stack
itself, since its text fits and so does that of each part. -/
theorem Reduced.foldlM_push {stack : List (List Char)} (reduced : Reduced stack) :
    stack.reverse.foldlM push [] = .ok stack := by
  -- What is below the top is reduced itself, and its names are entered before the top is.
  induction stack with
  | nil => rfl
  | cons component rest inductionHypothesis =>
    obtain ⟨named, clean⟩ := List.forall_mem_cons.mp reduced.clean
    have below : Reduced rest :=
      ⟨clean, Nat.le_trans (utf8Length_render_tail (component :: rest)) reduced.fits⟩
    have entered : push rest component = .ok (component :: rest) := by
      rw [push, if_neg named.notSelf, if_neg named.notParent, if_pos reduced.fits]
    rw [List.reverse_cons, List.foldlM_append, inductionHypothesis below]
    change push rest component >>= pure = _
    rw [entered]
    rfl

/-- The text of a reduced stack without its first slash leads from the root to the text of
the stack itself. -/
theorem Reduced.absolute_relative {stack : List (List Char)} (reduced : Reduced stack) :
    absolute ((render stack).drop 1) = .ok (render stack) := by
  refine absolute_ok_iff.mpr ⟨stack, ?_, rfl⟩
  rw [reduce, components_render fun below member => (reduced.clean below member).toIsComponent]
  exact reduced.foldlM_push

/-- The text of a reduced stack is its own absolute form, since no component stands in
front of its first slash. -/
theorem Reduced.absolute_render {stack : List (List Char)} (reduced : Reduced stack) :
    absolute (render stack) = .ok (render stack) := by
  have opened : components ([] ++ '/' :: (render stack).drop 1) =
      components [] ++ components ((render stack).drop 1) := components_separated rfl
  have relative := reduced.absolute_relative
  rw [absolute, travel] at relative ⊢
  exact opened ▸ relative

/-! ## One step and several -/

/-- Joining to a base and then joining once more gives what joining both paths, put
together with a slash between them, gives at once. -/
theorem join_join {base first second : List Char} (some : first ≠ [])
    (inward : second.head?.any Text.isSeparator = false) :
    (join base first >>= fun target => join target second) =
      join base (first ++ '/' :: second) := by
  have opens : (first ++ '/' :: second).head? = first.head? := by
    obtain ⟨character, rest, rfl⟩ := List.exists_cons_of_ne_nil some
    rfl
  have whole : join base (first ++ '/' :: second) =
      join base first >>= fun target => travel target second := by
    rw [join, opens, join]
    split
    · exact travel_separated rfl
    · cases travel ['/'] base with
      | error failure => rfl
      | ok start => exact travel_separated rfl
  rw [whole]
  refine bind_congr_ok fun target joined => ?_
  -- on the left the text that stands in between is gone along again, which leads to itself
  obtain ⟨stack, reduced, rfl⟩ := join_ok joined
  have fixed := reduced.absolute_render
  rw [absolute] at fixed
  rw [join, if_neg (by rw [inward]; exact Bool.false_ne_true), fixed]
  rfl

/-- Making a path absolute can be refused for one reason only: some part of it does not
fit into the length that a path may have. -/
theorem absolute_error {path : List Char} {failure : Failure}
    (refused : absolute path = .error failure) : failure = .pathTooLong := by
  obtain ⟨entered, crowded⟩ := foldlM_push_fits [] (components path)
  rw [absolute_eq, reduce] at refused
  by_cases fits : FitBehind [] (components path)
  · obtain ⟨stack, reduced⟩ := entered fits
    rw [reduced] at refused
    cases refused
  · rw [crowded fits] at refused
    cases refused
    rfl

/-- Joining a path to a base can be refused for one reason only: some part of it does not
fit into the length that a path may have. -/
theorem join_error {base relative : List Char} {failure : Failure}
    (refused : join base relative = .error failure) : failure = .pathTooLong := by
  by_cases rooted : relative.head?.any Text.isSeparator = true
  · exact absolute_error (join_rooted rooted ▸ refused)
  · exact absolute_error (join_relative (Bool.eq_false_iff.mpr rooted) ▸ refused)

/-- Absolute and normal forms are fixed, and an absolute form has the normal form of its path. To
join a path to a directory is to put it behind a slash, unless it starts at the root. Two paths one
after another lead where they lead when they are put together, or are refused as too long just
then, for any base and so for any task. -/
theorem paths_compose :
    (∀ path normal, normalize path = .ok normal → normalize normal = .ok normal) ∧
    (∀ path target, absolute path = .ok target →
      absolute target = .ok target ∧ normalize target = normalize path) ∧
    (∀ base relative, join base relative =
      if relative.head?.any Text.isSeparator then absolute relative
      else absolute (base ++ '/' :: relative)) ∧
    (∀ base first second, first ≠ [] → second.head?.any Text.isSeparator = false →
      (join base first >>= fun target => join target second) =
        join base (first ++ '/' :: second)) ∧
    (∀ (task : Task) first second, first ≠ [] → second.head?.any Text.isSeparator = false →
      (task.resolve first >>= fun target => Task.resolve { directory := target } second) =
        task.resolve (first ++ '/' :: second)) ∧
    ∀ base relative failure, join base relative = .error failure → failure = .pathTooLong := by
  refine ⟨fun path normal normalized => ?_, fun path target made => ?_, fun base relative => ?_,
    fun base first second => join_join, fun task first second => join_join,
    fun base relative failure => join_error⟩
  · obtain ⟨stack, reduced, rfl⟩ := normalize_ok_iff.mp normalized
    -- The normal form is the text of a reduced stack in upper case, and such a text leads back to
    -- itself.
    have raised := (reduce_reduced reduced reduced_nil).upper
    have text : Text.upper ((render stack).drop 1) = (render (stack.map Text.upper)).drop 1 := by
      rw [← upper_render, Text.upper, Text.upper, List.map_drop]
    have relative := raised.absolute_relative
    rw [← text] at relative
    rw [normalize_eq, relative]
    change Except.ok (Text.upper ((render (stack.map Text.upper)).drop 1)) = _
    rw [← text, Text.upper_upper]
  · obtain ⟨stack, reduced, rfl⟩ := absolute_ok_iff.mp made
    have fixed := (reduce_reduced reduced reduced_nil).absolute_render
    exact ⟨fixed, by rw [normalize_eq, fixed, normalize_eq, made]⟩
  · split
    next rooted => exact join_rooted rooted
    next inward => exact join_relative (Bool.eq_false_iff.mpr inward)

/-- A path that is longer than its room is refused in one step as in two, even if the second step
goes back up. -/
theorem paths_compose_crowded :
    let first := ['b', '\\', 'c']
    let second := ['.', '.', '/', 'D']
    let crowd := List.replicate 256 'a'
    normalize first = .ok ['B', '/', 'C'] ∧ normalize ['B', '/', 'C'] = .ok ['B', '/', 'C'] ∧
    absolute first = .ok ['/', 'b', '/', 'c'] ∧
    absolute ['/', 'b', '/', 'c'] = .ok ['/', 'b', '/', 'c'] ∧
    first ≠ [] ∧ crowd ≠ [] ∧ second.head?.any Text.isSeparator = false ∧
    (join ['/', 'x'] first >>= fun target => join target second) =
      .ok ['/', 'x', '/', 'b', '/', 'D'] ∧
    join ['/', 'x'] (first ++ '/' :: second) = .ok ['/', 'x', '/', 'b', '/', 'D'] ∧
    Task.resolve { directory := ['/', 'x'] } (first ++ '/' :: second) =
      .ok ['/', 'x', '/', 'b', '/', 'D'] ∧
    join ['/', 'x'] crowd = .error .pathTooLong ∧
    join ['/', 'x'] (crowd ++ '/' :: second) = .error .pathTooLong := by
  intro first second crowd
  obtain ⟨fixed, stands, _, steps, tasks, _⟩ := paths_compose
  have normal : normalize first = .ok ['B', '/', 'C'] := by decide +kernel
  have made : absolute first = .ok ['/', 'b', '/', 'c'] := by decide +kernel
  have some : first ≠ [] := by decide
  have crowded : crowd ≠ [] := by decide
  have inward : second.head?.any Text.isSeparator = false := by decide
  have along : (join ['/', 'x'] first >>= fun target => join target second) =
      .ok ['/', 'x', '/', 'b', '/', 'D'] := by decide +kernel
  have outgrown : join ['/', 'x'] crowd = .error .pathTooLong := by decide +kernel
  refine ⟨normal, fixed _ _ normal, made, (stands _ _ made).1, some, crowded, inward, along,
    (steps _ _ _ some inward).symm.trans along, (tasks ⟨['/', 'x']⟩ _ _ some inward).symm.trans along,
    outgrown, (steps _ _ _ crowded inward).symm.trans ?_⟩
  rw [outgrown]
  rfl

end Path

end FatVolume
