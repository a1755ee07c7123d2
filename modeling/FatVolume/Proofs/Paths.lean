import FatVolume.Path
import FatVolume.Proofs.Names
import Mathlib.Data.List.TakeWhile

/-!
# Paths as sequences of names

A look-up sees of a path only the names to which its components are encoded, or the
failures of those that have none. `Path.names` is this sequence. The part of a path in
front of its last component has the names in front of the last.
-/

namespace FatVolume.Path

/-- What the components of a path are encoded to. -/
def names (path : List Char) : List (Except Failure RawName) :=
  (components path).map ShortName.encode

/-- A text has one piece at least: the empty text is one empty piece. -/
theorem pieces_ne_nil (path : List Char) : pieces path ≠ [] := by
  cases path with
  | nil => simp [pieces]
  | cons first rest =>
    rw [pieces]
    split
    · simp
    · split <;> simp

/-- A separator divides the pieces of a text into those in front of it and those behind
it. Every other fact about pieces comes down to this. -/
theorem pieces_separated {front back : List Char} {separator : Char}
    (separates : Text.isSeparator separator = true) :
    pieces (front ++ separator :: back) = pieces front ++ pieces back := by
  induction front with
  | nil => simp [pieces, separates]
  | cons first rest inductionHypothesis =>
    rw [List.cons_append, pieces, pieces, inductionHypothesis]
    split
    · rfl
    · obtain ⟨piece, more, same⟩ := List.exists_cons_of_ne_nil (pieces_ne_nil rest)
      rw [same]
      rfl

/-- A separator divides the components as it divides the pieces, since components are the
pieces that are not empty. -/
theorem components_separated {front back : List Char} {separator : Char}
    (separates : Text.isSeparator separator = true) :
    components (front ++ separator :: back) = components front ++ components back := by
  rw [components, pieces_separated separates, List.filter_append, components, components]

/-- Separators alone make no component, however many of them stand in a row. -/
theorem components_separators {separators : List Char}
    (separate : ∀ separator ∈ separators, Text.isSeparator separator = true) :
    components separators = [] := by
  induction separators with
  | nil => rfl
  | cons first rest inductionHypothesis =>
    have divided : components ([] ++ first :: rest) = components [] ++ components rest :=
      components_separated (separate first List.mem_cons_self)
    rw [List.nil_append] at divided
    rw [divided, inductionHypothesis fun other member => separate other (List.mem_cons_of_mem _ member)]
    rfl

/-- Separators at the end add no component, so a path with a trailing slash names what it
names without. -/
theorem components_trailing {path separators : List Char}
    (separate : ∀ separator ∈ separators, Text.isSeparator separator = true) :
    components (path ++ separators) = components path := by
  cases separators with
  | nil => rw [List.append_nil]
  | cons first rest =>
    rw [components_separated (separate first List.mem_cons_self),
      components_separators fun other member => separate other (List.mem_cons_of_mem _ member),
      List.append_nil]

/-- A text without separators is one piece, namely itself. -/
theorem pieces_single {leaf : List Char}
    (joined : ∀ character ∈ leaf, Text.isSeparator character = false) : pieces leaf = [leaf] := by
  induction leaf with
  | nil => rfl
  | cons first rest inductionHypothesis =>
    rw [pieces, joined first List.mem_cons_self,
      inductionHypothesis fun other member => joined other (List.mem_cons_of_mem _ member)]
    rfl

/-- A text without separators is one component, unless it is empty. -/
theorem components_single {leaf : List Char} (nonempty : leaf ≠ [])
    (joined : ∀ character ∈ leaf, Text.isSeparator character = false) :
    components leaf = [leaf] := by
  obtain ⟨first, rest, rfl⟩ := List.exists_cons_of_ne_nil nonempty
  rw [components, pieces_single joined]
  rfl

/-- A text that ends in a component is divided in front of that component. Read backwards,
the component is what stands before the first separator. -/
theorem components_reversed {first : Char} {rest : List Char}
    (opens : Text.isSeparator first = false) :
    components (first :: rest).reverse =
      components (((first :: rest).dropWhile (!Text.isSeparator ·)).drop 1).reverse ++
        [((first :: rest).takeWhile (!Text.isSeparator ·)).reverse] := by
  have nonempty : ((first :: rest).takeWhile (!Text.isSeparator ·)).reverse ≠ [] := by
    simp [opens]
  have joined : ∀ character ∈ ((first :: rest).takeWhile (!Text.isSeparator ·)).reverse,
      Text.isSeparator character = false := fun character member => by
    simpa using List.mem_takeWhile_imp (List.mem_reverse.mp member)
  have whole := List.takeWhile_append_dropWhile (p := (!Text.isSeparator ·)) (l := first :: rest)
  generalize first :: rest = backwards at *
  cases remains : backwards.dropWhile (!Text.isSeparator ·) with
  | nil =>
    rw [remains, List.append_nil] at whole
    rw [whole] at nonempty joined ⊢
    exact components_single nonempty joined
  | cons separator others =>
    have separates : Text.isSeparator separator = true := by
      have stops := List.head?_dropWhile_not (!Text.isSeparator ·) backwards
      rw [remains] at stops
      simpa using stops
    have text : backwards.reverse =
        others.reverse ++ separator :: (backwards.takeWhile (!Text.isSeparator ·)).reverse := by
      calc
        backwards.reverse = (backwards.takeWhile (!Text.isSeparator ·) ++ separator :: others).reverse := by
          rw [← remains, whole]
        _ = others.reverse ++ separator :: (backwards.takeWhile (!Text.isSeparator ·)).reverse := by
          rw [List.reverse_append, List.reverse_cons, List.append_assoc]
          rfl
    rw [text, components_separated separates, components_single nonempty joined]
    rfl

/-- Where a path has a last component, its components are those of what stands in front of
it, and that one. -/
theorem components_of_splitLeaf {path front leaf : List Char}
    (divided : splitLeaf path = some (front, leaf)) :
    components path = components front ++ [leaf] := by
  have whole : path = (path.reverse.dropWhile Text.isSeparator).reverse ++
      (path.reverse.takeWhile Text.isSeparator).reverse := by
    rw [← List.reverse_append, List.takeWhile_append_dropWhile, List.reverse_reverse]
  have trailing : ∀ separator ∈ (path.reverse.takeWhile Text.isSeparator).reverse,
      Text.isSeparator separator = true := fun separator member =>
    List.mem_takeWhile_imp (List.mem_reverse.mp member)
  have opens := List.head?_dropWhile_not Text.isSeparator path.reverse
  rw [whole, components_trailing trailing]
  simp only [splitLeaf] at divided
  cases reversed : path.reverse.dropWhile Text.isSeparator with
  | nil =>
    rw [reversed] at divided
    cases divided
  | cons first rest =>
    rw [reversed] at divided opens
    cases divided
    exact components_reversed opens

/-- The short names of a path are divided in the same way: those in front of the last
component, and the one it is encoded to. -/
theorem names_of_splitLeaf {path front leaf : List Char}
    (divided : splitLeaf path = some (front, leaf)) :
    names path = names front ++ [ShortName.encode leaf] := by
  rw [names, components_of_splitLeaf divided, List.map_append, List.map_singleton, names]

end FatVolume.Path
