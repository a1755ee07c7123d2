import FatVolume.Failure
import FatVolume.Text

/-!
# Paths

A path is a text whose components are the maximal runs of characters between
separators. Reduction edits an absolute text in place, component by component:
`.` changes nothing, `..` cuts the text off at its last slash and stays at the root
when there is nothing to cut, and any other component is put at the end, behind a
slash. Whatever is put there has to fit the room kept for a path, counted in bytes;
a path that outgrows it on the way is refused even if later components would
shorten it again.

The absolute form keeps the case of its components. The normal form is
relative to the root and in upper case, as directory look-up expects.
-/

namespace FatVolume.Path

/-- The most bytes a reduced path may have. -/
def capacity : Nat := 256

/-- The pieces of a text between separators, empty pieces included. -/
def pieces : List Char → List (List Char)
  | [] => [[]]
  | first :: rest =>
    if Text.isSeparator first then [] :: pieces rest
    else match pieces rest with
      | [] => [[first]]
      | piece :: more => (first :: piece) :: more

/-- The components of a path: its non-empty pieces, in order. -/
def components (path : List Char) : List (List Char) := (pieces path).filter (!·.isEmpty)

/-- A path divided before its last component: the text in front of the separator
that precedes it, and the component itself. None when there is no component. -/
def splitLeaf (path : List Char) : Option (List Char × List Char) :=
  let reversed := path.reverse.dropWhile Text.isSeparator
  if reversed.isEmpty then none
  else
    let leaf := reversed.takeWhile (!Text.isSeparator ·)
    let front := (reversed.dropWhile (!Text.isSeparator ·)).drop 1
    some (front.reverse, leaf.reverse)

/-- A text with more behind it. It is refused where both together do not fit the room kept for a
path. -/
def extend (text more : List Char) : Except Failure (List Char) :=
  if Text.utf8Length (text ++ more) ≤ capacity then .ok (text ++ more) else .error .pathTooLong

/-- An absolute text cut off in front of its last slash, or behind it if it is the first one. -/
def ascend (text : List Char) : List Char :=
  text.take (max 1 ((text.reverse.dropWhile (· != '/')).length - 1))

/-- The effect of one component on an absolute text. -/
def advance (text component : List Char) : Except Failure (List Char) :=
  if component = ['.'] then .ok text
  else if component = ['.', '.'] then .ok (ascend text)
  else do
    let opened ← if 1 < Text.utf8Length text then extend text ['/'] else pure text
    extend opened component

/-- The absolute text after all components of a path, started from a given one. -/
def travel (text path : List Char) : Except Failure (List Char) :=
  (components path).foldlM advance text

/-- The absolute form of a path, its case kept. -/
def absolute (path : List Char) : Except Failure (List Char) := travel ['/'] path

/-- The absolute form of a path seen from the directory `base`. A path that starts
with a separator does not depend on `base`. -/
def join (base relative : List Char) : Except Failure (List Char) := do
  let start ← if relative.head?.any Text.isSeparator then pure ['/'] else travel ['/'] base
  travel start relative

/-- The form of a path that look-up expects: relative to the root, in upper case. -/
def normalize (path : List Char) : Except Failure (List Char) := do
  ((← absolute path).drop 1).foldlM (fun text character => extend text [character.toUpper]) []

end FatVolume.Path
