import FatVolume.ListingRecord
import FatVolume.Proofs.Reduction
import FatVolume.ShortName

/-!
# Cuts of texts

A path is cut in front of its last component and at the separators behind it, and a component
at its first dot. An absolute text is cut behind its first slash when it is brought into normal
form, and in front of its last one when the path goes up. The name of a record is cut where its
room ends.

Each cut takes a part of the text as it stands there. Nothing is taken from behind the end of
the text, and where characters are cut apart, none of them is divided.
-/

namespace FatVolume.Text

/-- Whatever is cut out of the text stands in it: the text is put together again from the parts
that are kept and those that are left out. -/
structure CutsInside (text : List Char) : Prop where
  /-- An absolute form begins with the slash behind which its normal form is taken. -/
  normal : ∀ absolute, Path.absolute text = .ok absolute → ∃ rest, absolute = '/' :: rest
  /-- Of an absolute text the front is kept when it goes up, and its first slash at least. -/
  upward : ∀ rest, text = '/' :: rest →
    ∃ kept behind, Path.ascend text = '/' :: kept ∧ text = '/' :: kept ++ behind
  /-- Between the last component and the path in front of it one separator is left out. -/
  leaf : ∀ front leaf, Path.splitLeaf text = some (front, leaf) →
    ∃ divider behind, divider.length ≤ 1 ∧ text = front ++ divider ++ leaf ++ behind
  /-- Between the stem of a component and its extension one dot is left out. -/
  dotted : ∃ divider, divider.length ≤ 1 ∧
    utf8 text = (utf8 text).takeWhile (· != ShortName.dot) ++ divider ++
      ((utf8 text).dropWhile (· != ShortName.dot)).drop 1
  /-- A record takes the first bytes of a name, and has room for one zero byte behind them. -/
  recorded : ∀ kind size, ∃ shown behind, utf8 text = shown ++ behind ∧ shown.length < 64 ∧
    (ListingRecord.ofParts text kind size).name = ListingRecord.nameField shown

/-- An absolute text that goes up is cut behind its first character at the earliest, so
the slash at its front is never cut off. -/
theorem ascend_absolute (rest : List Char) :
    ∃ kept behind, Path.ascend ('/' :: rest) = '/' :: kept ∧ '/' :: rest = '/' :: kept ++ behind := by
  rw [Path.ascend]
  obtain ⟨more, least⟩ := Nat.exists_eq_add_of_le' (Nat.le_max_left 1
    ((('/' :: rest).reverse.dropWhile (· != '/')).length - 1))
  rw [least]
  exact ⟨rest.take more, rest.drop more, rfl,
    congrArg ('/' :: ·) (List.take_append_drop more rest).symm⟩

/-- The last component stands behind the path in front of it and at most one separator. It is
found from the end of the text, so the parts are put together in reverse. -/
theorem splitLeaf_parts {text front leaf : List Char}
    (divided : Path.splitLeaf text = some (front, leaf)) :
    ∃ divider behind, divider.length ≤ 1 ∧ text = front ++ divider ++ leaf ++ behind := by
  simp only [Path.splitLeaf] at divided
  generalize trimmed : text.reverse.dropWhile isSeparator = reversed at divided
  split at divided
  · cases divided
  · cases divided
    generalize rest : reversed.dropWhile (!isSeparator ·) = others
    refine ⟨(others.take 1).reverse, (text.reverse.takeWhile isSeparator).reverse, ?_, ?_⟩
    · rw [List.length_reverse]
      exact List.length_take_le 1 others
    · have whole : text.reverse = text.reverse.takeWhile isSeparator ++
          (reversed.takeWhile (!isSeparator ·) ++ (others.take 1 ++ others.drop 1)) := by
        rw [List.take_append_drop, ← rest, List.takeWhile_append_dropWhile, ← trimmed,
          List.takeWhile_append_dropWhile]
      rw [← List.reverse_append, ← List.reverse_append, ← List.reverse_append, ← whole,
        List.reverse_reverse]

/-- Every text is cut inside, as a path, as a component and as a name that is shown. No
cut is made behind the end of what is cut. -/
theorem cutsInside (text : List Char) : CutsInside text where
  normal absolute reduced := by
    obtain ⟨stack, _, rfl⟩ := Path.absolute_ok_iff.mp reduced
    exact ⟨_, rfl⟩
  upward rest same := same ▸ ascend_absolute rest
  leaf _ _ divided := splitLeaf_parts divided
  dotted := by
    refine ⟨((utf8 text).dropWhile (· != ShortName.dot)).take 1, List.length_take_le _ _, ?_⟩
    rw [List.append_assoc, List.take_append_drop, List.takeWhile_append_dropWhile]
  recorded kind size := by
    refine ⟨(utf8 text).take 63, (utf8 text).drop 63, (List.take_append_drop 63 _).symm, ?_, rfl⟩
    exact Nat.lt_of_le_of_lt (List.length_take_le 63 _) (by decide)

end FatVolume.Text
