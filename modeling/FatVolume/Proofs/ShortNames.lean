import FatVolume.Proofs.Spellings
import Mathlib.Data.List.Basic

/-!
# The grammar of short names

A component has a short name exactly if it is a stem, or a stem and an extension with a dot between
them, both of visible ASCII apart from a few characters. A name that is stored is shown as the
component in upper case, without a dot that nothing stands behind, and what is shown is encoded to
the same name again. So two components have one name only if they are alike.

No such name marks a slot as free, and none is that of the directory itself or of its parent.
-/

namespace FatVolume

namespace ShortName

/-- Visible characters that stand in neither part of a component. -/
def reserved : List Char :=
  ['.', '/', '\\', '"', '*', '+', ',', ':', ';', '<', '=', '>', '?', '[', ']', '|']

/-- The character is one of visible ASCII that can stand in a part of a component. -/
def Admits (character : Char) : Prop :=
  0x21 ≤ character.toNat ∧ character.toNat ≤ 0x7E ∧ character ∉ reserved

instance (character : Char) : Decidable (Admits character) :=
  inferInstanceAs (Decidable (_ ∧ _ ∧ _))

/-- The characters can be a part of a component for which so much room is kept. -/
structure IsPart (width : Nat) (part : List Char) : Prop where
  fits : part.length ≤ width
  admitted : ∀ character ∈ part, Admits character

instance (width : Nat) (part : List Char) : Decidable (IsPart width part) :=
  have : Decidable (∀ character ∈ part, Admits character) := List.decidableBAll Admits part
  decidable_of_iff (part.length ≤ width ∧ ∀ character ∈ part, Admits character)
    ⟨fun both => ⟨both.1, both.2⟩, fun short => ⟨short.fits, short.admitted⟩⟩

/-- The components that have a short name. -/
inductive Spelled : List Char → Prop
  | bare {stem : List Char} (short : IsPart 8 stem) (some : stem ≠ []) : Spelled stem
  | dotted {stem extension : List Char} (short : IsPart 8 stem) (some : stem ≠ [])
      (behind : IsPart 3 extension) : Spelled (stem ++ '.' :: extension)

/-- The part of a component in front of its first dot. -/
def stem (component : List Char) : List Char := component.takeWhile (· != '.')

/-- The part of a component behind its first dot. -/
def extension (component : List Char) : List Char := (component.dropWhile (· != '.')).drop 1

/-- A component without a dot is all stem and has no extension, and any other is divided
by its first dot into both. -/
theorem divided (component : List Char) :
    (stem component = component ∧ extension component = []) ∨
      stem component ++ '.' :: extension component = component := by
  have whole : stem component ++ component.dropWhile (· != '.') = component :=
    List.takeWhile_append_dropWhile
  have stops := List.head?_dropWhile_not (· != '.') component
  rw [extension]
  cases rest : component.dropWhile (· != '.') with
  | nil =>
    rw [rest, List.append_nil] at whole
    exact .inl ⟨whole, rfl⟩
  | cons first more =>
    rw [rest] at stops whole
    obtain rfl : first = '.' := by simpa using stops
    exact .inr whole

/-! ## Characters and their bytes -/

/-- An ASCII byte is allowed in a name if and only if it is visible and none of the
reserved characters. -/
theorem isAllowed_ofNat : ∀ number < 128, isAllowed (.ofNat number) = true ↔
    0x21 ≤ number ∧ number ≤ 0x7E ∧ number ∉ reserved.map Char.toNat := by
  decide +kernel

/-- A byte that is allowed in a name is one of ASCII. -/
theorem isAllowed_low : ∀ byte : UInt8, isAllowed byte = true → byte.toNat < 128 := by
  apply Text.forall_byte
  decide +kernel

/-- A character that is admitted in a part of a component is one of ASCII. -/
theorem Admits.low {character : Char} (admits : Admits character) : character.toNat < 128 :=
  Nat.lt_succ_of_le (Nat.le_succ_of_le admits.2.1)

/-- A character that is admitted in a part of a component is none of the reserved ones. -/
theorem Admits.apart {character other : Char} (admits : Admits character)
    (member : other ∈ reserved) : character ≠ other := fun same => admits.2.2 (same ▸ member)

/-- A character that is admitted in a part of a component is no dot, which divides the
parts. -/
theorem Admits.ne_dot {character : Char} (admits : Admits character) : character ≠ '.' :=
  admits.apart (by decide)

/-- A character that is admitted in a part of a component is no separator, so that it
stands within one component. -/
theorem Admits.joined {character : Char} (admits : Admits character) :
    Text.isSeparator character = false := by
  rw [Text.isSeparator, Bool.or_eq_false_iff, beq_eq_false_iff_ne, beq_eq_false_iff_ne]
  exact ⟨admits.apart (by decide), admits.apart (by decide)⟩

/-- All bytes of a character are allowed in a name if and only if the character is
admitted, since other characters have bytes outside of ASCII. -/
theorem allowed_utf8EncodeChar_iff (character : Char) :
    (∀ byte ∈ String.utf8EncodeChar character, isAllowed byte = true) ↔ Admits character := by
  have same : character.toNat ∉ reserved.map Char.toNat ↔ character ∉ reserved := by
    rw [List.mem_map_of_injective fun _ _ => Char.toNat_inj.mp]
  by_cases low : character.toNat < 128
  · rw [Text.utf8EncodeChar_low low, List.forall_mem_singleton, isAllowed_ofNat _ low, same, Admits]
  · refine iff_of_false (fun allowed => ?_) fun admits => low admits.low
    obtain ⟨byte, member⟩ := List.exists_mem_of_ne_nil (String.utf8EncodeChar character)
      (List.ne_nil_of_length_pos (by
        rw [String.length_utf8EncodeChar]
        exact character.utf8Size_pos))
    have high := Text.utf8EncodeChar_high (Nat.not_lt.mp low) byte member
    have low := isAllowed_low byte (allowed byte member)
    omega

/-- All bytes of a text are allowed in a name if and only if each of its characters is
admitted. -/
theorem all_isAllowed_iff (text : List Char) :
    (Text.utf8 text).all isAllowed = true ↔ ∀ character ∈ text, Admits character := by
  simp only [List.all_eq_true, Text.utf8, List.mem_flatMap, forall_exists_index, and_imp,
    ← allowed_utf8EncodeChar_iff]
  exact ⟨fun allowed character inside byte member => allowed byte character inside member,
    fun allowed byte character inside member => allowed character inside byte member⟩

/-- Each character of a part is stored as one byte with its own number. -/
theorem IsPart.utf8 {width : Nat} {part : List Char} (short : IsPart width part) :
    Text.utf8 part = part.map fun character => .ofNat character.toNat :=
  Text.utf8_ascii fun character member => (short.admitted character member).low

/-- A text is a part for so much room if and only if its bytes fit and are all allowed. -/
theorem isPart_iff {width : Nat} {part : List Char} :
    (Text.utf8 part).length ≤ width ∧ (Text.utf8 part).all isAllowed = true ↔ IsPart width part := by
  rw [all_isAllowed_iff]
  constructor
  · rintro ⟨fits, admitted⟩
    rw [Text.utf8_ascii fun character member => (admitted character member).low, List.length_map] at fits
    exact ⟨fits, admitted⟩
  · intro short
    rw [short.utf8, List.length_map]
    exact ⟨short.fits, short.admitted⟩

/-- Dividing a component at its first dot and storing both parts is dividing its bytes at
the first one that is a dot. -/
theorem utf8_divided (component : List Char) :
    (Text.utf8 component).takeWhile (· != dot) = Text.utf8 (stem component) ∧
    ((Text.utf8 component).dropWhile (· != dot)).drop 1 = Text.utf8 (extension component) := by
  have plain : ∀ byte ∈ Text.utf8 (stem component), (byte != dot) = true := by
    intro byte member
    refine bne_iff_ne.mpr ?_
    rintro rfl
    refine dot_notMem_utf8 (fun inside => ?_) member
    have other := List.mem_takeWhile_imp inside
    cases other
  rcases divided component with ⟨same, none⟩ | same
  · have bytes : Text.utf8 component = Text.utf8 (stem component) := by rw [same]
    rw [bytes, List.takeWhile_eq_self_iff.mpr plain, List.dropWhile_eq_nil_iff.mpr plain, none]
    exact ⟨rfl, rfl⟩
  · have bytes : Text.utf8 component =
        Text.utf8 (stem component) ++ dot :: Text.utf8 (extension component) :=
      (congrArg Text.utf8 same.symm).trans (Text.utf8_append _ _)
    rw [bytes, List.takeWhile_append_of_pos plain, List.dropWhile_append_of_pos plain]
    exact ⟨List.append_nil _, rfl⟩

/-! ## What is accepted -/

/-- No character of a part is a dot. -/
theorem IsPart.plain {width : Nat} {part : List Char} (short : IsPart width part) :
    ∀ character ∈ part, (character != '.') = true := fun character member =>
  bne_iff_ne.mpr (short.admitted character member).ne_dot

/-- A part by itself, as it has no dot, is all stem and has no extension. -/
theorem IsPart.bare {width : Nat} {part : List Char} (short : IsPart width part) :
    stem part = part ∧ extension part = [] := by
  rw [stem, extension, List.takeWhile_eq_self_iff.mpr short.plain,
    List.dropWhile_eq_nil_iff.mpr short.plain]
  exact ⟨rfl, rfl⟩

/-- A part with a dot and some characters behind it has the part as its stem and those
characters as its extension. -/
theorem IsPart.dotted {width : Nat} {part : List Char} (short : IsPart width part)
    (behind : List Char) :
    stem (part ++ '.' :: behind) = part ∧ extension (part ++ '.' :: behind) = behind := by
  rw [stem, extension, List.takeWhile_append_of_pos short.plain,
    List.dropWhile_append_of_pos short.plain]
  exact ⟨List.append_nil part, rfl⟩

/-- A component is spelled as a short name if and only if its stem is a part of one to
eight characters and its extension one of three at most. -/
theorem spelled_iff {component : List Char} :
    Spelled component ↔
      stem component ≠ [] ∧ IsPart 8 (stem component) ∧ IsPart 3 (extension component) := by
  constructor
  · intro spelled
    cases spelled with
    | bare short some =>
      rw [short.bare.1, short.bare.2]
      exact ⟨some, short, Nat.zero_le _, by simp⟩
    | @dotted front ending short some behind =>
      rw [(short.dotted ending).1, (short.dotted ending).2]
      exact ⟨some, short, behind⟩
  · rintro ⟨some, short, behind⟩
    rcases divided component with ⟨same, _⟩ | same
    · exact same ▸ .bare short some
    · exact same ▸ .dotted short some behind

instance (component : List Char) : Decidable (Spelled component) :=
  decidable_of_iff _ spelled_iff.symm

/-- A component is encoded as a name if and only if it is spelled as one and the name
consists of its stem and its extension, each padded to its room. -/
theorem encode_ok_iff {component : List Char} {name : RawName} :
    encode component = .ok name ↔ Spelled component ∧
      padded 8 (Text.utf8 (stem component)) ++ padded 3 (Text.utf8 (extension component)) = name := by
  obtain ⟨front, behind⟩ := utf8_divided component
  simp only [encode]
  rw [front, behind, spelled_iff]
  constructor
  · intro encoded
    split at encoded
    · cases encoded
    next some =>
    split at encoded
    · cases encoded
    next short =>
    obtain ⟨stemPart, stemmed, encoded⟩ := ok_of_bind encoded
    split at encoded
    · cases encoded
    next brief =>
    obtain ⟨extensionPart, extended, encoded⟩ := ok_of_bind encoded
    obtain ⟨allowed, rfl⟩ := encodePart_ok_iff.mp stemmed
    obtain ⟨allowed', rfl⟩ := encodePart_ok_iff.mp extended
    refine ⟨⟨fun none => some ?_, isPart_iff.mp ⟨Nat.not_lt.mp short, allowed⟩,
      isPart_iff.mp ⟨Nat.not_lt.mp brief, allowed'⟩⟩, Except.ok.inj encoded⟩
    rw [none]
    rfl
  · rintro ⟨⟨some, short, brief⟩, rfl⟩
    obtain ⟨fits, allowed⟩ := isPart_iff.mpr short
    obtain ⟨fits', allowed'⟩ := isPart_iff.mpr brief
    have filled : ¬ (Text.utf8 (stem component)).isEmpty = true := by
      rw [short.utf8, List.isEmpty_map, List.isEmpty_iff]
      exact some
    rw [if_neg filled, if_neg (Nat.not_lt.mpr fits), encodePart_ok_iff.mpr ⟨allowed, rfl⟩]
    change (if 3 < (Text.utf8 (extension component)).length then _ else _) = _
    rw [if_neg (Nat.not_lt.mpr fits'), encodePart_ok_iff.mpr ⟨allowed', rfl⟩]
    rfl

/-- A component that can be encoded is a name, neither empty nor one of those that stand
for a directory itself or the one above. -/
theorem isName_of_encode {component : List Char} {name : RawName}
    (encoded : encode component = .ok name) : Path.IsName component := by
  have spelled := (encode_ok_iff.mp encoded).1
  have some : stem component ≠ [] := (spelled_iff.mp spelled).1
  constructor
  case toIsComponent =>
    refine ⟨fun none => some (by rw [none]; rfl), fun character member => ?_⟩
    cases spelled with
    | bare short => exact (short.admitted character member).joined
    | dotted short _ behind =>
      rcases List.mem_append.mp member with inStem | later
      · exact (short.admitted character inStem).joined
      · rcases List.mem_cons.mp later with rfl | inExtension
        · rfl
        · exact (behind.admitted character inExtension).joined
  case notSelf =>
    rintro rfl
    exact some rfl
  case notParent =>
    rintro rfl
    exact some rfl

/-- A part of a component is refused for one reason only: it makes the component a bad
one. -/
theorem encodePart_error {width : Nat} {bytes : List UInt8} {failure : Failure}
    (refused : encodePart width bytes = .error failure) : failure = .badComponent := by
  rw [encodePart] at refused
  split at refused
  · cases refused
  · cases refused
    rfl

/-- A component is refused as too long only where its stem has more than eight bytes or
its extension more than three. -/
theorem encode_nameTooLong {component : List Char}
    (refused : encode component = .error .nameTooLong) :
    8 < Text.utf8Length (stem component) ∨ 3 < Text.utf8Length (extension component) := by
  obtain ⟨front, behind⟩ := utf8_divided component
  simp only [encode] at refused
  rw [front, behind, Text.length_utf8, Text.length_utf8] at refused
  split at refused
  · cases refused
  split at refused
  · next long => exact .inl long
  cases stemmed : encodePart 8 (Text.utf8 (stem component)) with
  | error failure =>
    rw [stemmed, encodePart_error stemmed] at refused
    cases refused
  | ok stemPart =>
  rw [stemmed] at refused
  change (if _ then _ else _) = _ at refused
  split at refused
  · next long => exact .inr long
  cases extended : encodePart 3 (Text.utf8 (extension component)) with
  | error failure =>
    rw [extended, encodePart_error extended] at refused
    cases refused
  | ok extensionPart =>
    rw [extended] at refused
    cases refused

/-! ## What is shown -/

/-- Bytes that fit are padded to some width by putting them down in upper case with spaces
behind them. -/
theorem toList_padded {width : Nat} {bytes : List UInt8} (fits : bytes.length ≤ width) :
    (padded width bytes).toList =
      bytes.map Text.upperByte ++ List.replicate (width - bytes.length) padding := by
  apply List.ext_getElem
  · simp [padded]
    omega
  · intro position _ _
    by_cases inside : position < bytes.length
    · simp [padded, inside]
    · rw [List.getElem_append_right (by simpa using inside), List.getElem_replicate]
      simp [padded, inside]

/-- An allowed ASCII byte is stored as something other than a space, and is shown as its
character in upper case. -/
theorem shown_ofNat : ∀ number < 128, isAllowed (.ofNat number) = true →
    Text.upperByte (.ofNat number) ≠ padding ∧
      displayByte (Text.upperByte (.ofNat number)) = (Char.ofNat number).toUpper := by
  decide +kernel

/-- An admitted character is stored as something other than a space, and is shown as the
same character in upper case. -/
theorem Admits.shown {character : Char} (admits : Admits character) :
    Text.upperByte (.ofNat character.toNat) ≠ padding ∧
      displayByte (Text.upperByte (.ofNat character.toNat)) = character.toUpper := by
  have allowed := (allowed_utf8EncodeChar_iff character).mpr admits
  rw [Text.utf8EncodeChar_low admits.low, List.forall_mem_singleton] at allowed
  have shown := shown_ofNat _ admits.low allowed
  rwa [Char.ofNat_toNat] at shown

/-- A part that is padded to its room is shown in upper case, without the spaces behind
it. -/
theorem displayPart_padded {width : Nat} {part : List Char} (short : IsPart width part) :
    displayPart (padded width (Text.utf8 part)).toList = Text.upper part := by
  have visible : ∀ byte ∈ (Text.utf8 part).map Text.upperByte, (byte != padding) = true := by
    rw [short.utf8, List.map_map, List.forall_mem_map]
    exact fun character member => bne_iff_ne.mpr (short.admitted character member).shown.1
  rw [displayPart, toList_padded (isPart_iff.mpr short).1, List.takeWhile_append_of_pos visible,
    List.takeWhile_replicate, if_neg (by simp), List.append_nil, short.utf8, List.map_map,
    List.map_map]
  exact List.map_congr_left fun character member => (short.admitted character member).shown.2

/-- A part is stored as spaces only if and only if it is empty. -/
theorem blank_padded {width : Nat} {part : List Char} (short : IsPart width part) :
    (padded width (Text.utf8 part)).toList.all (· == padding) = true ↔ part = [] := by
  rw [toList_padded (isPart_iff.mpr short).1]
  cases part with
  | nil => simp [Text.utf8]
  | cons first rest =>
    have shown := (short.admitted first List.mem_cons_self).shown.1
    simp [short.utf8, shown]

/-- A name is shown as its stem in upper case, and with a dot and its extension in upper
case if it has one. -/
theorem display_padded {stem extension : List Char} (short : IsPart 8 stem)
    (brief : IsPart 3 extension) :
    display (padded 8 (Text.utf8 stem) ++ padded 3 (Text.utf8 extension)) =
      Text.upper (if extension = [] then stem else stem ++ '.' :: extension) := by
  have front : (padded 8 (Text.utf8 stem) ++ padded 3 (Text.utf8 extension)).toList.take 8 =
      (padded 8 (Text.utf8 stem)).toList := by
    rw [Vector.toList_append, List.take_left' Vector.length_toList]
  have behind : (padded 8 (Text.utf8 stem) ++ padded 3 (Text.utf8 extension)).toList.drop 8 =
      (padded 3 (Text.utf8 extension)).toList := by
    rw [Vector.toList_append, List.drop_left' Vector.length_toList]
  simp only [display]
  rw [front, behind, displayPart_padded short, displayPart_padded brief]
  by_cases none : extension = []
  · rw [if_pos ((blank_padded brief).mpr none), if_pos none]
  · rw [if_neg (mt (blank_padded brief).mp none), if_neg none, Text.upper, Text.upper, Text.upper,
      List.map_append]
    rfl

/-- From a component that is spelled as a short name, nothing is left out but a dot at its
end. -/
theorem Spelled.undotted {component : List Char} (spelled : Spelled component) :
    ShortName.undotted component =
      if extension component = [] then stem component
      else stem component ++ '.' :: extension component := by
  have undotted_last {text part : List Char} {width : Nat} (short : IsPart width part)
      (same : text.getLast? = part.getLast?) : ShortName.undotted text = text := by
    refine if_neg fun ends => ?_
    have last : '.' ∈ part := List.mem_of_getLast? (same ▸ ends.1)
    exact (short.admitted '.' last).ne_dot rfl
  cases spelled with
  | bare short some =>
    rw [short.bare.1, short.bare.2, if_pos rfl, undotted_last short rfl]
  | @dotted front ending short some behind =>
    rw [(short.dotted ending).1, (short.dotted ending).2]
    split
    · next none =>
      subst none
      have others : '.' ∉ front := fun inside => (short.admitted '.' inside).ne_dot rfl
      rw [ShortName.undotted, if_pos ⟨List.getLast?_concat, by rwa [List.dropLast_concat]⟩,
        List.dropLast_concat]
    · next shown =>
      refine undotted_last behind ?_
      obtain ⟨first, rest, rfl⟩ := List.exists_cons_of_ne_nil shown
      rw [List.getLast?_append_cons, List.getLast?_cons_cons]

/-- The name that a component is encoded as is shown as that component in upper case,
without a dot at its end. -/
theorem display_encode {component : List Char} {name : RawName}
    (encoded : encode component = .ok name) : display name = Text.upper (undotted component) := by
  obtain ⟨spelled, rfl⟩ := encode_ok_iff.mp encoded
  obtain ⟨_, short, brief⟩ := spelled_iff.mp spelled
  -- both sides leave out the dot exactly where the extension is empty
  rw [display_padded short brief, spelled.undotted]

/-- A component has a short name exactly if it is a stem, or a stem and an extension with a dot
between them; it is too long only if a part is. The name is shown as the component in upper case
without a dot at its end, and what is shown has this name. A name is in upper case, its first byte
marks no slot, and it is none of those by which a directory refers to itself and to its parent. So a
record with this name whose attributes do not mark it as a label is a live entry. Other components
have the same name exactly if they are alike. -/
theorem encode_exact (component : List Char) :
    ((∃ name, encode component = .ok name) ↔ Spelled component) ∧
    (encode component = .error .nameTooLong →
      8 < Text.utf8Length (stem component) ∨ 3 < Text.utf8Length (extension component)) ∧
    ∀ name, encode component = .ok name →
      display name = Text.upper (undotted component) ∧
      encode (display name) = .ok name ∧
      Canonical name ∧ name ≠ self ∧ name ≠ parent ∧
      (∀ record : Record, (Slot.fields record).name = name →
        (Slot.fields record).attributes &&& Attributes.volumeLabel ≠ Attributes.volumeLabel →
        Slot.decode record = .live (Slot.fields record) ∧
          (Slot.fields record).isDot = false) ∧
      ∀ other further, encode other = .ok further → (further = name ↔ Alike other component) := by
  refine ⟨?_, encode_nameTooLong, fun name encoded => ?_⟩
  · simp only [encode_ok_iff, exists_and_left, exists_eq', and_true]
  -- A canonical name begins with an admitted byte, which sets it apart from all that is special in
  -- a slot.
  have canonical := encode_canonical encoded
  have shown := display_encode encoded
  have notSelf : name ≠ self := by
    rintro rfl
    exact canonical.dotted rfl
  have notParent : name ≠ parent := by
    rintro rfl
    exact canonical.dotted rfl
  refine ⟨shown, ?_, canonical, notSelf, notParent,
    fun record named unlabelled => ⟨Slot.decode_live ⟨?_, ?_, unlabelled⟩, ?_⟩,
    fun other further encoded' => ⟨?_, fun alike => ?_⟩⟩
  · rw [shown, encode_upper, encode_undotted, encoded]
  · rw [named]
    exact canonical.marked
  · rw [named]
    exact canonical.erased
  · rw [Entry.isDot, named, Bool.or_eq_false_iff, beq_eq_false_iff_ne, beq_eq_false_iff_ne]
    exact ⟨notSelf, notParent⟩
  · rintro rfl
    rw [Alike, ← display_encode encoded', shown]
  · have same := encode_congr alike
    rw [encoded, encoded'] at same
    exact Except.ok.inj same

/-- A dot at the end and the case of letters are not stored. An extension of four bytes is too
long. -/
theorem encode_exact_mixed :
    let component := ['M', 'i', 'x', '.']
    let other := ['m', 'I', 'X']
    let crowd := ['a', '.', 'h', 't', 'm', 'l']
    let name : RawName := #v[0x4D, 0x49, 0x58, 0x20, 0x20, 0x20, 0x20, 0x20, 0x20, 0x20, 0x20]
    let record := (Entry.directory name 2).encode
    encode component = .ok name ∧ Spelled component ∧ encode other = .ok name ∧
    display name = ['M', 'I', 'X'] ∧ encode ['M', 'I', 'X'] = .ok name ∧
    (Slot.fields record).name = name ∧
    (Slot.fields record).attributes &&& Attributes.volumeLabel ≠ Attributes.volumeLabel ∧
    Slot.decode record = .live (Slot.fields record) ∧ Alike other component ∧
    encode crowd = .error .nameTooLong ∧
    (8 < Text.utf8Length (stem crowd) ∨ 3 < Text.utf8Length (extension crowd)) := by
  intro component other crowd name record
  obtain ⟨accepted, _, told⟩ := encode_exact component
  obtain ⟨_, tooLong, _⟩ := encode_exact crowd
  have encoded : encode component = .ok name := by decide +kernel
  have encoded' : encode other = .ok name := by decide +kernel
  have refused : encode crowd = .error .nameTooLong := by decide +kernel
  obtain ⟨shown, again, _, _, _, stored, alike⟩ := told name encoded
  have upper : display name = ['M', 'I', 'X'] := shown.trans (by decide)
  have named : (Slot.fields record).name = name := congrArg Entry.name (Slot.fields_encode _)
  have unlabelled : (Slot.fields record).attributes &&& Attributes.volumeLabel ≠
      Attributes.volumeLabel := by decide +kernel
  exact ⟨encoded, accepted.mp ⟨name, encoded⟩, encoded', upper, upper ▸ again, named, unlabelled,
    (stored record named unlabelled).1, (alike other name encoded').mp rfl, refused,
    tooLong refused⟩

end ShortName

end FatVolume
