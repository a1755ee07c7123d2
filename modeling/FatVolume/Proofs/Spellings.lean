import FatVolume.Proofs.Reduction

/-!
# Spellings of one path

A path can be spelled in many ways: with either separator and any number of them, with
components that are taken away again, in either case, and with a dot behind a name that has
no other one. A look-up sees of it only the short names of the components that are lexically
left, and these do not depend on the spelling.

The case of ASCII letters is folded for characters, for the bytes of a component and for stored
bytes. The three agree because a byte below 128 stands for a character of its own.
-/

namespace FatVolume

namespace Text

/-- Upper case is a matter of 26 byte values: those of the small letters are lowered by
32, and all others stay. -/
theorem toNat_upperByte (byte : UInt8) :
    (upperByte byte).toNat =
      if 97 ≤ byte.toNat ∧ byte.toNat ≤ 122 then byte.toNat - 32 else byte.toNat := by
  revert byte
  apply forall_byte
  decide +kernel

/-- A character below 128 is stored as one byte, with its own number. -/
theorem utf8EncodeChar_low {character : Char} (low : character.toNat < 128) :
    String.utf8EncodeChar character = [UInt8.ofNat character.toNat] :=
  if_pos (Nat.le_of_lt_succ low)

/-- The bytes as which any character from 128 on is stored are themselves 128 or more. -/
theorem utf8EncodeChar_high {character : Char} (high : 128 ≤ character.toNat) :
    ∀ byte ∈ String.utf8EncodeChar character, 128 ≤ byte.toNat := by
  have large : ¬ character.val.toNat ≤ 127 := by
    change ¬ character.toNat ≤ 127
    omega
  intro byte member
  simp only [String.utf8EncodeChar, if_neg large] at member
  split at member
  · simp only [List.mem_cons, List.not_mem_nil, or_false] at member
    rcases member with rfl | rfl <;> simp <;> omega
  split at member
  · simp only [List.mem_cons, List.not_mem_nil, or_false] at member
    rcases member with rfl | rfl | rfl <;> simp <;> omega
  · simp only [List.mem_cons, List.not_mem_nil, or_false] at member
    rcases member with rfl | rfl | rfl | rfl <;> simp <;> omega

/-- Two texts that are put together are stored as the bytes of the one and then those of
the other. -/
theorem utf8_append (front back : List Char) : utf8 (front ++ back) = utf8 front ++ utf8 back :=
  List.flatMap_append

/-- Characters of ASCII are stored one byte each, with their own numbers. -/
theorem utf8_ascii {text : List Char} (ascii : ∀ character ∈ text, character.toNat < 128) :
    utf8 text = text.map fun character => UInt8.ofNat character.toNat := by
  induction text with
  | nil => rfl
  | cons first rest inductionHypothesis =>
    obtain ⟨low, others⟩ := List.forall_mem_cons.mp ascii
    rw [utf8, List.flatMap_cons, ← utf8, utf8EncodeChar_low low,
      inductionHypothesis others]
    rfl

/-- A byte below 128 is among those of a text if and only if the character with that
number is among those of the text. -/
theorem mem_utf8_iff {text : List Char} {byte : UInt8} (low : byte.toNat < 128) :
    byte ∈ utf8 text ↔ ∃ character ∈ text, character.toNat = byte.toNat := by
  rw [utf8, List.mem_flatMap]
  refine exists_congr fun character => and_congr_right fun _ => ?_
  by_cases single : character.toNat < 128
  · rw [utf8EncodeChar_low single, List.mem_singleton, ← UInt8.toNat_inj, UInt8.toNat_ofNat',
      Nat.mod_eq_of_lt (by omega)]
    exact eq_comm
  · constructor
    · intro member
      have high := utf8EncodeChar_high (Nat.not_lt.mp single) byte member
      omega
    · omega

/-- The bytes of a text in upper case are the bytes of the text, each of them in upper
case. -/
theorem utf8_upper (text : List Char) : utf8 (upper text) = (utf8 text).map upperByte := by
  have single (character : Char) : String.utf8EncodeChar character.toUpper =
      (String.utf8EncodeChar character).map upperByte := by
    have raised := toNat_toUpper character
    by_cases low : character.toNat < 128
    · have byte : character.toNat % 2 ^ 8 = character.toNat := Nat.mod_eq_of_lt (by omega)
      rw [utf8EncodeChar_low low, utf8EncodeChar_low (by rw [raised]; split <;> omega),
        List.map_singleton, List.singleton_inj, ← UInt8.toNat_inj, toNat_upperByte,
        UInt8.toNat_ofNat', UInt8.toNat_ofNat', raised, byte]
      split <;> omega
    · have kept : character.toUpper = character :=
        Char.toNat_inj.mp (raised.trans (if_neg (by omega)))
      rw [kept, List.map_congr_left (g := id), List.map_id]
      intro byte member
      have high := utf8EncodeChar_high (Nat.not_lt.mp low) byte member
      rw [← UInt8.toNat_inj, toNat_upperByte, if_neg (by omega), id]
  induction text with
  | nil => rfl
  | cons first rest inductionHypothesis =>
    rw [upper, List.map_cons, ← upper, utf8, List.flatMap_cons, ← utf8, single,
      inductionHypothesis, utf8, utf8, List.flatMap_cons, List.map_append]

end Text

namespace ShortName

/-- A byte is allowed in a name in upper case if and only if it is allowed as it stands. -/
theorem isAllowed_upperByte (byte : UInt8) : isAllowed (Text.upperByte byte) = isAllowed byte := by
  revert byte
  apply Text.forall_byte
  decide +kernel

/-- A byte is a dot in upper case if and only if it is one, since a dot is no letter. -/
theorem isDot_upperByte (byte : UInt8) : (Text.upperByte byte != dot) = (byte != dot) := by
  revert byte
  apply Text.forall_byte
  decide +kernel

/-- A part in upper case is encoded as the part is, since its bytes are stored in upper
case anyway. -/
theorem encodePart_map_upperByte (width : Nat) (bytes : List UInt8) :
    encodePart width (bytes.map Text.upperByte) = encodePart width bytes := by
  have allowed : (bytes.map Text.upperByte).all isAllowed = bytes.all isAllowed := by
    rw [List.all_map]
    exact congrArg bytes.all (funext isAllowed_upperByte)
  rw [encodePart, allowed, encodePart]
  split
  · congr 3
    funext position
    rw [List.getElem?_map, Option.map_map]
    cases bytes[position.val]? with
    | none => rfl
    | some byte => exact Text.upperByte_upperByte byte
  · rfl

/-- A component in upper case is encoded as the component is, or refused for the same
reason: its case is not stored. -/
theorem encode_upper (component : List Char) : encode (Text.upper component) = encode component := by
  simp only [encode]
  rw [Text.utf8_upper, List.takeWhile_map, List.dropWhile_map, ← List.map_drop]
  have same : ((· != dot) ∘ Text.upperByte) = (· != dot) := funext isDot_upperByte
  rw [same]
  simp only [List.isEmpty_map, List.length_map, encodePart_map_upperByte]

/-- A component without the dot at its end, if it has no other one. -/
def undotted (component : List Char) : List Char :=
  if component.getLast? = some '.' ∧ '.' ∉ component.dropLast then component.dropLast
  else component

/-- Components that spell one name: they are the same up to the case of ASCII letters and up to
a dot at the end of one that has no other dot. -/
def Alike (left right : List Char) : Prop :=
  Text.upper (undotted left) = Text.upper (undotted right)

instance (left right : List Char) : Decidable (Alike left right) :=
  inferInstanceAs (Decidable (Text.upper (undotted left) = Text.upper (undotted right)))

/-- A text without a dot has no byte that is one, since no other character is stored with
that byte. -/
theorem dot_notMem_utf8 {text : List Char} (undotted : '.' ∉ text) : dot ∉ Text.utf8 text := by
  intro member
  obtain ⟨character, inside, same⟩ := (Text.mem_utf8_iff (by decide)).mp member
  obtain rfl : character = '.' := Char.toNat_inj.mp same
  exact undotted inside

/-- A component is encoded as it is without a dot at its end, which only divides the stem
from an empty extension. -/
theorem encode_undotted (component : List Char) : encode (undotted component) = encode component := by
  rw [undotted]
  split
  · next ends =>
    obtain ⟨last, others⟩ := ends
    obtain ⟨front, rfl⟩ := List.getLast?_eq_some_iff.mp last
    rw [List.dropLast_concat] at others ⊢
    have plain : ∀ byte ∈ Text.utf8 front, (byte != dot) = true := fun byte member =>
      bne_iff_ne.mpr fun same => dot_notMem_utf8 others (same ▸ member)
    have stem : (Text.utf8 front).takeWhile (· != dot) = Text.utf8 front :=
      List.takeWhile_eq_self_iff.mpr plain
    have nothing : (Text.utf8 front).dropWhile (· != dot) = [] :=
      List.dropWhile_eq_nil_iff.mpr plain
    have bytes : Text.utf8 (front ++ ['.']) = Text.utf8 front ++ [dot] := Text.utf8_append _ _
    simp only [encode]
    rw [bytes, List.takeWhile_append_of_pos plain, List.dropWhile_append_of_pos plain, stem, nothing]
    simp
  · rfl

/-- Components that are alike are encoded as the same name, or are refused for the same
reason. -/
theorem encode_congr {left right : List Char} (alike : Alike left right) :
    encode left = encode right := by
  rw [← encode_undotted, ← encode_upper, alike, encode_upper, encode_undotted]

end ShortName

namespace Path

/-- What a component makes of those before it: a dot leaves them as they are, and two dots take
the last one away. -/
def enter (front : List (List Char)) (component : List Char) : List (List Char) :=
  if component = ['.'] then front
  else if component = ['.', '.'] then front.dropLast
  else front ++ [component]

/-- The components of a path in which `.` and `..` have been carried out. -/
def lexical (path : List Char) : List (List Char) := (components path).foldl enter []

/-- Pushing a component onto a stack, where it is not refused, is entering it lexically
behind the components from the bottom on. -/
theorem push_enter {stack pushed : List (List Char)} {component : List Char}
    (entered : push stack component = .ok pushed) :
    pushed.reverse = enter stack.reverse component := by
  simp only [push] at entered
  rw [enter]
  split at entered
  next self =>
    cases entered
    rw [if_pos self]
  next notSelf =>
  rw [if_neg notSelf]
  split at entered
  next above =>
    cases entered
    rw [if_pos above, List.dropLast_reverse]
  next notParent =>
  rw [if_neg notParent]
  split at entered
  · cases entered
    rw [List.reverse_cons]
  · cases entered

/-- A path that can be reduced from the root is reduced to the components that are
lexically left of it. -/
theorem reduce_lexical {path : List Char} {stack : List (List Char)}
    (reduced : reduce [] path = .ok stack) : stack.reverse = lexical path := by
  have folded (entering : List (List Char)) {before after : List (List Char)}
      (ended : entering.foldlM push before = .ok after) :
      after.reverse = entering.foldl enter before.reverse := by
    -- Where a push is not refused, it is the lexical step, so the two stay in step.
    induction entering generalizing before with
    | nil =>
      cases ended
      rfl
    | cons first rest inductionHypothesis =>
      rw [List.foldlM_cons] at ended
      obtain ⟨pushed, entered, ended⟩ := ok_of_bind ended
      rw [inductionHypothesis ended, push_enter entered, List.foldl_cons]
  exact folded _ reduced

/-- The names of a normal form are those of the components that are lexically left of the
path, each of them encoded. -/
theorem names_lexical {path normal : List Char} (normalized : normalize path = .ok normal) :
    names normal = (lexical path).map ShortName.encode := by
  obtain ⟨stack, reduced, same⟩ := names_normalize normalized
  rw [same, reduce_lexical reduced]
  exact List.map_congr_left fun component _ => ShortName.encode_upper component

/-- Of a path with one more component that is a name, what was left of the path is
lexically left, and that name behind it. -/
theorem lexical_concat {path component : List Char} (named : IsName component) :
    lexical (path ++ '/' :: component) = lexical path ++ [component] := by
  rw [lexical, components_separated rfl, components_single named.nonempty named.joined,
    List.foldl_append, ← lexical]
  exact (if_neg named.notSelf).trans (if_neg named.notParent)

/-- The names of a path with one more component are those of the path, and behind them
that of the component. -/
theorem names_joined {path component normal further : List Char}
    (normalized : normalize path = .ok normal)
    (fits : normalize (path ++ '/' :: component) = .ok further) (named : IsName component) :
    names further = names normal ++ [ShortName.encode component] := by
  rw [names_lexical fits, names_lexical normalized, lexical_concat named, List.map_append,
    List.map_singleton]

end Path

end FatVolume
