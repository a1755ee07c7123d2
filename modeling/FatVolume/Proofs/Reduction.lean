import FatVolume.Proofs.Paths

/-!
# Reduced paths

The absolute text that is edited on the way through a path is at each point the text of a stack
of components, on which `..` removes the top and any other name is pushed. The text alone tells
where a component on it ends, because none of them has a slash.

The stack to which a path is reduced holds components of the path, and the text of the
stack is divided into just these again, also in upper case. The names of a normal form are
therefore those of the stack, and two dots behind a path take the last name away.
-/

namespace FatVolume

namespace Text

/-- Upper case is a matter of 26 numbers: those of the small letters are lowered by 32,
and all others stay. -/
theorem toNat_toUpper (character : Char) :
    character.toUpper.toNat =
      if 97 ≤ character.toNat ∧ character.toNat ≤ 122 then character.toNat - 32
      else character.toNat := by
  have lower : (character.val ≥ 'a'.val ∧ character.val ≤ 'z'.val) ↔
      97 ≤ character.toNat ∧ character.toNat ≤ 122 :=
    and_congr UInt32.le_iff_toNat_le UInt32.le_iff_toNat_le
  by_cases letter : character.val ≥ 'a'.val ∧ character.val ≤ 'z'.val
  · obtain ⟨valid, shifted⟩ : ∃ valid, character.toUpper =
        ⟨character.val + ('A'.val - 'a'.val), valid⟩ := ⟨_, dif_pos letter⟩
    obtain ⟨low, high⟩ := lower.mp letter
    rw [if_pos ⟨low, high⟩, shifted]
    change (character.val + ('A'.val - 'a'.val)).toNat = _
    rw [UInt32.toNat_add]
    change (character.toNat + 4294967264) % 4294967296 = _
    omega
  · have kept : character.toUpper = character := dif_neg letter
    rw [if_neg (mt lower.mpr letter), kept]

/-- A character is a separator if and only if it is a slash or a backslash, by its number. -/
theorem isSeparator_iff (character : Char) :
    isSeparator character = true ↔ character.toNat = 47 ∨ character.toNat = 92 := by
  have apart (other : Char) : (character == other) = true ↔ character.toNat = other.toNat := by
    rw [beq_iff_eq]
    exact Char.toNat_inj.symm
  rw [isSeparator, Bool.or_eq_true, apart, apart]
  rfl

/-- A character is a separator in upper case if and only if it is one, since no separator
is a letter. -/
theorem isSeparator_toUpper (character : Char) :
    isSeparator character.toUpper = isSeparator character := by
  rw [Bool.eq_iff_iff, isSeparator_iff, isSeparator_iff, toNat_toUpper]
  split <;> omega

/-- A text has as many bytes as its first character and the text behind that character
together. -/
theorem utf8Length_cons (first : Char) (rest : List Char) :
    utf8Length (first :: rest) = first.utf8Size + utf8Length rest := rfl

/-- Two texts that are put together have as many bytes as each of them has by itself. -/
theorem utf8Length_append (front back : List Char) :
    utf8Length (front ++ back) = utf8Length front + utf8Length back := by
  simp only [← length_utf8, utf8, List.flatMap_append, List.length_append]

/-- A character has as many bytes in upper case as it has, since only letters with one
byte are changed. -/
theorem utf8Size_toUpper (character : Char) : character.toUpper.utf8Size = character.utf8Size := by
  have raised := toNat_toUpper character
  split at raised
  · have single {other : Char} (low : other.toNat ≤ 127) : other.utf8Size = 1 :=
      Char.utf8Size_eq_one_iff.mpr (UInt32.le_iff_toNat_le.mpr low)
    rw [single (by omega), single (by omega)]
  · rw [Char.toNat_inj.mp raised]

/-- A text has as many bytes in upper case as it has, so that it fits where it fitted
before. -/
theorem utf8Length_upper (text : List Char) : utf8Length (upper text) = utf8Length text := by
  induction text with
  | nil => rfl
  | cons first rest inductionHypothesis =>
    rw [upper, List.map_cons, ← upper, utf8Length_cons, utf8Size_toUpper, inductionHypothesis,
      utf8Length_cons]

end Text

namespace Path

/-! ## The stack of a path -/

/-- The absolute text of a stack of components, innermost first. -/
def render (stack : List (List Char)) : List Char :=
  '/' :: ['/'].intercalate stack.reverse

/-- The effect of one component on the stack. -/
def push (stack : List (List Char)) (component : List Char) : Except Failure (List (List Char)) :=
  if component = ['.'] then .ok stack
  else if component = ['.', '.'] then .ok stack.tail
  else if Text.utf8Length (render (component :: stack)) ≤ capacity then .ok (component :: stack)
  else .error .pathTooLong

/-- The stack after all components of a path, started from a given stack. -/
def reduce (stack : List (List Char)) (path : List Char) : Except Failure (List (List Char)) :=
  (components path).foldlM push stack

/-- The component can stand in a path. -/
structure IsComponent (component : List Char) : Prop where
  nonempty : component ≠ []
  joined : ∀ character ∈ component, Text.isSeparator character = false

/-- The component names something below a directory. -/
structure IsName (component : List Char) : Prop extends IsComponent component where
  notSelf : component ≠ ['.']
  notParent : component ≠ ['.', '.']

/-- No piece into which a path is divided holds a separator, as it is divided at each of
them. -/
theorem pieces_joined {path piece : List Char} (member : piece ∈ pieces path) :
    ∀ character ∈ piece, Text.isSeparator character = false := by
  -- A character joins the first piece unless it is a separator, and then a new piece begins.
  induction path generalizing piece with
  | nil =>
    rw [List.mem_singleton.mp member]
    simp
  | cons first rest inductionHypothesis =>
    rw [pieces] at member
    split at member
    · rcases List.mem_cons.mp member with rfl | later
      · simp
      · exact inductionHypothesis later
    next plain =>
      obtain ⟨head, more, same⟩ := List.exists_cons_of_ne_nil (pieces_ne_nil rest)
      rw [same] at member inductionHypothesis
      rcases List.mem_cons.mp member with rfl | later
      · intro character inside
        rcases List.mem_cons.mp inside with rfl | behind
        · exact Bool.eq_false_iff.mpr plain
        · exact inductionHypothesis List.mem_cons_self character behind
      · exact inductionHypothesis (List.mem_cons_of_mem _ later)

/-- Every component of a path can stand in a path: it is not empty, and holds no
separator. -/
theorem isComponent_of_mem {path component : List Char} (member : component ∈ components path) :
    IsComponent component where
  nonempty := by
    have kept := (List.mem_filter.mp member).2
    rintro rfl
    cases kept
  joined := pieces_joined (List.mem_filter.mp member).1

/-! ## The text of the stack -/

/-- Where parts are joined by slashes, one more part at the end stands behind one more
slash. -/
theorem intercalate_concat {parts : List (List Char)} (some : parts ≠ []) (last : List Char) :
    ['/'].intercalate (parts ++ [last]) = ['/'].intercalate parts ++ '/' :: last := by
  induction parts with
  | nil => exact absurd rfl some
  | cons first rest inductionHypothesis =>
    cases rest with
    | nil => simp [List.intercalate_cons_cons]
    | cons second more =>
      have onward := inductionHypothesis (by simp)
      rw [List.cons_append] at onward ⊢
      rw [List.cons_append, List.intercalate_cons_cons, onward, List.intercalate_cons_cons,
        List.append_assoc, List.append_assoc, List.append_assoc]

/-- The text of a stack with one component is that component behind a slash. -/
theorem render_single (component : List Char) : render [component] = '/' :: component := by
  rw [render, List.reverse_singleton, List.intercalate_singleton]

/-- The text of a stack with another component on top is the text of the stack, a slash
and that component. -/
theorem render_cons {stack : List (List Char)} (some : stack ≠ []) (component : List Char) :
    render (component :: stack) = render stack ++ '/' :: component := by
  rw [render, render, List.reverse_cons, intercalate_concat (by simpa using some), List.cons_append]

/-- The text of a stack of names has more than one byte if and only if there is a name on
it: the root alone is a single slash. -/
theorem one_lt_render_iff {stack : List (List Char)} (clean : ∀ below ∈ stack, IsName below) :
    1 < Text.utf8Length (render stack) ↔ stack ≠ [] := by
  cases stack with
  | nil => decide
  | cons component rest =>
    obtain ⟨first, more, rfl⟩ := List.exists_cons_of_ne_nil (clean component (by simp)).nonempty
    have counted := first.utf8Size_pos
    have slash : '/'.utf8Size = 1 := rfl
    by_cases single : rest = []
    · subst single
      simp [render_single, Text.utf8Length_cons]
      omega
    · simp [render_cons single, Text.utf8Length_append, Text.utf8Length_cons, slash]
      omega

/-- The text of a stack without its top is no longer than the text of the stack. -/
theorem utf8Length_render_tail (stack : List (List Char)) :
    Text.utf8Length (render stack.tail) ≤ Text.utf8Length (render stack) := by
  cases stack with
  | nil => exact Nat.le_refl _
  | cons component rest =>
    by_cases single : rest = []
    · subst single
      rw [render_single, List.tail_cons]
      exact Nat.le_add_right 1 _
    · rw [render_cons single, Text.utf8Length_append, List.tail_cons]
      exact Nat.le_add_right _ _

/-- Cutting the text of a stack of names off at its last slash takes the top away, and
leaves the root as it is. -/
theorem ascend_render {stack : List (List Char)} (clean : ∀ below ∈ stack, IsName below) :
    ascend (render stack) = render stack.tail := by
  cases stack with
  | nil => rfl
  | cons component rest =>
    have whole : ∀ character ∈ component.reverse, (character != '/') = true := by
      intro character member
      have plain := (clean component (by simp)).joined character (List.mem_reverse.mp member)
      refine bne_iff_ne.mpr fun same => ?_
      rw [same] at plain
      cases plain
    have cut (front : List Char) :
        ascend (front ++ '/' :: component) = (front ++ '/' :: component).take (max 1 front.length) := by
      rw [ascend, List.reverse_append, List.reverse_cons, List.append_assoc,
        List.dropWhile_append_of_pos whole]
      simp
    by_cases single : rest = []
    · subst single
      rw [render_single, ← List.nil_append ('/' :: component), cut]
      rfl
    · have some : max 1 (render rest).length = (render rest).length :=
        Nat.max_eq_right (Nat.succ_le_succ (Nat.zero_le _))
      rw [render_cons single, cut, some, List.take_left, List.tail_cons]

/-! ## What is on the stack -/

/-- A stack to which a path can be reduced: it holds names, and its text fits its room. -/
structure Reduced (stack : List (List Char)) : Prop where
  clean : ∀ below ∈ stack, IsName below
  fits : Text.utf8Length (render stack) ≤ capacity

/-- The empty stack is reduced: there is no component on it, and the single slash fits. -/
theorem reduced_nil : Reduced [] where
  clean := by simp
  fits := by decide

/-- A component that can be entered leaves a reduced stack reduced: a name comes onto it,
and two dots take its top away. -/
theorem push_reduced {stack pushed : List (List Char)} {component : List Char}
    (entered : push stack component = .ok pushed) (fits : IsComponent component)
    (before : Reduced stack) : Reduced pushed := by
  simp only [push] at entered
  split at entered
  · cases entered
    exact before
  next notSelf =>
  split at entered
  · cases entered
    exact ⟨fun below member => before.clean below (List.mem_of_mem_tail member),
      Nat.le_trans (utf8Length_render_tail stack) before.fits⟩
  next notParent =>
  split at entered
  · next room =>
    cases entered
    exact ⟨List.forall_mem_cons.mpr ⟨⟨fits, notSelf, notParent⟩, before.clean⟩, room⟩
  · cases entered

/-- Components that can all be entered, one after the other, leave a reduced stack
reduced. -/
theorem foldlM_push_reduced {entering stack after : List (List Char)}
    (ended : entering.foldlM push stack = .ok after)
    (fit : ∀ component ∈ entering, IsComponent component) (before : Reduced stack) :
    Reduced after := by
  induction entering generalizing stack with
  | nil =>
    cases ended
    exact before
  | cons first rest inductionHypothesis =>
    rw [List.foldlM_cons] at ended
    obtain ⟨pushed, entered, ended⟩ := ok_of_bind ended
    obtain ⟨here, later⟩ := List.forall_mem_cons.mp fit
    exact inductionHypothesis ended later (push_reduced entered here before)

/-- Reducing a path onto a reduced stack leaves a reduced one, since only names come onto
it and no more of them than fit. -/
theorem reduce_reduced {path : List Char} {stack after : List (List Char)}
    (ended : reduce stack path = .ok after) (before : Reduced stack) : Reduced after :=
  foldlM_push_reduced ended (fun _ => isComponent_of_mem) before

/-! ## Editing the text in place -/

/-- A text is extended by another one where both together fit into the length that a path
may have. -/
theorem extend_fits {text more : List Char} (fits : Text.utf8Length (text ++ more) ≤ capacity) :
    extend text more = .ok (text ++ more) := if_pos fits

/-- Extending a text by a slash and then by a component is extending it by both at once:
where both do not fit, it is refused in either way. -/
theorem extend_extend (text component : List Char) :
    (extend text ['/'] >>= fun opened => extend opened component) =
      extend text ('/' :: component) := by
  have whole : text ++ '/' :: component = (text ++ ['/']) ++ component := by simp
  rw [extend]
  split
  · change extend (text ++ ['/']) component = _
    rw [extend, extend, whole]
  · next crowded =>
    refine (if_neg fun fits => crowded (Nat.le_trans ?_ fits)).symm
    rw [whole, Text.utf8Length_append _ component]
    exact Nat.le_add_right _ _

/-- A component edits the text of a stack as it changes the stack itself, and is refused
where it is refused there. -/
theorem advance_render {stack : List (List Char)} (clean : ∀ below ∈ stack, IsName below)
    (component : List Char) :
    advance (render stack) component = (push stack component).map render := by
  have named : (do
      let opened ← if 1 < Text.utf8Length (render stack) then extend (render stack) ['/']
        else pure (render stack)
      extend opened component) =
      if Text.utf8Length (render (component :: stack)) ≤ capacity then
        .ok (render (component :: stack)) else .error .pathTooLong := by
    by_cases root : stack = []
    · subst root
      rw [render_single]
      rfl
    · -- the slash and the component are put down in two steps, but only both together count
      rw [if_pos ((one_lt_render_iff clean).mpr root), extend_extend, extend, render_cons root]
  rw [advance, push, named, ascend_render clean]
  split_ifs <;> rfl

/-- A path edits the text of a reduced stack as it changes the stack itself, component by
component. -/
theorem travel_render {stack : List (List Char)} (before : Reduced stack) (path : List Char) :
    travel (render stack) path = (reduce stack path).map render := by
  have folded {entering : List (List Char)} (fit : ∀ component ∈ entering, IsComponent component) :
      entering.foldlM advance (render stack) = (entering.foldlM push stack).map render := by
    induction entering generalizing stack with
    | nil => rfl
    | cons first rest inductionHypothesis =>
      obtain ⟨here, later⟩ := List.forall_mem_cons.mp fit
      rw [List.foldlM_cons, List.foldlM_cons, advance_render before.clean]
      cases entered : push stack first with
      | error failure => rfl
      | ok pushed => exact inductionHypothesis (push_reduced entered here before) later
  exact folded fun _ => isComponent_of_mem

/-- The absolute form of a path is the text of the stack to which the path is reduced from
the root, or else the refusal of that reduction. -/
theorem absolute_eq (path : List Char) : absolute path = (reduce [] path).map render :=
  travel_render reduced_nil path

/-- A path has a text as its absolute form if and only if the path is reduced to a stack
which has that text. -/
theorem absolute_ok_iff {path text : List Char} :
    absolute path = .ok text ↔ ∃ stack, reduce [] path = .ok stack ∧ render stack = text := by
  rw [absolute_eq]
  cases reduce [] path <;> simp [Except.map]

/-- Characters whose upper case fits behind a text are put down there one by one, each of
them in upper case. -/
theorem foldlM_extend {front more : List Char}
    (fits : Text.utf8Length (front ++ Text.upper more) ≤ capacity) :
    more.foldlM (fun text character => extend text [character.toUpper]) front =
      .ok (front ++ Text.upper more) := by
  induction more generalizing front with
  | nil => exact congrArg Except.ok (List.append_nil front).symm
  | cons first rest inductionHypothesis =>
    have whole : front ++ Text.upper (first :: rest) =
        (front ++ [first.toUpper]) ++ Text.upper rest := by simp [Text.upper]
    rw [whole] at fits ⊢
    have begins : Text.utf8Length (front ++ [first.toUpper]) ≤ capacity := by
      rw [Text.utf8Length_append] at fits
      exact Nat.le_of_add_right_le fits
    rw [List.foldlM_cons, extend_fits begins]
    exact inductionHypothesis fits

/-- The normal form is the absolute one without its first slash, in upper case. It always has the
room that the absolute form has. -/
theorem normalize_eq (path : List Char) :
    normalize path = (absolute path).map fun text => Text.upper (text.drop 1) := by
  rw [normalize]
  cases made : absolute path with
  | error failure => rfl
  | ok text =>
    obtain ⟨stack, reduced, rfl⟩ := absolute_ok_iff.mp made
    refine foldlM_extend ?_
    rw [List.nil_append, Text.utf8Length_upper]
    exact Nat.le_trans (Nat.le_add_left _ _) (reduce_reduced reduced reduced_nil).fits

/-- A path has a text as its normal form if and only if it is reduced to a stack whose
text, without the first slash, is that text in upper case. -/
theorem normalize_ok_iff {path normal : List Char} :
    normalize path = .ok normal ↔
      ∃ stack, reduce [] path = .ok stack ∧ Text.upper ((render stack).drop 1) = normal := by
  rw [normalize_eq, absolute_eq]
  cases reduce [] path <;> simp [Except.map]

/-- A path that is divided at a separator leads where its part in front leads and its part
behind leads from there. -/
theorem travel_separated {start front back : List Char} {separator : Char}
    (separates : Text.isSeparator separator = true) :
    travel start (front ++ separator :: back) =
      travel start front >>= fun target => travel target back := by
  rw [travel, components_separated separates, List.foldlM_append]
  rfl

/-- A path that begins with a separator is joined to any base as its own absolute form. -/
theorem join_rooted {base relative : List Char}
    (rooted : relative.head?.any Text.isSeparator = true) :
    join base relative = absolute relative := by
  rw [join, if_pos rooted]
  rfl

/-- A path that does not begin with a separator is joined to a base as the absolute form
of both with a slash between them. -/
theorem join_relative {base relative : List Char}
    (inward : relative.head?.any Text.isSeparator = false) :
    join base relative = absolute (base ++ '/' :: relative) := by
  rw [join, if_neg (by rw [inward]; exact Bool.false_ne_true), absolute, travel_separated rfl]

/-- What a path is joined to is the text of a reduced stack, since joining paths is
reducing one path. -/
theorem join_ok {base relative text : List Char} (joined : join base relative = .ok text) :
    ∃ stack, Reduced stack ∧ render stack = text := by
  have whole : ∃ path, absolute path = .ok text := by
    by_cases rooted : relative.head?.any Text.isSeparator = true
    · exact ⟨relative, join_rooted rooted ▸ joined⟩
    · exact ⟨_, join_relative (Bool.eq_false_iff.mpr rooted) ▸ joined⟩
  obtain ⟨path, made⟩ := whole
  obtain ⟨stack, reduced, rendered⟩ := absolute_ok_iff.mp made
  exact ⟨stack, reduce_reduced reduced reduced_nil, rendered⟩

/-! ## Back from the text to the stack -/

/-- Components that are joined by slashes are the pieces into which their text is divided. -/
theorem pieces_intercalate {parts : List (List Char)} (some : parts ≠ [])
    (fit : ∀ part ∈ parts, IsComponent part) : pieces (['/'].intercalate parts) = parts := by
  induction parts with
  | nil => exact absurd rfl some
  | cons first rest inductionHypothesis =>
    obtain ⟨⟨_, joined⟩, later⟩ := List.forall_mem_cons.mp fit
    cases rest with
    | nil => rw [List.intercalate_singleton, pieces_single joined]
    | cons second more =>
      rw [List.intercalate_cons_cons, List.append_assoc, List.singleton_append,
        pieces_separated rfl, pieces_single joined, inductionHypothesis (by simp) later]
      rfl

/-- Components that are joined by slashes are the components of their text, in the same
order. -/
theorem components_joined {parts : List (List Char)} (fit : ∀ part ∈ parts, IsComponent part) :
    components (['/'].intercalate parts) = parts := by
  cases parts with
  | nil => rfl
  | cons first rest =>
    rw [components, pieces_intercalate (by simp) fit, List.filter_eq_self]
    intro part member
    simpa using (fit part member).nonempty

/-- The text of a stack without its first slash is divided into the components on the
stack, from the lowest to the top. -/
theorem components_render {stack : List (List Char)} (clean : ∀ below ∈ stack, IsComponent below) :
    components ((render stack).drop 1) = stack.reverse :=
  components_joined fun part member => clean part (List.mem_reverse.mp member)

/-- A path in upper case is divided into its pieces in upper case, since no separator is
changed. -/
theorem pieces_upper (path : List Char) :
    pieces (Text.upper path) = (pieces path).map Text.upper := by
  induction path with
  | nil => rfl
  | cons first rest inductionHypothesis =>
    rw [Text.upper, List.map_cons, ← Text.upper, pieces, pieces, Text.isSeparator_toUpper,
      inductionHypothesis]
    split
    · rfl
    · obtain ⟨piece, more, same⟩ := List.exists_cons_of_ne_nil (pieces_ne_nil rest)
      rw [same]
      rfl

/-- A path in upper case is divided into its components in upper case, since no separator
is changed. -/
theorem components_upper (path : List Char) :
    components (Text.upper path) = (components path).map Text.upper := by
  rw [components, pieces_upper, List.filter_map, components]
  refine congrArg (List.map Text.upper) (List.filter_congr fun piece _ => ?_)
  cases piece <;> rfl

/-- An absolute text in which nothing can be left out. -/
structure Canonical (path : List Char) : Prop where
  absolute : path.head? = some '/'
  slashed : '\\' ∉ path
  /-- Between the slashes stand names; the root has none. -/
  named : path = ['/'] ∨
    ∀ piece ∈ pieces (path.drop 1), piece ≠ [] ∧ piece ≠ ['.'] ∧ piece ≠ ['.', '.']
  closed : path = ['/'] ∨ path.getLast? ≠ some '/'

/-- A character of parts that are joined by slashes is a slash, or a character of one of
the parts. -/
theorem mem_intercalate {parts : List (List Char)} {character : Char}
    (member : character ∈ ['/'].intercalate parts) :
    character = '/' ∨ ∃ part ∈ parts, character ∈ part := by
  induction parts with
  | nil => cases member
  | cons first rest inductionHypothesis =>
    cases rest with
    | nil =>
      rw [List.intercalate_singleton] at member
      exact .inr ⟨first, List.mem_cons_self, member⟩
    | cons second more =>
      rw [List.intercalate_cons_cons, List.append_assoc, List.mem_append,
        List.singleton_append, List.mem_cons] at member
      rcases member with inside | rfl | behind
      · exact .inr ⟨first, List.mem_cons_self, inside⟩
      · exact .inl rfl
      · refine (inductionHypothesis behind).imp_right ?_
        rintro ⟨part, member, inside⟩
        exact ⟨part, List.mem_cons_of_mem _ member, inside⟩

/-- The text of a stack of names is canonical: absolute, with single slashes between
names, and without one at the end. -/
theorem canonical_render {stack : List (List Char)} (clean : ∀ below ∈ stack, IsName below) :
    Canonical (render stack) := by
  by_cases none : stack = []
  · subst none
    exact ⟨rfl, by decide, .inl rfl, .inl rfl⟩
  have fit : ∀ part ∈ stack.reverse, IsName part := by simpa using clean
  have divided : pieces ((render stack).drop 1) = stack.reverse :=
    pieces_intercalate (by simpa using none) fun part member => (fit part member).toIsComponent
  constructor
  case absolute => rfl
  case slashed =>
    intro member
    rcases List.mem_cons.mp member with impossible | inside
    · cases impossible
    · rcases mem_intercalate inside with impossible | ⟨part, within, inside⟩
      · cases impossible
      · cases (fit part within).joined _ inside
  case named =>
    rw [divided]
    exact .inr fun part member =>
      ⟨(fit part member).nonempty, (fit part member).notSelf, (fit part member).notParent⟩
  case closed =>
    -- A slash at the end would have an empty piece behind it, which is no name.
    refine .inr fun ends => ?_
    obtain ⟨front, ends⟩ := List.getLast?_eq_some_iff.mp ends
    cases front with
    | nil =>
      rw [ends] at divided
      have empty : [] ∈ stack.reverse := divided ▸ List.mem_singleton_self _
      exact (fit _ empty).nonempty rfl
    | cons first rest =>
      rw [ends, List.cons_append, List.drop_succ_cons, List.drop_zero, pieces_separated rfl]
        at divided
      have empty : [] ∈ stack.reverse :=
        divided ▸ List.mem_append_right _ (List.mem_singleton_self _)
      exact (fit _ empty).nonempty rfl

/-- What a path is joined to is canonical, whatever the base and the path look like. -/
theorem canonical_join {base relative target : List Char}
    (joined : join base relative = .ok target) :
    Canonical target := by
  obtain ⟨stack, reduced, rfl⟩ := join_ok joined
  exact canonical_render reduced.clean

/-- The normal form of a path has the names of the stack that the path is reduced to, each
of them encoded in upper case. -/
theorem names_normalize {path normal : List Char} (normalized : normalize path = .ok normal) :
    ∃ stack, reduce [] path = .ok stack ∧
      names normal = stack.reverse.map fun component => ShortName.encode (Text.upper component) := by
  obtain ⟨stack, reduced, rfl⟩ := normalize_ok_iff.mp normalized
  have clean := (reduce_reduced reduced reduced_nil).clean
  refine ⟨stack, reduced, ?_⟩
  rw [names, components_upper, components_render fun below member => (clean below member).toIsComponent,
    List.map_map]
  rfl

/-- Two dots behind a path name what its names before the last one name, and the root
stays the root. -/
theorem normalize_above {path normal : List Char} (normalized : normalize path = .ok normal) :
    ∃ above, normalize (path ++ ['/', '.', '.']) = .ok above ∧
      names above = (names normal).dropLast := by
  obtain ⟨stack, reduced, same⟩ := names_normalize normalized
  have shorter : reduce [] (path ++ ['/', '.', '.']) = .ok stack.tail := by
    rw [reduce, components_separated rfl, List.foldlM_append, ← reduce, reduced]
    rfl
  have ended : normalize (path ++ ['/', '.', '.']) =
      .ok (Text.upper ((render stack.tail).drop 1)) :=
    normalize_ok_iff.mpr ⟨_, shorter, rfl⟩
  refine ⟨_, ended, ?_⟩
  obtain ⟨again, found, written⟩ := names_normalize ended
  rw [shorter] at found
  cases found
  rw [written, same, ← List.map_dropLast, List.dropLast_reverse]

end Path

end FatVolume
