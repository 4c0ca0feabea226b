import MediaSite.Proofs.Template.Shape
import MediaSite.Proofs.Text.Search

namespace MediaSite

/-!
# Which image tokens are found

The scan goes from left to right and takes each shape in full, so a token is
found if no shape reaches over its beginning.  A shape does so if it opens
earlier on the same line and comes to no box before: `LeftOpen` says that such
an opening stands in front of a token.  Then the role of that shape swallows the
token, well-formed though it is; in all other cases the token is found.

The tokens that are found stand in the text in their order, next to each other.
-/

open scoped Text

namespace ImageToken

theorem text_of_token? {piece : Piece} {token : ImageToken} (found : piece.token? = some token) :
    piece.text = token.text := by
  cases piece with
  | character c => cases found
  | shape text role width height =>
      rcases Option.bind_eq_some_iff.mp found with ⟨columns, _, found⟩
      rcases Option.bind_eq_some_iff.mp found with ⟨rows, _, found⟩
      rw [← Option.some.inj found]
      rfl

/-- A located token is a piece, and its offset that of the pieces before it. -/
theorem mem_locatedFrom {offset start : Nat} {token : ImageToken} {parts : List Piece} :
    (offset, token) ∈ locatedFrom start parts ↔
      ∃ front piece back, parts = front ++ piece :: back ∧ piece.token? = some token ∧
        offset = start + Text.byteLength (front.flatMap Piece.text) := by
  induction parts generalizing start with
  | nil =>
      constructor
      · intro member
        cases member
      · rintro ⟨front, piece, back, same, _⟩
        exact absurd same.symm (List.append_ne_nil_of_right_ne_nil front (List.cons_ne_nil _ _))
  | cons head parts inductionHypothesis =>
      rw [locatedFrom, List.mem_append, inductionHypothesis]
      constructor
      · rintro (own | ⟨front, piece, back, rfl, isToken, rfl⟩)
        · rcases Option.map_eq_some_iff.mp (Option.mem_toList.mp own) with ⟨found, isToken, same⟩
          rcases Prod.mk.inj same with ⟨rfl, rfl⟩
          exact ⟨[], head, parts, rfl, isToken, rfl⟩
        · refine ⟨head :: front, piece, back, rfl, isToken, ?_⟩
          rw [List.flatMap_cons, Text.byteLength_append, Nat.add_assoc]
      · rintro ⟨front, piece, back, same, isToken, rfl⟩
        cases front with
        | nil =>
            left
            rcases List.cons.inj same with ⟨rfl, rfl⟩
            rw [isToken]
            exact List.mem_singleton.mpr rfl
        | cons first front =>
            right
            rcases List.cons.inj same with ⟨rfl, rfl⟩
            refine ⟨front, piece, back, rfl, isToken, ?_⟩
            rw [List.flatMap_cons, Text.byteLength_append, Nat.add_assoc]

/-! ## Openings in front -/

/-- An opening stands in this text with neither a line end nor a box behind it. -/
def LeftOpen (text : Text) : Prop :=
  ∃ front gap, text = front ++ (opening ++ gap) ∧ '\n' ∉ gap ∧ ¬ HasBox gap

theorem LeftOpen.of_suffix {text longer : Text} (shorter : text <:+ longer)
    (leftOpen : LeftOpen text) : LeftOpen longer := by
  rcases shorter with ⟨before, rfl⟩
  rcases leftOpen with ⟨front, gap, rfl, line, noBox⟩
  exact ⟨before ++ front, gap, (List.append_assoc before front _).symm, line, noBox⟩

/-- A shape in front of an opening ends before it, unless its own opening is left open. -/
theorem shape?_append {before : Text} (nonempty : before ≠ []) (rest : Text) :
    shape? (before ++ (opening ++ rest)) =
        (shape? before).map (fun found => (found.1, found.2 ++ (opening ++ rest))) ∨
      ∃ gap, before = opening ++ gap ∧ '\n' ∉ gap ∧ ¬ HasBox gap := by
  by_cases start : opening <+: before
  · rcases start with ⟨gap, rfl⟩
    have brace : opening ++ rest = '\x7b' :: (opening.tail ++ rest) := rfl
    have read := roleAndBox?_append gap (opening.tail ++ rest)
    rw [← brace] at read
    rw [List.append_assoc, shape?_opening, shape?_opening, read]
    cases inGap : roleAndBox? gap with
    | some parts =>
        left
        have size : (opening ++ (gap ++ (opening ++ rest))).length -
            (parts.2.2 ++ (opening ++ rest)).length =
              (opening ++ gap).length - parts.2.2.length := by
          rw [← List.append_assoc]
          simp only [List.length_append]
          omega
        simp only [Option.map_some, size]
        rw [← List.append_assoc opening, List.take_append_of_le_length (Nat.sub_le _ _)]
    | none =>
        by_cases line : '\n' ∈ gap
        · left
          simp only [if_pos line, Option.map_none]
        · right
          exact ⟨gap, rfl, line, (roleAndBox?_eq_none_iff line).mp inGap⟩
  · left
    have absent : ¬ opening <+: before ++ (opening ++ rest) := fun longer =>
      start (opening_prefix_of_append nonempty longer)
    rw [shape?_eq_none start, shape?_eq_none absent]
    rfl

/-- If nothing is left open in front of an opening, the scan comes to it. -/
theorem pieces_append {before : Text} (closed : ¬ LeftOpen before) (rest : Text) :
    ∃ front, pieces (before ++ (opening ++ rest)) = front ++ pieces (opening ++ rest) ∧
      front.flatMap Piece.text = before := by
  induction before using pieces_induction with
  | nil => exact ⟨[], rfl, rfl⟩
  | shape text piece after found inductionHypothesis =>
      rcases text_of_shape? found with ⟨joined, shorter⟩
      have nonempty : text ≠ [] := fun empty => by
        rw [empty] at shorter
        exact Nat.not_lt_zero _ shorter
      have behind : ¬ LeftOpen after := fun leftOpen =>
        closed (leftOpen.of_suffix ⟨piece.text, joined⟩)
      rcases inductionHypothesis behind with ⟨front, same, whole⟩
      rcases shape?_append nonempty rest with shape | ⟨gap, split, line, noBox⟩
      · rw [found, Option.map_some] at shape
        refine ⟨piece :: front, ?_, ?_⟩
        · rw [pieces_of_shape shape, same, List.cons_append]
        · rw [List.flatMap_cons, whole, joined]
      · exact absurd ⟨[], gap, split, line, noBox⟩ closed
  | character c text nothing inductionHypothesis =>
      have behind : ¬ LeftOpen text := fun leftOpen =>
        closed (leftOpen.of_suffix (List.suffix_cons c text))
      rcases inductionHypothesis behind with ⟨front, same, whole⟩
      rcases shape?_append (List.cons_ne_nil c text) rest with
        shape | ⟨gap, split, line, noBox⟩
      · rw [nothing, Option.map_none, List.cons_append] at shape
        refine ⟨.character c :: front, ?_, ?_⟩
        · rw [List.cons_append, pieces_of_none shape, same, List.cons_append]
        · rw [List.flatMap_cons, whole]
          rfl
      · exact absurd ⟨[], gap, split, line, noBox⟩ closed

/-- A box closes what is open in front of it: behind a shape only what opens there
is left open. -/
theorem LeftOpen.of_shape {text after : Text} {piece : Piece}
    (found : shape? text = some (piece, after)) {front gap : Text}
    (split : text = front ++ (opening ++ gap)) (noBox : ¬ HasBox gap) :
    ∃ later, after = later ++ (opening ++ gap) := by
  rcases eq_of_shape? found with ⟨role, width, spaced, height, widthDigits, heightDigits, _, same⟩
  have brace : opening ++ gap = '\x7b' :: (opening.tail ++ gap) := rfl
  have whole : front ++ (opening ++ gap) =
      (opening ++ role) ++ (boxText width spaced height ++ after) := by
    rw [← split, same, List.append_assoc]
  rcases List.append_eq_append_iff.mp whole with ⟨middle, _, behind⟩ | ⟨middle, _, behind⟩
  -- The box of the shape would be one behind the opening.
  · apply False.elim
    have bracket : '[' ∉ opening := by decide
    rcases List.append_eq_append_iff.mp behind with ⟨inGap, _, rest⟩ | ⟨inOpening, split, rest⟩
    · apply noBox
      exact ⟨width, spaced, height, widthDigits, heightDigits, inGap, after, by
        rw [rest, List.append_assoc]⟩
    · cases inOpening with
      | nil =>
          apply noBox
          rw [List.nil_append] at rest
          exact ⟨width, spaced, height, widthDigits, heightDigits, [], after, by
            rw [List.nil_append, rest]⟩
      | cons c inOpening =>
          apply bracket
          rw [boxText, List.cons_append] at rest
          rw [split, ← (List.cons.inj rest).1]
          exact List.mem_append_right middle List.mem_cons_self
  -- The opening stands behind the box of the shape, which has no brace.
  · rcases List.append_eq_append_iff.mp behind with ⟨later, _, rest⟩ | ⟨inBox, split, rest⟩
    · exact ⟨later, rest⟩
    · cases inBox with
      | nil =>
          rw [List.nil_append] at rest
          exact ⟨[], rest.symm⟩
      | cons c inBox =>
          apply False.elim
          apply brace_not_mem_boxText widthDigits heightDigits spaced
          rw [brace, List.cons_append] at rest
          rw [split, ← (List.cons.inj rest).1]
          exact List.mem_append_right middle List.mem_cons_self

/-! ## Well-formed tokens -/

/-- A well-formed image token: a role on one line without braces and brackets,
and two ASCII numbers in range, with or without a space between them. -/
structure Written where
  role : Text
  columns : Text
  spaced : Bool
  rows : Text
  width : Nat
  height : Nat
  role_free : ∀ c ∈ role, c ∉ ['\x7b', '\x7d', '[', ']', '\n']
  columns_eq : Text.toNat? columns = some width
  rows_eq : Text.toNat? rows = some height
  width_range : 1 ≤ width ∧ width < UInt32.size
  height_range : 1 ≤ height ∧ height < UInt32.size

namespace Written

def text (written : Written) : Text :=
  opening ++ (written.role ++ boxText written.columns written.spaced written.rows)

def token (written : Written) : ImageToken where
  text := written.text
  role := Text.lowercase written.role
  width := written.width
  height := written.height

end Written

/-- A reading that fails for good at some characters comes to an end without them. -/
theorem forall_of_foldl {step : Option Nat → Char → Option Nat} {Good : Char → Prop}
    (stuck : ∀ c, step none c = none) (good : ∀ value c, step value c ≠ none → Good c)
    {text : Text} {start : Option Nat} {number : Nat}
    (read : text.foldl step start = some number) : ∀ c ∈ text, Good c := by
  have stays (rest : Text) : rest.foldl step none = none := by
    induction rest with
    | nil => rfl
    | cons c rest inductionHypothesis => rw [List.foldl_cons, stuck, inductionHypothesis]
  induction text generalizing start with
  | nil => exact List.forall_mem_nil _
  | cons c rest inductionHypothesis =>
      rw [List.foldl_cons] at read
      have passed : step start c ≠ none := by
        intro failed
        rw [failed, stays] at read
        cases read
      exact List.forall_mem_cons.mpr ⟨good start c passed, inductionHypothesis read⟩

theorem digits_of_toNat? {digits : Text} {number : Nat}
    (read : Text.toNat? digits = some number) : Digits digits := by
  unfold Text.toNat? at read
  split at read
  · cases read
  · refine forall_of_foldl (fun _ => rfl) ?_ read
    intro value c passed
    have isDigit : c.isDigit = true := by
      by_contra other
      apply passed
      cases value with
      | none => rfl
      | some value => simp [Text.digitValue?, other]
    rw [Text.isDecimalDigit, isDigit, Bool.true_or]

namespace Written

variable (written : Written)

theorem text_append (after : Text) :
    written.text ++ after = opening ++ (written.text.drop opening.length ++ after) := by
  rw [text, List.drop_left, List.append_assoc]

theorem bracket_not_mem_role : '[' ∉ written.role :=
  fun member => written.role_free '[' member (by decide)

theorem line_role : '\n' ∉ written.role :=
  fun member => written.role_free '\n' member (by decide)

/-- At its own beginning a well-formed token is read as it is. -/
theorem shape?_text (after : Text) :
    shape? (written.text ++ after) =
      some (.shape written.text written.role written.columns written.rows, after) := by
  have read := roleAndBox?_boxText written.bracket_not_mem_role written.line_role
    (digits_of_toNat? written.columns_eq) (digits_of_toNat? written.rows_eq) written.spaced after
  have found := shape?_opening
    (written.role ++ (boxText written.columns written.spaced written.rows ++ after))
  rw [read, Option.map_some] at found
  have whole : written.text ++ after = opening ++
      (written.role ++ (boxText written.columns written.spaced written.rows ++ after)) := by
    rw [text, List.append_assoc, List.append_assoc]
  rw [← whole] at found
  have joined := (text_of_shape? found).1
  have same := List.append_cancel_right joined
  rw [found]
  simp only [Piece.text] at same
  rw [same]

theorem token?_text :
    (Piece.shape written.text written.role written.columns written.rows).token? =
      some written.token := by
  have inRange (size : Nat) (range : 1 ≤ size ∧ size < UInt32.size) :
      (decide (1 ≤ size) && decide (size < UInt32.size)) = true := by
    rw [Bool.and_eq_true, decide_eq_true_eq, decide_eq_true_eq]
    exact range
  have width : size? written.columns = some written.width := by
    simp only [size?, written.columns_eq, Option.bind_eq_bind, Option.bind_some,
      inRange _ written.width_range, if_true]
  have height : size? written.rows = some written.height := by
    simp only [size?, written.rows_eq, Option.bind_eq_bind, Option.bind_some,
      inRange _ written.height_range, if_true]
  simp only [Piece.token?, width, height, Option.bind_eq_bind, Option.bind_some]
  rfl

/-- What is left open in front of a well-formed token swallows it. -/
theorem shape?_swallowed {gap : Text} (line : '\n' ∉ gap) (noBox : ¬ HasBox gap) (after : Text) :
    ∃ piece rest, shape? ((opening ++ gap) ++ (written.text ++ after)) = some (piece, rest) ∧
      (opening ++ gap).length < piece.text.length := by
  have nothing := (roleAndBox?_eq_none_iff line).mpr noBox
  have read := roleAndBox?_append gap (written.text.tail ++ after)
  have brace : '\x7b' :: (written.text.tail ++ after) = written.text ++ after := rfl
  have inside : roleAndBox? (written.text ++ after) =
      some (opening ++ written.role, (written.columns, written.rows), after) := by
    have bracket : '[' ∉ opening ++ written.role := fun member =>
      (List.mem_append.mp member).elim (by decide) written.bracket_not_mem_role
    have oneLine : '\n' ∉ opening ++ written.role := fun member =>
      (List.mem_append.mp member).elim (by decide) written.line_role
    have found := roleAndBox?_boxText bracket oneLine (digits_of_toNat? written.columns_eq)
      (digits_of_toNat? written.rows_eq) written.spaced after
    rw [← found, text]
    simp only [List.append_assoc]
  rw [brace, nothing, inside] at read
  simp only [if_neg line, Option.map_some] at read
  have found := shape?_opening (gap ++ (written.text ++ after))
  rw [read, Option.map_some, ← List.append_assoc] at found
  refine ⟨_, _, found, ?_⟩
  have joined := congrArg List.length (text_of_shape? found).1
  have filled : 0 < written.text.length := Nat.succ_pos _
  simp only [List.length_append] at joined ⊢
  omega

end Written

/-! ## What is found -/

/-- The piece that swallows a token is longer than all that stands in front of the token. -/
theorem Written.not_boundary_of_swallowed (written : Written) {gap : Text} (line : '\n' ∉ gap)
    (noBox : ¬ HasBox gap) (after : Text) {front back : List Piece}
    (split : pieces ((opening ++ gap) ++ (written.text ++ after)) = front ++ back) :
    front.flatMap Piece.text ≠ opening ++ gap := by
  intro whole
  rcases written.shape?_swallowed line noBox after with ⟨piece, rest, found, longer⟩
  rw [pieces_of_shape found] at split
  cases front with
  | nil => cases whole
  | cons first front =>
      rcases List.cons.inj split with ⟨rfl, _⟩
      have lengths := congrArg List.length whole
      rw [List.flatMap_cons, List.length_append] at lengths
      omega

/-- Behind something left open the scan does not come to the beginning of a
well-formed token. -/
theorem LeftOpen.not_boundary {before : Text} (leftOpen : LeftOpen before) (written : Written)
    (after : Text) {front back : List Piece}
    (split : pieces (before ++ (written.text ++ after)) = front ++ back) :
    front.flatMap Piece.text ≠ before := by
  have opens := written.text_append after
  induction before using pieces_induction generalizing front with
  | nil =>
      rcases leftOpen with ⟨_, _, same, _⟩
      cases List.append_eq_nil_iff.mp same.symm with
      | intro _ impossible => cases impossible
  | shape text piece later found inductionHypothesis =>
      rcases text_of_shape? found with ⟨joined, shorter⟩
      have nonempty : text ≠ [] := fun empty => by
        rw [empty] at shorter
        exact Nat.not_lt_zero _ shorter
      rcases shape?_append nonempty (written.text.drop opening.length ++ after) with
        shape | ⟨gap, rfl, line, noBox⟩
      · rw [← opens, found, Option.map_some] at shape
        rcases leftOpen with ⟨early, gap, same, line, noBox⟩
        rcases LeftOpen.of_shape found same noBox with ⟨behind, laterSame⟩
        rw [pieces_of_shape shape] at split
        intro whole
        cases front with
        | nil => exact nonempty whole.symm
        | cons first front =>
            rcases List.cons.inj split with ⟨rfl, rest⟩
            rw [List.flatMap_cons, ← joined] at whole
            exact inductionHypothesis ⟨behind, gap, laterSame, line, noBox⟩ rest
              (List.append_cancel_left whole)
      · exact written.not_boundary_of_swallowed line noBox after split
  | character c text nothing inductionHypothesis =>
      rcases leftOpen with ⟨early, gap, same, line, noBox⟩
      cases early with
      | nil =>
          rw [List.nil_append] at same
          rw [same] at split ⊢
          exact written.not_boundary_of_swallowed line noBox after split
      | cons first early =>
          rcases List.cons.inj same with ⟨rfl, textSame⟩
          rcases shape?_append (List.cons_ne_nil c text)
            (written.text.drop opening.length ++ after) with shape | ⟨gap, same, line, noBox⟩
          · rw [← opens, nothing, Option.map_none, List.cons_append] at shape
            rw [List.cons_append, pieces_of_none shape] at split
            intro whole
            cases front with
            | nil => cases whole
            | cons first front =>
                rcases List.cons.inj split with ⟨rfl, rest⟩
                exact inductionHypothesis ⟨early, gap, textSame, line, noBox⟩ rest
                  (List.cons.inj whole).2
          · rw [same] at split ⊢
            exact written.not_boundary_of_swallowed line noBox after split

/-- The tokens found in a text begin where they are located, and each ends before
the next begins. -/
theorem pairwise_locatedFrom (start : Nat) (parts : List Piece) :
    (locatedFrom start parts).Pairwise fun first second =>
      first.1 + Text.byteLength first.2.text ≤ second.1 := by
  induction parts generalizing start with
  | nil => exact List.Pairwise.nil
  | cons piece parts inductionHypothesis =>
      rw [locatedFrom, List.pairwise_append]
      refine ⟨?_, inductionHypothesis _, ?_⟩
      · cases piece.token? with
        | none => exact List.Pairwise.nil
        | some token => exact List.pairwise_singleton _ _
      · intro first inFirst second inRest
        rcases Option.map_eq_some_iff.mp (Option.mem_toList.mp inFirst) with ⟨token, isToken, rfl⟩
        rcases mem_locatedFrom.mp inRest with ⟨front, _, _, _, _, offset⟩
        rw [offset, text_of_token? isToken]
        exact Nat.le_add_right _ _

theorem not_located_of_leftOpen {before : Text} (leftOpen : LeftOpen before) (written : Written)
    (after : Text) :
    (Text.byteLength before, written.token) ∉ located (before ++ (written.text ++ after)) := by
  intro member
  rcases mem_locatedFrom.mp member with ⟨front, piece, back, split, _, offset⟩
  rw [Nat.zero_add] at offset
  have whole : front.flatMap Piece.text ++ (piece :: back).flatMap Piece.text =
      before ++ (written.text ++ after) := by
    rw [← List.flatMap_append, ← split, flatMap_pieces]
  have boundary : before = front.flatMap Piece.text :=
    Text.eq_of_byteLength_eq (List.prefix_append before _) ⟨_, whole⟩ offset
  exact leftOpen.not_boundary written after split boundary.symm

/-- A well-formed token is found exactly if nothing is left open in front of it;
and the tokens that are found come in order, do not overlap, and are the text at
their place. -/
theorem located_spec (text : Text) :
    (∀ (written : Written) (before after : Text), text = before ++ (written.text ++ after) →
      ((Text.byteLength before, written.token) ∈ located text ↔ ¬ LeftOpen before)) ∧
    (located text).Pairwise (fun first second =>
      first.1 + Text.byteLength first.2.text ≤ second.1) ∧
    ∀ item ∈ located text, ∃ before after,
      text = before ++ (item.2.text ++ after) ∧ item.1 = Text.byteLength before := by
  refine ⟨?_, pairwise_locatedFrom 0 (pieces text), ?_⟩
  · intro written before after same
    constructor
    · intro member leftOpen
      rw [same] at member
      exact not_located_of_leftOpen leftOpen written after member
    · intro closed
      rcases pieces_append closed (written.text.drop opening.length ++ after) with
        ⟨front, split, whole⟩
      rw [← written.text_append, ← same, pieces_of_shape (written.shape?_text after)] at split
      apply mem_locatedFrom.mpr
      exact ⟨front, _, _, split, written.token?_text, by rw [whole, Nat.zero_add]⟩
  · intro item member
    rcases mem_locatedFrom.mp member with ⟨front, piece, back, split, isToken, offset⟩
    refine ⟨front.flatMap Piece.text, back.flatMap Piece.text, ?_, ?_⟩
    · rw [← text_of_token? isToken, ← List.flatMap_cons, ← List.flatMap_append, ← split,
        flatMap_pieces]
    · rw [offset, Nat.zero_add]

def Written.poster : Written where
  role := "poster"
  columns := "3"
  spaced := false
  rows := "4"
  width := 3
  height := 4
  role_free := List.forall_iff_forall_mem.mp (by decide)
  columns_eq := by decide
  rows_eq := by decide
  width_range := by decide
  height_range := by decide

/-- The beginning of a token that lacks its sizes. -/
def unsized : Text :=
  opening ++ ("a \x7d\x7d " : Text)

/-- A token without sizes swallows the poster behind it on its line. -/
theorem poster_not_located :
    (Text.byteLength unsized, Written.poster.token) ∉
      located (unsized ++ (Written.poster.text ++ [])) := by
  have line : '\n' ∉ ("a \x7d\x7d " : Text) := by decide
  have noBox : roleAndBox? "a \x7d\x7d " = none := by decide
  have leftOpen : LeftOpen unsized := ⟨[], _, rfl, line, (roleAndBox?_eq_none_iff line).mp noBox⟩
  exact not_located_of_leftOpen leftOpen Written.poster []

end ImageToken
end MediaSite
