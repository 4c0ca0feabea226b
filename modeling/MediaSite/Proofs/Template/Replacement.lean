import MediaSite.Proofs.Template.ImageTokens
import MediaSite.Proofs.Text.Lookup
import MediaSite.Proofs.Text.Search
import MediaSite.Site.Page

namespace MediaSite

/-!
# Replacing image tokens

The image tokens of a text are replaced one after the other, each wherever it
occurs, in a text in which others are replaced already.  Every such text is the
pieces of the first one with some tokens exchanged for their values, and so a
pass is an induction over the pieces: `ImageToken.replaceAll_replaced`.

A pass could find its token where there was none.  What is put in is `Quiet`, so
an opening can only lie in text that is still as it was, or end with the first
character of a value; and a token that is found reads the same wherever it
stands, so it is a piece, or the end of a piece that holds it.
-/

open scoped Text

namespace ImageToken

/-! ## Whole shapes -/

theorem bracket_not_mem_tail_boxText {width height : Text} (widthDigits : Digits width)
    (heightDigits : Digits height) (spaced : Bool) : '[' ∉ (boxText width spaced height).tail := by
  have inWidth := not_mem_digits widthDigits (by decide : Text.isDecimalDigit '[' = false)
  have inHeight := not_mem_digits heightDigits (by decide : Text.isDecimalDigit '[' = false)
  have inClosing : '[' ∉ closing := by decide
  cases spaced <;> simp [boxText, inWidth, inHeight, inClosing]

/-- No box begins in front of another one and reaches into it. -/
theorem box?_append_boxText {front : Text} (nonempty : front ≠ []) (noBox : ¬ HasBox front)
    (width : Text) (spaced : Bool) (height after : Text) :
    box? (front ++ (boxText width spaced height ++ after)) = none := by
  cases found : box? (front ++ (boxText width spaced height ++ after)) with
  | none => rfl
  | some parts =>
      rcases parts with ⟨⟨columns, rows⟩, rest⟩
      rcases eq_boxText_of_box? found with ⟨columnDigits, rowDigits, gap, same⟩
      exfalso
      rcases List.append_eq_append_iff.mp same with ⟨middle, split, behind⟩ | ⟨middle, split, _⟩
      · cases middle with
        | nil =>
            rw [List.append_nil] at split
            exact noBox ⟨columns, gap, rows, columnDigits, rowDigits, split ▸ List.infix_refl _⟩
        | cons c middle =>
            apply bracket_not_mem_tail_boxText columnDigits rowDigits gap
            have bracket : '[' = c := (List.cons.inj behind).1
            rw [split, List.tail_append_of_ne_nil nonempty, bracket]
            exact List.mem_append_right _ List.mem_cons_self
      · exact noBox ⟨columns, gap, rows, columnDigits, rowDigits, [], middle, split.symm⟩

theorem not_hasBox_inside {text longer : Text} (inside : text <:+: longer)
    (noBox : ¬ HasBox longer) : ¬ HasBox text := by
  rintro ⟨width, spaced, height, widthDigits, heightDigits, occurs⟩
  exact noBox ⟨width, spaced, height, widthDigits, heightDigits, occurs.trans inside⟩

/-- A role ends at the first box. -/
theorem roleAndBox?_of_not_hasBox {role width height : Text} (noBox : ¬ HasBox role)
    (line : '\n' ∉ role) (widthDigits : Digits width) (heightDigits : Digits height)
    (spaced : Bool) (after : Text) :
    roleAndBox? (role ++ (boxText width spaced height ++ after)) =
      some (role, (width, height), after) := by
  induction role with
  | nil =>
      exact roleAndBox?_boxText List.not_mem_nil List.not_mem_nil widthDigits heightDigits spaced
        after
  | cons c role inductionHypothesis =>
      have otherChar : c ≠ '\n' := fun lineEnd => line (lineEnd ▸ List.mem_cons_self)
      have noBoxHere :=
        box?_append_boxText (List.cons_ne_nil c role) noBox width spaced height after
      have rest := inductionHypothesis
        (not_hasBox_inside (List.suffix_cons c role).isInfix noBox)
        (fun member => line (List.mem_cons_of_mem c member))
      rw [List.cons_append] at noBoxHere
      rw [List.cons_append, roleAndBox?, noBoxHere]
      simp only [if_neg otherChar, rest, Option.map_some]

/-- A role is on one line and has no box. -/
theorem spec_of_roleAndBox? {text role after : Text} {sizes : Text × Text}
    (found : roleAndBox? text = some (role, sizes, after)) : '\n' ∉ role ∧ ¬ HasBox role := by
  rcases sizes with ⟨width, height⟩
  induction text generalizing role with
  | nil => cases found
  | cons c text inductionHypothesis =>
      have whole := (eq_boxText_of_roleAndBox? found).2.2
      rw [roleAndBox?] at found
      split at found
      · rcases Prod.mk.inj (Option.some.inj found) with ⟨rfl, _⟩
        refine ⟨List.not_mem_nil, ?_⟩
        rintro ⟨columns, gap, rows, _, _, occurs⟩
        cases List.infix_nil.mp occurs
      · rename_i noBoxHere
        split at found
        · cases found
        · rename_i otherChar
          rcases Option.map_eq_some_iff.mp found with ⟨⟨tail, sizes, rest⟩, later, same⟩
          cases same
          rcases inductionHypothesis later with ⟨line, noBox⟩
          refine ⟨fun member => ?_, ?_⟩
          · rcases List.mem_cons.mp member with lineEnd | inTail
            · exact otherChar lineEnd.symm
            · exact line inTail
          · rintro ⟨columns, gap, rows, columnDigits, rowDigits, occurs⟩
            rcases List.infix_cons_iff.mp occurs with ⟨behind, split⟩ | inTail
            · rcases whole with ⟨spaced, joined⟩
              have box := box?_boxText_append columnDigits rowDigits gap
                (behind ++ (boxText width spaced height ++ after))
              rw [← List.append_assoc, split, ← joined, noBoxHere] at box
              cases box
            · exact noBox ⟨columns, gap, rows, columnDigits, rowDigits, inTail⟩

/-- A shape of an image token: a role on one line up to the first box. -/
structure Shape where
  role : Text
  width : Text
  spaced : Bool
  height : Text
  line : '\n' ∉ role
  noBox : ¬ HasBox role
  widthDigits : Digits width
  heightDigits : Digits height

namespace Shape

def text (shape : Shape) : Text :=
  opening ++ (shape.role ++ boxText shape.width shape.spaced shape.height)

def piece (shape : Shape) : Piece :=
  .shape shape.text shape.role shape.width shape.height

theorem text_ne_nil (shape : Shape) : shape.text ≠ [] :=
  List.cons_ne_nil _ _

/-- A shape reads the same whatever follows it. -/
theorem shape?_text (shape : Shape) (after : Text) :
    shape? (shape.text ++ after) = some (shape.piece, after) := by
  have read := roleAndBox?_of_not_hasBox shape.noBox shape.line shape.widthDigits
    shape.heightDigits shape.spaced after
  have found := shape?_opening
    (shape.role ++ (boxText shape.width shape.spaced shape.height ++ after))
  rw [read, Option.map_some] at found
  have whole : shape.text ++ after = opening ++
      (shape.role ++ (boxText shape.width shape.spaced shape.height ++ after)) := by
    rw [text, List.append_assoc, List.append_assoc]
  rw [← whole] at found
  have same := List.append_cancel_right (text_of_shape? found).1
  rw [found, piece]
  simp only [Piece.text] at same
  rw [same]

theorem exists_of_shape? {text after : Text} {piece : Piece}
    (found : shape? text = some (piece, after)) :
    ∃ shape : Shape, piece = shape.piece ∧ text = shape.text ++ after := by
  rcases eq_of_shape? found with ⟨role, width, spaced, height, widthDigits, heightDigits, rfl, rfl⟩
  rw [shape?_opening] at found
  rcases Option.map_eq_some_iff.mp found with ⟨⟨read, sizes, rest⟩, roleRead, same⟩
  have roleSame : read = role := by
    have fields := (Prod.mk.inj same).1
    simp only [Piece.shape.injEq] at fields
    exact fields.2.1
  rw [roleSame] at roleRead
  rcases spec_of_roleAndBox? roleRead with ⟨line, noBox⟩
  refine ⟨⟨role, width, spaced, height, line, noBox, widthDigits, heightDigits⟩, rfl, ?_⟩
  rw [text, List.append_assoc, List.append_assoc]

/-- Of two shapes at one place both are the same. -/
theorem piece_eq_of_prefix {first second : Shape} {right : Text}
    (start : first.text <+: second.text ++ right) : first.piece = second.piece := by
  rcases start with ⟨after, same⟩
  have read := first.shape?_text after
  rw [same, second.shape?_text right] at read
  exact (Prod.mk.inj (Option.some.inj read)).1.symm

theorem line_text (shape : Shape) : '\n' ∉ shape.text := by
  have inWidth := not_mem_digits shape.widthDigits (by decide : Text.isDecimalDigit '\n' = false)
  have inHeight := not_mem_digits shape.heightDigits (by decide : Text.isDecimalDigit '\n' = false)
  have inOpening : '\n' ∉ opening := by decide
  have inClosing : '\n' ∉ closing := by decide
  cases same : shape.spaced <;>
    simp [text, boxText, same, inOpening, shape.line, inWidth, inHeight, inClosing]

theorem getLast?_text (shape : Shape) : shape.text.getLast? = some '\x7d' := by
  have split : shape.text = (opening ++ (shape.role ++ '[' :: (shape.width ++ ',' ::
      ((if shape.spaced then [' '] else []) ++ (shape.height ++ [']', ' ', '\x7d']))))) ++
        ['\x7d'] := by
    simp [text, boxText, closing, Token.closing]
  rw [split, List.getLast?_concat]

/-- Where a shape opens again inside of itself, a shape with the same box begins. -/
theorem exists_inner (shape : Shape) {tail : Text} (atEnd : tail <:+ shape.text)
    (opens : opening <+: tail) :
    ∃ inner : Shape, inner.text = tail ∧ inner.width = shape.width ∧
      inner.height = shape.height := by
  rcases atEnd with ⟨before, split⟩
  rcases opens with ⟨rest, rfl⟩
  by_cases nonempty : before = []
  · exact ⟨shape, by rw [← split, nonempty, List.nil_append], rfl, rfl⟩
  · have start : opening <+: before ++ (opening ++ rest) := ⟨_, split.symm⟩
    rcases opening_prefix_of_append nonempty start with ⟨gap, rfl⟩
    rw [text, List.append_assoc] at split
    have behind := List.append_cancel_left split
    have brace : '\x7b' ∈ opening ++ rest := List.mem_cons_self
    have bracket : '[' ∉ opening := by decide
    rcases List.append_eq_append_iff.mp behind with ⟨inRole, roleSame, boxed⟩ | ⟨inBox, _, boxed⟩
    · -- What stands before the box from the inner opening on is its role.
      obtain ⟨role, inRoleSame, restSame⟩ : ∃ role, inRole = opening ++ role ∧
          rest = role ++ boxText shape.width shape.spaced shape.height := by
        rcases List.append_eq_append_iff.mp boxed with
          ⟨role, inRoleSame, restSame⟩ | ⟨middle, openingSame, boxSame⟩
        · exact ⟨role, inRoleSame, restSame⟩
        · cases middle with
          | nil =>
              rw [List.append_nil] at openingSame
              exact ⟨[], by rw [List.append_nil, openingSame], boxSame.symm⟩
          | cons c middle =>
              have bracketHere : '[' = c := (List.cons.inj boxSame).1
              rw [openingSame, bracketHere] at bracket
              exact absurd (List.mem_append_right inRole List.mem_cons_self) bracket
      have inner : role <:+: shape.role :=
        ⟨gap ++ opening, [], by rw [List.append_nil, roleSame, inRoleSame, List.append_assoc]⟩
      refine ⟨⟨role, shape.width, shape.spaced, shape.height,
        fun member => shape.line (inner.subset member), not_hasBox_inside inner shape.noBox,
        shape.widthDigits, shape.heightDigits⟩, ?_, rfl, rfl⟩
      rw [text, restSame]
    · apply False.elim
      apply brace_not_mem_boxText shape.widthDigits shape.heightDigits shape.spaced
      rw [boxed]
      exact List.mem_append_right inBox brace

/-- Whether a shape is an image token is a matter of its box. -/
theorem token?_ne_none_of_box {first second : Shape} (width : first.width = second.width)
    (height : first.height = second.height) (isToken : first.piece.token? ≠ none) :
    second.piece.token? ≠ none := by
  simp only [piece, Piece.token?, width, height] at isToken ⊢
  cases columns : size? second.width with
  | none => simp [columns] at isToken
  | some columns =>
      cases rows : size? second.height with
      | none => simp [rows] at isToken
      | some rows => simp

end Shape

theorem exists_of_mem_pieces {text : Text} {piece : Piece} (member : piece ∈ pieces text) :
    (∃ c, piece = .character c) ∨ ∃ shape : Shape, piece = shape.piece := by
  induction text using pieces_induction with
  | nil =>
      rw [pieces] at member
      cases member
  | shape text first after found inductionHypothesis =>
      rw [pieces_of_shape found] at member
      rcases List.mem_cons.mp member with rfl | later
      · rcases Shape.exists_of_shape? found with ⟨shape, same, _⟩
        exact .inr ⟨shape, same⟩
      · exact inductionHypothesis later
  | character c rest nothing inductionHypothesis =>
      rw [pieces_of_none nothing] at member
      rcases List.mem_cons.mp member with rfl | later
      · exact .inl ⟨c, rfl⟩
      · exact inductionHypothesis later

/-! ## Seams -/

/-- An image token up to the dot. -/
def mark : Text :=
  Token.opening ++ "IMAGE"

/-- What can stand in the place of an image token: without the letter that every opening
needs, and with a last character that no opening has. -/
structure Quiet (value : Text) : Prop where
  no_letter : 'E' ∉ value
  last : ∃ c, value.getLast? = some c ∧ c ∉ opening

/-- An opening does not go on behind a text that ends in another character. -/
theorem opening_prefix_of_last {text tail right : Text} {c : Char} (last : text.getLast? = some c)
    (other : c ∉ opening) (nonempty : tail ≠ []) (atEnd : tail <:+ text)
    (start : opening <+: tail ++ right) : opening <+: tail := by
  rcases List.prefix_or_prefix_of_prefix start (List.prefix_append tail right) with inside | longer
  · exact inside
  · rcases atEnd with ⟨before, rfl⟩
    rw [List.getLast?_append_of_ne_nil before nonempty] at last
    exact absurd (longer.subset (List.mem_of_getLast? last)) other

theorem Quiet.misses {value : Text} (quiet : Quiet value) (needle : Shape) {tail : Text}
    (nonempty : tail ≠ []) (atEnd : tail <:+ value) (right : Text) :
    ¬ needle.text <+: tail ++ right := by
  intro start
  rcases quiet.last with ⟨c, last, other⟩
  have opens := opening_prefix_of_last last other nonempty atEnd
    ((List.prefix_append opening _).trans start)
  exact quiet.no_letter (atEnd.subset (opens.subset (by decide)))

/-- A token begins within another shape only if it is part of another token. -/
theorem Shape.misses {needle shape : Shape} (isToken : needle.piece.token? ≠ none)
    (apart : shape.piece.token? ≠ none → needle.text <:+: shape.text → shape.text = needle.text)
    (different : shape.text ≠ needle.text) {tail : Text} (nonempty : tail ≠ [])
    (atEnd : tail <:+ shape.text) (right : Text) : ¬ needle.text <+: tail ++ right := by
  intro start
  have opens := opening_prefix_of_last shape.getLast?_text (by decide) nonempty atEnd
    ((List.prefix_append opening _).trans start)
  rcases shape.exists_inner atEnd opens with ⟨inner, rfl, width, height⟩
  have same := piece_eq_of_prefix start
  simp only [piece, Piece.shape.injEq] at same
  rcases same with ⟨sameText, _, sameWidth, sameHeight⟩
  apply different
  apply apart
  · exact token?_ne_none_of_box (sameWidth.trans width) (sameHeight.trans height) isToken
  · rw [sameText]
    exact atEnd.isInfix

/-- An opening that ends in a quiet text ends with the first character of it. -/
theorem eq_mark_of_opening {front value right : Text} (quiet : Quiet value)
    (start : opening <+: front ++ (value ++ right)) (open_ : ¬ opening <+: front) :
    front = mark := by
  have onlyDot : ∀ size < opening.length, 'E' ∉ opening.drop size → opening.take size = mark := by
    decide
  rcases List.prefix_or_prefix_of_prefix start (List.prefix_append front _) with inside | longer
  · exact absurd inside open_
  · rcases longer with ⟨back, split⟩
    have backNonempty : back ≠ [] := by
      intro empty
      rw [empty, List.append_nil] at split
      exact open_ (split ▸ List.prefix_refl _)
    have behind : back <+: value ++ right := by
      rw [← split] at start
      exact (List.prefix_append_right_inj front).mp start
    have inValue : back <+: value := by
      rcases List.prefix_or_prefix_of_prefix behind (List.prefix_append value right) with
        inside | longer
      · exact inside
      · rcases quiet.last with ⟨c, last, other⟩
        have inBack := longer.subset (List.mem_of_getLast? last)
        exact absurd (split ▸ List.mem_append_right front inBack) other
    have short : front.length < opening.length := by
      have lengths := congrArg List.length split
      have positive := List.length_pos_iff.mpr backNonempty
      rw [List.length_append] at lengths
      omega
    have dropped : opening.drop front.length = back := by rw [← split, List.drop_left]
    have taken : opening.take front.length = front := by rw [← split, List.take_left]
    rw [← taken]
    apply onlyDot _ short
    rw [dropped]
    exact fun member => quiet.no_letter (inValue.subset member)

/-! ## Passes -/

/-- A piece with its token replaced, if it has a value. -/
def Piece.replaced (values : List (Text × Text)) (piece : Piece) : Text :=
  match piece.token? with
  | some token => (values.lookup token.text).getD token.text
  | none => piece.text

/-- No image token among pieces comes directly behind the beginning of another one. -/
def Unmarked (parts : List Piece) : Prop :=
  ∀ front piece back, parts = front ++ piece :: back → piece.token? ≠ none →
    ¬ mark <:+ front.flatMap Piece.text

theorem Unmarked.tail {piece : Piece} {parts : List Piece} (unmarked : Unmarked (piece :: parts)) :
    Unmarked parts := by
  intro front other back split isToken atEnd
  apply unmarked (piece :: front) other back (by rw [split, List.cons_append]) isToken
  exact atEnd.trans (List.suffix_append _ _)

variable {values : List (Text × Text)}

theorem Piece.replaced_nil (piece : Piece) : piece.replaced [] = piece.text := by
  cases found : piece.token? with
  | none => rw [replaced, found]
  | some token =>
      rw [replaced, found, text_of_token? found]
      rfl

theorem Piece.replaced_cases (values : List (Text × Text)) (piece : Piece) :
    piece.replaced values = piece.text ∨
      piece.token? ≠ none ∧ ∃ item ∈ values, piece.replaced values = item.2 := by
  cases found : piece.token? with
  | none =>
      left
      rw [replaced, found]
  | some token =>
      cases known : values.lookup token.text with
      | none =>
          left
          rw [replaced, found, text_of_token? found]
          simp only [known, Option.getD_none]
      | some value =>
          right
          refine ⟨nofun, (token.text, value), mem_of_lookup known, ?_⟩
          rw [replaced, found]
          simp only [known, Option.getD_some]

theorem Piece.replaced_concat_of_ne {piece : Piece} {key : Text} (different : piece.text ≠ key)
    (value : Text) : piece.replaced (values ++ [(key, value)]) = piece.replaced values := by
  cases found : piece.token? with
  | none => rw [replaced, replaced, found]
  | some token =>
      rw [text_of_token? found] at different
      have noMore : [(key, value)].lookup token.text = none := by
        rw [List.lookup_cons, beq_false_of_ne different]
        rfl
      rw [replaced, replaced, found]
      simp only [List.lookup_append, noMore, Option.or_none]

theorem Piece.replaced_concat_self {piece : Piece} (isToken : piece.token? ≠ none)
    (new : values.lookup piece.text = none) (value : Text) :
    piece.replaced values = piece.text ∧
      piece.replaced (values ++ [(piece.text, value)]) = value := by
  rcases Option.ne_none_iff_exists'.mp isToken with ⟨token, found⟩
  rw [text_of_token? found] at new ⊢
  have here : [(token.text, value)].lookup token.text = some value := by
    rw [List.lookup_cons, beq_self_eq_true]
  rw [replaced, replaced, found]
  simp only [List.lookup_append, new, here, Option.none_or, Option.getD_none, Option.getD_some,
    and_self]

/-- The pieces up to the first one that is replaced. -/
theorem exists_first_replaced (values : List (Text × Text)) (parts : List Piece) :
    parts.flatMap (Piece.replaced values) = parts.flatMap Piece.text ∨
      ∃ front piece back item, parts = front ++ piece :: back ∧ piece.token? ≠ none ∧
        item ∈ values ∧ parts.flatMap (Piece.replaced values) =
          front.flatMap Piece.text ++ (item.2 ++ back.flatMap (Piece.replaced values)) := by
  induction parts with
  | nil => exact .inl rfl
  | cons first parts inductionHypothesis =>
      rw [List.flatMap_cons, List.flatMap_cons]
      rcases first.replaced_cases values with same | ⟨isToken, item, inValues, same⟩
      · rw [same]
        rcases inductionHypothesis with rest |
          ⟨front, piece, back, item, split, isToken, known, rest⟩
        · exact .inl (congrArg _ rest)
        · refine .inr ⟨first :: front, piece, back, item, ?_, isToken, known, ?_⟩
          · rw [split, List.cons_append]
          · rw [rest, List.flatMap_cons, List.append_assoc]
      · exact .inr ⟨[], first, parts, item, rfl, isToken, inValues, by rw [same]; rfl⟩

/-- What is open up to a shape on the same line would be a shape itself. -/
theorem Shape.swallowed (shape : Shape) {gap : Text} (line : '\n' ∉ gap) (after : Text) :
    shape? (opening ++ (gap ++ (shape.text ++ after))) ≠ none := by
  have boxed {front : Text} (line : '\n' ∉ front) : roleAndBox?
      (front ++ (boxText shape.width shape.spaced shape.height ++ after)) ≠ none := by
    induction front with
    | nil =>
        rw [List.nil_append, boxText, List.cons_append, roleAndBox?, ← List.cons_append, ← boxText,
          box?_boxText_append shape.widthDigits shape.heightDigits]
        exact Option.some_ne_none _
    | cons c front inductionHypothesis =>
        have otherChar : c ≠ '\n' := fun lineEnd => line (lineEnd ▸ List.mem_cons_self)
        have later := inductionHypothesis fun member => line (List.mem_cons_of_mem c member)
        rw [List.cons_append, roleAndBox?, if_neg otherChar]
        split
        · exact Option.some_ne_none _
        · exact fun none => later (Option.map_eq_none_iff.mp none)
  have inFront : '\n' ∉ gap ++ (opening ++ shape.role) := by
    have inOpening : '\n' ∉ opening := by decide
    simp [line, inOpening, shape.line]
  have found := boxed inFront
  intro none
  rw [shape?_opening, Option.map_eq_none_iff] at none
  apply found
  rw [← none, text]
  simp only [List.append_assoc]

/-- Where the scan finds a single character no token begins, whatever has been replaced
behind it. -/
theorem not_prefix_of_character {c : Char} {rest : Text} (nothing : shape? (c :: rest) = none)
    (unmarked : Unmarked (pieces (c :: rest))) (quiet : ∀ item ∈ values, Quiet item.2)
    (needle : Shape) :
    ¬ needle.text <+: c :: (pieces rest).flatMap (Piece.replaced values) := by
  have notHere {whole : Text} (start : needle.text <+: whole) : c :: rest ≠ whole := by
    rintro rfl
    rcases start with ⟨after, same⟩
    rw [← same, needle.shape?_text] at nothing
    cases nothing
  intro start
  rcases exists_first_replaced values (pieces rest) with
    same | ⟨front, piece, back, item, split, isToken, known, same⟩
  · rw [same, flatMap_pieces] at start
    exact notHere start rfl
  · rw [same, ← List.cons_append] at start
    have whole : c :: rest = (c :: front.flatMap Piece.text) ++ (piece.text ++
        back.flatMap Piece.text) := by
      rw [List.cons_append, ← List.flatMap_cons, ← List.flatMap_append, ← split, flatMap_pieces]
    have opens := (List.prefix_append opening _).trans start
    by_cases inFront : opening <+: c :: front.flatMap Piece.text
    · rcases inFront with ⟨gap, gapSame⟩
      -- The token goes on where another has been replaced, so the line does not end before that.
      have longer : c :: front.flatMap Piece.text <+: needle.text := by
        rcases List.prefix_or_prefix_of_prefix start (List.prefix_append _ _) with inside | longer
        · exact absurd whole (notHere (inside.trans (List.prefix_append _ _)))
        · exact longer
      have line : '\n' ∉ gap := fun member =>
        needle.line_text (longer.subset (gapSame ▸ List.mem_append_right opening member))
      have inPieces : piece ∈ pieces rest := split ▸ List.mem_append_right front List.mem_cons_self
      rcases exists_of_mem_pieces inPieces with ⟨d, rfl⟩ | ⟨shape, rfl⟩
      · exact isToken rfl
      · apply shape.swallowed line (back.flatMap Piece.text)
        rw [← List.append_assoc, gapSame, ← nothing, whole]
        rfl
    · have marked := eq_mark_of_opening (quiet item known) opens inFront
      rw [pieces_of_none nothing, split] at unmarked
      apply unmarked (.character c :: front) piece back rfl isToken
      rw [List.flatMap_cons]
      exact marked ▸ List.suffix_refl _

/-- A pass replaces just the pieces that are its token. -/
theorem replaceAll_replaced (quiet : ∀ item ∈ values, Quiet item.2) {needle : Shape}
    (isToken : needle.piece.token? ≠ none) (new : values.lookup needle.text = none) (value : Text)
    {text : Text} (apart : ∀ piece ∈ pieces text, piece.token? ≠ none →
      needle.text <:+: piece.text → piece.text = needle.text)
    (unmarked : Unmarked (pieces text)) :
    Text.replaceAll needle.text value ((pieces text).flatMap (Piece.replaced values)) =
      (pieces text).flatMap (Piece.replaced (values ++ [(needle.text, value)])) := by
  induction text using pieces_induction with
  | nil =>
      rw [pieces]
      rfl
  | shape text piece after found inductionHypothesis =>
      rcases Shape.exists_of_shape? found with ⟨shape, rfl, rfl⟩
      rw [pieces_of_shape found] at apart unmarked ⊢
      rcases List.forall_mem_cons.mp apart with ⟨shapeApart, restApart⟩
      have later := inductionHypothesis restApart unmarked.tail
      rw [List.flatMap_cons, List.flatMap_cons, ← later]
      -- The shape is the token itself, or no token begins anywhere in what stands for it.
      by_cases same : shape.text = needle.text
      · have start : needle.text <+: shape.text ++ [] := ⟨[], by rw [same]⟩
        have samePiece := Shape.piece_eq_of_prefix start
        rw [samePiece] at isToken
        rw [← same] at new ⊢
        rcases Piece.replaced_concat_self isToken new value with ⟨before, behind⟩
        change shape.piece.replaced (values ++ [(shape.text, value)]) = value at behind
        rw [before, behind]
        exact Text.replaceAll_needle_append shape.text_ne_nil value _
      · have different : shape.piece.text ≠ needle.text := same
        rw [Piece.replaced_concat_of_ne different]
        apply Text.replaceAll_append_of_misses
        intro tail nonempty atEnd
        rcases shape.piece.replaced_cases values with stays | ⟨_, item, known, replaced⟩
        · rw [stays] at atEnd
          exact Shape.misses isToken shapeApart same nonempty atEnd _
        · rw [replaced] at atEnd
          exact (quiet item known).misses needle nonempty atEnd _
  | character c rest nothing inductionHypothesis =>
      have notHere := not_prefix_of_character nothing unmarked quiet needle
      rw [pieces_of_none nothing] at apart unmarked ⊢
      have later := inductionHypothesis (List.forall_mem_cons.mp apart).2 unmarked.tail
      rw [List.flatMap_cons, List.flatMap_cons, ← later]
      exact Text.replaceAll_cons_of_miss notHere value

/-- Tokens that are not part of each other are replaced at their places, in any order. -/
theorem replaceEach_replaced {order : List (Text × Text)} {text : Text}
    (quiet : ∀ item ∈ values, Quiet item.2) (orderQuiet : ∀ item ∈ order, Quiet item.2)
    (distinct : ((values ++ order).map Prod.fst).Nodup)
    (tokens : ∀ item ∈ order, ∃ needle : Shape, needle.text = item.1 ∧
      needle.piece.token? ≠ none ∧ ∀ piece ∈ pieces text, piece.token? ≠ none →
        needle.text <:+: piece.text → piece.text = needle.text)
    (unmarked : Unmarked (pieces text)) :
    Page.replaceEach order ((pieces text).flatMap (Piece.replaced values)) =
      (pieces text).flatMap (Piece.replaced (values ++ order)) := by
  induction order generalizing values with
  | nil =>
      rw [List.append_nil]
      rfl
  | cons item order inductionHypothesis =>
      rcases List.forall_mem_cons.mp orderQuiet with ⟨itemQuiet, restQuiet⟩
      rcases List.forall_mem_cons.mp tokens with ⟨⟨needle, same, isToken, apart⟩, restTokens⟩
      have split : values ++ item :: order = (values ++ [item]) ++ order := by
        rw [List.append_assoc, List.singleton_append]
      have new : values.lookup item.1 = none := by
        apply lookup_eq_none_iff.mpr
        intro member
        rw [List.map_append, List.map_cons] at distinct
        exact (List.nodup_append.mp distinct).2.2 item.1 member item.1 List.mem_cons_self rfl
      have pass := replaceAll_replaced quiet isToken (same ▸ new) item.2 apart unmarked
      rw [same] at pass
      have nowQuiet : ∀ known ∈ values ++ [item], Quiet known.2 := by
        intro known member
        rcases List.mem_append.mp member with earlier | here
        · exact quiet known earlier
        · exact List.mem_singleton.mp here ▸ itemQuiet
      rw [split] at distinct ⊢
      rw [Page.replaceEach, List.foldl_cons, pass]
      exact inductionHypothesis nowQuiet restQuiet distinct restTokens

end ImageToken
end MediaSite
