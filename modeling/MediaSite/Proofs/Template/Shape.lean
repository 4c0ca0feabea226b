import Mathlib.Data.List.Infix
import MediaSite.Template.ImageToken

namespace MediaSite

/-!
# Shapes of image tokens

A box, the two sizes in brackets up to the end of a token, holds no opening
brace.  So where a text goes on with an opening brace, what follows has no part
in any box before it: `box?_append` reads a box off the first part alone.

A role ends at the first box on its line.  `roleAndBox?_append` carries this
over: either the first part of a text has a box on its first line, or the role
reaches over all of that part into the next, unless a line ends before.
-/

open scoped Text

namespace ImageToken

/-! ## Boxes -/

def Digits (text : Text) : Prop :=
  ∀ c ∈ text, Text.isDecimalDigit c = true

/-- The two sizes in brackets, up to the end of the token. -/
def boxText (width : Text) (spaced : Bool) (height : Text) : Text :=
  '[' :: (width ++ ',' :: ((if spaced then [' '] else []) ++ (height ++ closing)))

/-- A run of digits ends where another character follows. -/
theorem span_digits {digits : Text} (all : Digits digits) {c : Char}
    (other : Text.isDecimalDigit c = false) (rest : Text) :
    (digits ++ c :: rest).takeWhile Text.isDecimalDigit = digits ∧
      (digits ++ c :: rest).dropWhile Text.isDecimalDigit = c :: rest := by
  have stop : ¬ Text.isDecimalDigit c = true := by
    rw [other]
    exact Bool.false_ne_true
  rw [List.takeWhile_append_of_pos all, List.dropWhile_append_of_pos all,
    List.takeWhile_cons_of_neg stop, List.dropWhile_cons_of_neg stop, List.append_nil]
  exact ⟨rfl, rfl⟩

theorem box?_boxText_append {width height : Text} (widthDigits : Digits width)
    (heightDigits : Digits height) (spaced : Bool) (after : Text) :
    box? (boxText width spaced height ++ after) = some ((width, height), after) := by
  have closed : closing.isPrefixOf? (closing ++ after) = some after :=
    List.isPrefixOf?_eq_some_iff_append_eq.mpr rfl
  have closingSame : closing ++ after = ']' :: (Token.closing ++ after) := rfl
  rcases span_digits widthDigits
    (by decide : Text.isDecimalDigit ',' = false)
    ((if spaced then [' '] else []) ++ (height ++ (closing ++ after))) with ⟨widthRun, widthRest⟩
  rcases span_digits heightDigits
    (by decide : Text.isDecimalDigit ']' = false) (Token.closing ++ after) with
    ⟨heightRun, heightRest⟩
  rw [← closingSame] at heightRun heightRest
  have same : boxText width spaced height ++ after =
      '[' :: (width ++ ',' ::
        ((if spaced then [' '] else []) ++ (height ++ (closing ++ after)))) := by
    simp only [boxText, List.cons_append, List.append_assoc]
  rw [same, box?]
  simp only [widthRun, widthRest]
  cases spaced with
  | true =>
      simp only [if_true, List.singleton_append, heightRun, heightRest, closed, Option.map_some]
  | false =>
      -- The height does not begin with a space, so nothing is skipped before it.
      have noSpace : ∀ rest, height ++ (closing ++ after) ≠ ' ' :: rest := by
        intro rest begins
        cases height with
        | nil =>
            rw [closingSame] at begins
            exact absurd (List.cons.inj begins).1 (by decide)
        | cons c height =>
            have digit := heightDigits c List.mem_cons_self
            rw [(List.cons.inj begins).1] at digit
            exact absurd digit (by decide)
      simp only [Bool.false_eq_true, if_false, List.nil_append, heightRun, heightRest, closed,
        Option.map_some]

/-- What is read as a box stands there as one. -/
theorem eq_boxText_of_box? {text width height after : Text}
    (found : box? text = some ((width, height), after)) :
    Digits width ∧ Digits height ∧ ∃ spaced, text = boxText width spaced height ++ after := by
  unfold box? at found
  split at found
  · rename_i text
    dsimp only at found
    split at found
    · rename_i behindComma comma
      have run (text : Text) : Digits (text.takeWhile Text.isDecimalDigit) :=
        List.all_eq_true.mp List.all_takeWhile
      have widthSame : text = text.takeWhile Text.isDecimalDigit ++ ',' :: behindComma := by
        rw [← comma, List.takeWhile_append_dropWhile]
      rcases Option.map_eq_some_iff.mp found with ⟨rest, closes, same⟩
      rcases Prod.mk.inj same with ⟨sizes, rfl⟩
      rcases Prod.mk.inj sizes with ⟨rfl, rfl⟩
      have closed := List.isPrefixOf?_eq_some_iff_append_eq.mp closes
      refine ⟨run text, run _, ?_⟩
      split at closed
      · rename_i behindSpace
        have heightSame : behindSpace =
            behindSpace.takeWhile Text.isDecimalDigit ++ (closing ++ rest) := by
          rw [closed, List.takeWhile_append_dropWhile]
        refine ⟨true, ?_⟩
        simp only [boxText, if_true, List.cons_append, List.append_assoc, List.nil_append]
        rw [← heightSame, ← widthSame]
      · have heightSame : behindComma =
            behindComma.takeWhile Text.isDecimalDigit ++ (closing ++ rest) := by
          rw [closed, List.takeWhile_append_dropWhile]
        refine ⟨false, ?_⟩
        simp only [boxText, Bool.false_eq_true, if_false, List.cons_append, List.append_assoc,
          List.nil_append]
        rw [← heightSame, ← widthSame]
    · cases found
  · cases found

theorem not_mem_digits {text : Text} (all : Digits text) {c : Char}
    (other : Text.isDecimalDigit c = false) : c ∉ text := by
  intro member
  have digit := all c member
  rw [other] at digit
  cases digit

theorem brace_not_mem_boxText {width height : Text} (widthDigits : Digits width)
    (heightDigits : Digits height) (spaced : Bool) :
    '\x7b' ∉ boxText width spaced height := by
  have inWidth := not_mem_digits widthDigits (by decide : Text.isDecimalDigit '\x7b' = false)
  have inHeight := not_mem_digits heightDigits (by decide : Text.isDecimalDigit '\x7b' = false)
  have inClosing : '\x7b' ∉ closing := by decide
  cases spaced <;> simp [boxText, inWidth, inHeight, inClosing]

/-- An opening brace behind a text has no part in a box at its beginning. -/
theorem box?_append (text rest : Text) :
    box? (text ++ '\x7b' :: rest) =
      (box? text).map fun found => (found.1, found.2 ++ '\x7b' :: rest) := by
  cases found : box? text with
  | some parts =>
      rcases parts with ⟨⟨width, height⟩, after⟩
      rcases eq_boxText_of_box? found with ⟨widthDigits, heightDigits, spaced, same⟩
      rw [same, List.append_assoc, box?_boxText_append widthDigits heightDigits]
      rfl
  | none =>
      cases joined : box? (text ++ '\x7b' :: rest) with
      | none => rfl
      | some parts =>
          rcases parts with ⟨⟨width, height⟩, after⟩
          rcases eq_boxText_of_box? joined with ⟨widthDigits, heightDigits, spaced, same⟩
          have whole (middle : Text) : box? (boxText width spaced height ++ middle) ≠ none := by
            rw [box?_boxText_append widthDigits heightDigits]
            exact Option.some_ne_none _
          rcases List.append_eq_append_iff.mp same with ⟨middle, split, behind⟩ | ⟨middle, split, _⟩
          · cases middle with
            | nil =>
                rw [List.append_nil] at split
                have short := whole []
                rw [List.append_nil, split] at short
                exact absurd found short
            | cons c middle =>
                apply False.elim
                apply brace_not_mem_boxText widthDigits heightDigits spaced
                rw [split, (List.cons.inj behind).1]
                exact List.mem_append_right text List.mem_cons_self
          · rw [split] at found
            exact absurd found (whole middle)

def HasBox (text : Text) : Prop :=
  ∃ width spaced height, Digits width ∧ Digits height ∧ boxText width spaced height <:+: text

/-! ## Roles -/

theorem eq_boxText_of_roleAndBox? {text role width height after : Text}
    (found : roleAndBox? text = some (role, (width, height), after)) :
    Digits width ∧ Digits height ∧
      ∃ spaced, text = role ++ (boxText width spaced height ++ after) := by
  induction text generalizing role with
  | nil => cases found
  | cons c text inductionHypothesis =>
      rw [roleAndBox?] at found
      split at found
      · rename_i box rest here
        rcases Prod.mk.inj (Option.some.inj found) with ⟨rfl, same⟩
        rcases Prod.mk.inj same with ⟨rfl, rfl⟩
        exact eq_boxText_of_box? here
      · split at found
        · cases found
        · rcases Option.map_eq_some_iff.mp found with ⟨⟨tail, sizes, rest⟩, later, same⟩
          cases same
          rcases inductionHypothesis later with ⟨widthDigits, heightDigits, spaced, split⟩
          exact ⟨widthDigits, heightDigits, spaced, by rw [split, List.cons_append]⟩

/-- On a single line a role is found exactly if there is a box. -/
theorem roleAndBox?_eq_none_iff {text : Text} (line : '\n' ∉ text) :
    roleAndBox? text = none ↔ ¬ HasBox text := by
  constructor
  · rintro nothing ⟨width, spaced, height, widthDigits, heightDigits, front, back, same⟩
    induction front generalizing text with
    | nil =>
        rw [List.nil_append, boxText, List.cons_append] at same
        have here := box?_boxText_append widthDigits heightDigits spaced back
        rw [boxText, List.cons_append] at here
        rw [← same, roleAndBox?, here] at nothing
        cases nothing
    | cons c front inductionHypothesis =>
        rw [← same, List.cons_append, List.cons_append] at nothing line
        rw [roleAndBox?] at nothing
        have otherChar : c ≠ '\n' := fun lineEnd => line (lineEnd ▸ List.mem_cons_self)
        split at nothing
        · cases nothing
        · rw [if_neg otherChar, Option.map_eq_none_iff] at nothing
          exact inductionHypothesis (fun member => line (List.mem_cons_of_mem c member)) nothing rfl
  · intro noBox
    cases found : roleAndBox? text with
    | none => rfl
    | some read =>
        rcases read with ⟨role, ⟨width, height⟩, after⟩
        rcases eq_boxText_of_roleAndBox? found with ⟨widthDigits, heightDigits, spaced, same⟩
        apply False.elim
        apply noBox
        exact ⟨width, spaced, height, widthDigits, heightDigits, role, after, by
          rw [same, List.append_assoc]⟩

/-- Before an opening brace a role ends with a box of its own, or with its line,
or goes on behind the brace. -/
theorem roleAndBox?_append (text rest : Text) :
    roleAndBox? (text ++ '\x7b' :: rest) =
      match roleAndBox? text with
      | some read => some (read.1, read.2.1, read.2.2 ++ '\x7b' :: rest)
      | none =>
        if '\n' ∈ text then none
        else (roleAndBox? ('\x7b' :: rest)).map fun read => (text ++ read.1, read.2) := by
  induction text with
  | nil => simp [roleAndBox?]
  | cons c text inductionHypothesis =>
      have box := box?_append (c :: text) rest
      rw [List.cons_append] at box
      rw [List.cons_append, roleAndBox?, roleAndBox?, box]
      cases box? (c :: text) with
      | some found => rfl
      | none =>
          simp only [Option.map_none]
          by_cases lineEnd : c = '\n'
          · simp [lineEnd]
          · have sameLine : '\n' ∈ c :: text ↔ '\n' ∈ text := by
              rw [List.mem_cons]
              exact ⟨fun member => member.resolve_left fun same => lineEnd same.symm, .inr⟩
            simp only [if_neg lineEnd, inductionHypothesis, sameLine]
            cases roleAndBox? text with
            | some read => rfl
            | none =>
                simp only [Option.map_none]
                split
                · rfl
                · rw [Option.map_map]
                  rfl

/-- A role without brackets ends at the first box. -/
theorem roleAndBox?_boxText {role width height : Text} (noBracket : '[' ∉ role)
    (line : '\n' ∉ role) (widthDigits : Digits width) (heightDigits : Digits height)
    (spaced : Bool) (after : Text) :
    roleAndBox? (role ++ (boxText width spaced height ++ after)) =
      some (role, (width, height), after) := by
  induction role with
  | nil =>
      have here := box?_boxText_append widthDigits heightDigits spaced after
      rw [boxText, List.cons_append] at here ⊢
      rw [List.nil_append, roleAndBox?, here]
  | cons c role inductionHypothesis =>
      have otherChar : c ≠ '\n' := fun lineEnd => line (lineEnd ▸ List.mem_cons_self)
      have noBox : box? (c :: (role ++ (boxText width spaced height ++ after))) = none := by
        unfold box?
        split
        · rename_i same
          exact absurd ((List.cons.inj same).1 ▸ List.mem_cons_self) noBracket
        · rfl
      rw [List.cons_append, roleAndBox?, noBox]
      simp only [if_neg otherChar]
      rw [inductionHypothesis (fun member => noBracket (List.mem_cons_of_mem c member))
        (fun member => line (List.mem_cons_of_mem c member))]
      rfl

/-! ## Shapes -/

/-- Two openings do not overlap: none begins before another and ends inside of it. -/
theorem opening_prefix_of_append {before : Text} (nonempty : before ≠ []) {rest : Text}
    (start : opening <+: before ++ (opening ++ rest)) : opening <+: before := by
  have noOverlap : ∀ size < opening.length, 0 < size → ¬ opening.drop size <+: opening := by
    decide +kernel
  rcases List.prefix_or_prefix_of_prefix start (List.prefix_append before _) with inside | longer
  · exact inside
  · rcases longer with ⟨back, split⟩
    by_cases long : opening.length ≤ before.length
    · have backEmpty : back = [] := by
        have lengths := congrArg List.length split
        rw [List.length_append] at lengths
        exact List.length_eq_zero_iff.mp (by omega)
      rw [← split, backEmpty, List.append_nil]
    · have back_ : back <+: opening := by
        rcases start with ⟨after, joined⟩
        have shifted : before ++ (back ++ after) = before ++ (opening ++ rest) := by
          rw [← List.append_assoc, split, joined]
        have behind : back <+: opening ++ rest := ⟨after, List.append_cancel_left shifted⟩
        apply List.prefix_of_prefix_length_le behind (List.prefix_append opening rest)
        rw [← split, List.length_append]
        omega
      have dropped : opening.drop before.length = back := by
        rw [← split, List.drop_left]
      apply False.elim
      apply noOverlap before.length (Nat.not_le.mp long) (List.length_pos_iff.mpr nonempty)
      rw [dropped]
      exact back_

theorem shape?_opening (gap : Text) :
    shape? (opening ++ gap) = (roleAndBox? gap).map fun read =>
      (.shape ((opening ++ gap).take ((opening ++ gap).length - read.2.2.length)) read.1
        read.2.1.1 read.2.1.2, read.2.2) := by
  have start : opening.isPrefixOf? (opening ++ gap) = some gap :=
    List.isPrefixOf?_eq_some_iff_append_eq.mpr rfl
  simp only [shape?, start, Option.bind_eq_bind, Option.bind_some]
  cases roleAndBox? gap <;> rfl

theorem shape?_eq_none {text : Text} (absent : ¬ opening <+: text) : shape? text = none := by
  have start : opening.isPrefixOf? text = none := by
    cases found : opening.isPrefixOf? text with
    | none => rfl
    | some gap =>
        exact False.elim (absent ⟨gap, List.isPrefixOf?_eq_some_iff_append_eq.mp found⟩)
  rw [shape?, start]
  rfl

theorem eq_of_shape? {text after : Text} {piece : Piece}
    (found : shape? text = some (piece, after)) :
    ∃ role width spaced height, Digits width ∧ Digits height ∧
      piece = .shape (opening ++ (role ++ boxText width spaced height)) role width height ∧
      text = opening ++ (role ++ (boxText width spaced height ++ after)) := by
  by_cases start : opening <+: text
  · rcases start with ⟨gap, rfl⟩
    rw [shape?_opening] at found
    rcases Option.map_eq_some_iff.mp found with ⟨⟨role, ⟨width, height⟩, rest⟩, read, same⟩
    rcases Prod.mk.inj same with ⟨pieceSame, rfl⟩
    rcases eq_boxText_of_roleAndBox? read with ⟨widthDigits, heightDigits, spaced, split⟩
    refine ⟨role, width, spaced, height, widthDigits, heightDigits, ?_, by rw [split]⟩
    have taken : (opening ++ gap).take ((opening ++ gap).length - rest.length) =
        opening ++ (role ++ boxText width spaced height) := by
      have joined : opening ++ gap =
          (opening ++ (role ++ boxText width spaced height)) ++ rest := by
        rw [split, List.append_assoc, List.append_assoc]
      rw [joined, List.length_append, Nat.add_sub_cancel, List.take_left]
    rw [← pieceSame, taken]
  · rw [shape?_eq_none start] at found
    cases found

theorem text_of_shape? {text after : Text} {piece : Piece}
    (found : shape? text = some (piece, after)) :
    piece.text ++ after = text ∧ after.length < text.length := by
  rcases eq_of_shape? found with ⟨role, width, spaced, height, _, _, rfl, rfl⟩
  constructor
  · rw [Piece.text, List.append_assoc, List.append_assoc]
  · simp only [List.length_append, boxText, List.length_cons]
    omega

/-! ## Pieces -/

theorem pieces_of_shape {text after : Text} {piece : Piece}
    (found : shape? text = some (piece, after)) : pieces text = piece :: pieces after := by
  have shorter := (text_of_shape? found).2
  cases text with
  | nil => exact absurd shorter (Nat.not_lt_zero _)
  | cons c rest =>
      rw [pieces]
      split
      · rename_i same
        rw [found] at same
        rcases Prod.mk.inj (Option.some.inj same) with ⟨rfl, rfl⟩
        rw [dif_pos shorter]
      · rename_i nothing
        rw [found] at nothing
        cases nothing

theorem pieces_of_none {c : Char} {rest : Text} (nothing : shape? (c :: rest) = none) :
    pieces (c :: rest) = .character c :: pieces rest := by
  rw [pieces, nothing]

/-- The induction that follows the pieces of a text. -/
theorem pieces_induction {motive : Text → Prop} (nil : motive [])
    (shape : ∀ text piece after, shape? text = some (piece, after) → motive after → motive text)
    (character : ∀ c rest, shape? (c :: rest) = none → motive rest → motive (c :: rest))
    (text : Text) : motive text := by
  induction count : text.length using Nat.strong_induction_on generalizing text with
  | h size inductionHypothesis =>
      subst count
      cases text with
      | nil => exact nil
      | cons c rest =>
          cases found : shape? (c :: rest) with
          | none =>
              exact character c rest found
                (inductionHypothesis rest.length (Nat.lt_succ_self rest.length) rest rfl)
          | some parts =>
              have shorter := (text_of_shape? found).2
              exact shape (c :: rest) parts.1 parts.2 found
                (inductionHypothesis parts.2.length shorter parts.2 rfl)

/-- Joined again the pieces are the text. -/
theorem flatMap_pieces (text : Text) : (pieces text).flatMap Piece.text = text := by
  induction text using pieces_induction with
  | nil => rw [pieces]; rfl
  | shape text piece after found inductionHypothesis =>
      rw [pieces_of_shape found, List.flatMap_cons, inductionHypothesis]
      exact (text_of_shape? found).1
  | character c rest nothing inductionHypothesis =>
      rw [pieces_of_none nothing, List.flatMap_cons, inductionHypothesis]
      rfl

end ImageToken
end MediaSite
