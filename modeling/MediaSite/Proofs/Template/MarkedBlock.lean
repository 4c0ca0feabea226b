import MediaSite.Proofs.Site.Rendering
import MediaSite.Proofs.Template.Tidy

namespace MediaSite

/-!
# Blocks of texts that carry tokens

Markers are tokens, so where they stand in a text that carries tokens is known
from the names it carries.  If a name has one pair of markers, both ways to match
select the block between them; and since a copy of the block would begin with a
second opening marker, both put a text in its place alone.

`Block.withItems_of_carries` says so for blocks of items, and
`Block.withColumns_of_carries` that a text without the opening marker is left as
it is.
-/

open scoped Text
open Text (Carries)

namespace Block

/-- The name of the marker that opens a block. -/
def openingName (name : Text) : Text :=
  Token.beginMark ++ name

/-- The name of the marker that closes a block. -/
def closingName (name : Text) : Text :=
  Token.endMark ++ name

theorem braceFree_openingName {name : Text} (free : Token.BraceFree name) :
    Token.BraceFree (openingName name) := by
  have mark : Token.BraceFree Token.beginMark := by decide
  exact ⟨fun member => (List.mem_append.mp member).elim mark.1 free.1,
    fun member => (List.mem_append.mp member).elim mark.2 free.2⟩

theorem braceFree_closingName {name : Text} (free : Token.BraceFree name) :
    Token.BraceFree (closingName name) := by
  have mark : Token.BraceFree Token.endMark := by decide
  exact ⟨fun member => (List.mem_append.mp member).elim mark.1 free.1,
    fun member => (List.mem_append.mp member).elim mark.2 free.2⟩

variable {name text : Text} {before inside after names : List Text}

theorem first?_of_absent (free : Token.BraceFree name) (carries : Carries text names)
    (absent : openingName name ∉ names) : first? name text = none := by
  have noMarker : ¬ opening name <:+: text :=
    carries.not_occurs (braceFree_openingName free) absent
  rw [first?, Text.cut?_eq_none_of_absent noMarker]
  rfl

theorem withColumns_of_carries (free : Token.BraceFree name) (carries : Carries text names)
    (absent : openingName name ∉ names) (mode : BlockMatch) (items : List Text)
    (columns : List (List Text)) : withColumns mode name items columns text = text := by
  rw [withColumns, first?_of_absent free carries absent]

/-- A token is found where a text that carries it comes apart. -/
theorem cut?_of_carries {left : Text} (free : Token.BraceFree name)
    (carries : Carries left before) (fresh : name ∉ before) (right : Text) :
    Text.cut? (Token.ofName name) (left ++ (Token.ofName name ++ right)) = some (left, right) :=
  Text.cut?_of_fresh (carries.not_occurs free fresh) right fun across =>
    carries.not_dangling (Token.dangling_of_straddles free across)

/-- The only pair of markers of a name encloses its first block. -/
theorem first?_of_carries (free : Token.BraceFree name)
    (carries : Carries text
      (before ++ openingName name :: (inside ++ closingName name :: after)))
    (fresh : openingName name ∉ before) (inner : closingName name ∉ inside) :
    ∃ left body right, first? name text =
        some ⟨left, opening name ++ body ++ closing name, Text.trim body, right⟩ ∧
      text = left ++ (opening name ++ body ++ closing name) ++ right ∧
      Carries left before ∧ Carries body inside ∧ Carries right after := by
  rcases carries.split with ⟨left, rest, rfl, leftCarries, restCarries⟩
  rcases restCarries.split with ⟨body, right, rfl, bodyCarries, rightCarries⟩
  refine ⟨left, body, right, ?_, ?_, leftCarries, bodyCarries, rightCarries⟩
  · have opens := cut?_of_carries (braceFree_openingName free) leftCarries fresh
      (body ++ (Token.ofName (closingName name) ++ right))
    have closes := cut?_of_carries (braceFree_closingName free) bodyCarries inner right
    change Text.cut? (opening name) _ = _ at opens
    change Text.cut? (closing name) _ = _ at closes
    simp only [first?, opens, closes, Option.bind_eq_bind, Option.bind_some]
    rfl
  · simp only [opening, closing, openingName, closingName, List.append_assoc]

/-- Where no marker opens in front of a block or behind it, no other copy of the
block is replaced. -/
theorem replaceAll_source {left body right : Text} (free : Token.BraceFree name)
    (leftCarries : Carries left before) (rightCarries : Carries right after)
    (fresh : openingName name ∉ before) (alone : openingName name ∉ after) (rendered : Text) :
    Text.replaceAll (opening name ++ body) rendered (left ++ (opening name ++ body) ++ right) =
      left ++ rendered ++ right := by
  have nameFree := braceFree_openingName free
  have nonempty : opening name ++ body ≠ [] :=
    List.append_ne_nil_of_left_ne_nil (Token.ofName_ne_nil _) body
  have notLeft : ¬ opening name <:+: left := leftCarries.not_occurs nameFree fresh
  have notRight : ¬ opening name <:+: right := rightCarries.not_occurs nameFree alone
  have startsWith : opening name <:+: opening name ++ body := (List.prefix_append _ _).isInfix
  -- A copy that begins in front of the block would open there, or cross the seam with its marker.
  have seam : ¬ Text.Straddles (opening name ++ body) left (opening name ++ body ++ right) := by
    rintro ⟨front, back, split, frontNonempty, backNonempty, atEnd, atStart⟩
    rcases List.append_eq_append_iff.mp split with ⟨middle, frontSame, _⟩ | ⟨middle, markSame, rest⟩
    · rw [frontSame] at atEnd
      exact notLeft ((List.prefix_append _ middle).isInfix.trans atEnd.isInfix)
    · by_cases middleEmpty : middle = []
      · rw [middleEmpty, List.append_nil] at markSame
        rw [← markSame] at atEnd
        exact notLeft atEnd.isInfix
      · have backSame : middle <+: opening name ++ body ++ right :=
          (List.prefix_append middle body).trans (rest ▸ atStart)
        exact leftCarries.not_dangling (Token.dangling_of_straddles nameFree
          ⟨front, middle, markSame, frontNonempty, middleEmpty, atEnd, backSame⟩)
  rw [List.append_assoc, Text.replaceAll_append nonempty seam,
    Text.replaceAll_of_not_infix (fun occurs => notLeft (startsWith.trans occurs)),
    Text.replaceAll_needle_append nonempty,
    Text.replaceAll_of_not_infix (fun occurs => notRight (startsWith.trans occurs)),
    List.append_assoc]

/-- Both ways to match select the only block of a name, and replace it alone. -/
theorem select_of_carries (free : Token.BraceFree name)
    (carries : Carries text
      (before ++ openingName name :: (inside ++ closingName name :: after)))
    (fresh : openingName name ∉ before) (inner : closingName name ∉ inside)
    (alone : openingName name ∉ after) :
    ∃ block, (∀ mode, select mode name text = some block) ∧ Carries block.before before ∧
      Carries block.inner inside ∧ Carries block.after after ∧
      ∀ mode rendered, block.replace mode rendered = block.before ++ rendered ++ block.after := by
  rcases first?_of_carries free carries fresh inner with
    ⟨left, body, right, found, whole, leftCarries, bodyCarries, rightCarries⟩
  refine ⟨⟨left, opening name ++ body ++ closing name, Text.trim body, right⟩, ?_, leftCarries,
    bodyCarries.trim, rightCarries, ?_⟩
  · intro mode
    cases mode with
    | first => exact found
    | last =>
        have shorter : right.length < text.length := by
          have filled : 0 < (opening name).length := Nat.succ_pos _
          rw [whole]
          simp only [List.length_append]
          omega
        have noMore := first?_of_absent free rightCarries alone
        have rest (passed : Text) : scanAfter name passed right = [] := by
          rw [scanAfter, noMore]
        rw [select, scan, scanAfter, found]
        simp only [if_pos shorter, rest, List.nil_append, List.getLast?_singleton]
  · intro mode rendered
    cases mode with
    | first => rfl
    | last =>
        rw [replace, Block.text, List.append_assoc (opening name)]
        exact replaceAll_source free leftCarries rightCarries fresh alone rendered

/-- The only block of a name is repeated for each item, between what it stood between. -/
theorem withItems_of_carries (free : Token.BraceFree name)
    (carries : Carries text
      (before ++ openingName name :: (inside ++ closingName name :: after)))
    (fresh : openingName name ∉ before) (inner : closingName name ∉ inside)
    (alone : openingName name ∉ after) (mode : BlockMatch) :
    ∃ left body right, Carries left before ∧ Carries body inside ∧ Carries right after ∧
      ∀ {σ α : Type} (items : List α) (render : Text → α → StateM σ Text),
        withItems mode name items render text =
          (items.mapM (render body) >>= fun rendered =>
            pure (left ++ joinItems rendered ++ right)) := by
  rcases select_of_carries free carries fresh inner alone with
    ⟨block, selected, beforeCarries, innerCarries, afterCarries, replaced⟩
  refine ⟨block.before, block.inner, block.after, beforeCarries, innerCarries, afterCarries, ?_⟩
  intro σ α items render
  rw [withItems, selected mode]
  simp only [replaced]

/-- Copies joined by a plain text carry what each of them carries. -/
theorem carries_join {separator : Text} (plain : Text.Plain separator) {copies : List Text}
    (carries : ∀ copy ∈ copies, Carries copy names) :
    Carries (Text.join separator copies) (List.replicate copies.length names).flatten := by
  induction copies with
  | nil => exact Carries.of_plain List.not_mem_nil
  | cons copy copies inductionHypothesis =>
      rcases List.forall_mem_cons.mp carries with ⟨here, later⟩
      rw [List.length_cons, List.replicate_succ, List.flatten_cons]
      cases copies with
      | nil =>
          have same : Text.join separator [copy] = copy := List.append_nil copy
          rw [same]
          exact (List.append_nil names).symm ▸ here
      | cons next copies =>
          have same : Text.join separator (copy :: next :: copies) =
              copy ++ (separator ++ Text.join separator (next :: copies)) := by
            rw [Text.join, List.intercalate_cons_cons, List.append_assoc]
            rfl
          rw [same]
          exact here.append ((Carries.of_plain plain).append (inductionHypothesis later))

/-- Items one below the other carry what each of them carries. -/
theorem carries_joinItems {items : List Text} (carries : ∀ item ∈ items, Carries item names) :
    Carries (joinItems items) (List.replicate items.length names).flatten :=
  carries_join (by decide) carries

end Block
end MediaSite
