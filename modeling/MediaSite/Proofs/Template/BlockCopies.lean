import MediaSite.Proofs.Template.BlockSearch
import MediaSite.Proofs.Template.MarkedBlock

namespace MediaSite

/-!
# Copies of a block

In last mode a text is put in the place of every copy of the block that was found.  The
pass over the text goes from left to right, so a copy that overlaps the one before it
would be missed, and the block itself could be among those.

A block does not overlap its copies if its name has no brace.  An overlap would be a proper
part that both begins and ends the block.  If it is long enough it ends with the marker that
closes the block, but this marker stands in the block at its end only
(`Block.rest_eq_nil`).  If it is shorter it is an end of the closing marker with one brace,
but the block begins with two.
-/

open scoped Text
open Text (byteLength byteLength_append StandsAt)

namespace Block

variable {name text : Text} {start : Nat} {block : Block}

/-! ## Markers inside of each other -/

theorem opening_eq (name : Text) : ∃ rest, opening name = '\x7b' :: '\x7b' :: ' ' :: 'B' :: rest :=
  ⟨_, rfl⟩

theorem closing_eq (name : Text) : ∃ rest, closing name = '\x7b' :: '\x7b' :: ' ' :: 'E' :: rest :=
  ⟨_, rfl⟩

/-- A marker that begins with a brace behind its beginning has lost one of two. -/
theorem tail_of_marker {marker front tail : Text} (free : Token.BraceFree marker)
    (split : Token.ofName marker = front ++ '\x7b' :: tail) (nonempty : front ≠ []) :
    ∃ rest, tail = ' ' :: rest := by
  rw [Token.front_of_brace_behind free split nonempty, Token.ofName_eq] at split
  exact ⟨_, (List.cons.inj (List.cons.inj split).2).2.symm⟩

/-- The marker that closes a block begins nowhere inside of the one that opens it. -/
theorem closing_not_within_opening (free : Token.BraceFree name) {front middle rest : Text}
    (split : opening name = front ++ middle) (nonempty : middle ≠ []) :
    ¬ closing name <+: middle ++ rest := by
  rintro ⟨after, same⟩
  rcases closing_eq name with ⟨closes, closingSame⟩
  rw [closingSame] at same
  cases middle with
  | nil => exact nonempty rfl
  | cons c middle =>
      rcases List.cons.inj same with ⟨rfl, second⟩
      by_cases atStart : front = []
      · rcases opening_eq name with ⟨opens, openingSame⟩
        rw [atStart, openingSame, List.nil_append] at split
        rw [← (List.cons.inj split).2] at second
        exact absurd (List.cons.inj (List.cons.inj (List.cons.inj second).2).2).1 (by decide)
      · rcases tail_of_marker (braceFree_openingName free) split atStart with ⟨_, rfl⟩
        exact absurd (List.cons.inj second).1 (by decide)

/-- The marker that closes a block stands in it at its end only. -/
theorem rest_eq_nil (isFirst : IsFirstFrom start name text block) (free : Token.BraceFree name)
    {front rest : Text} (split : block.source = front ++ (closing name ++ rest)) : rest = [] := by
  rcases isFirst.inside with ⟨body, source, _⟩
  have whole : opening name ++ (body ++ closing name) = front ++ (closing name ++ rest) := by
    rw [← split, source, List.append_assoc]
  -- No closing marker begins inside of the opening one, so it stands behind that.
  have behind : ∃ middle, front = opening name ++ middle := by
    rcases List.append_eq_append_iff.mp whole with ⟨middle, same, _⟩ | ⟨middle, same, later⟩
    · exact ⟨middle, same⟩
    · by_cases empty : middle = []
      · exact ⟨[], by rw [same, empty, List.append_nil, List.append_nil]⟩
      · exact absurd ⟨rest, later⟩ (closing_not_within_opening free same empty)
  rcases behind with ⟨middle, rfl⟩
  rcases isFirst.closes with ⟨ends, last, least⟩
  have stands : StandsAt (closing name) text
      (byteLength (block.before ++ (opening name ++ middle))) := by
    refine ⟨_, rest ++ block.after, ?_, rfl⟩
    rw [← isFirst.whole, Block.text, split]
    simp only [List.append_assoc]
  rw [byteLength_append, byteLength_append] at stands
  have low := least.2 ⟨by simp only [span]; omega, stands⟩
  simp only [span, split, byteLength_append] at last
  by_contra filled
  have positive := Text.byteLength_pos filled
  omega

/-- No proper part of a block both begins and ends it. -/
theorem unbordered_source (isFirst : IsFirstFrom start name text block)
    (free : Token.BraceFree name) : Text.Unbordered block.source := by
  rintro border nonempty proper ⟨rest, begins⟩ ends
  rcases isFirst.inside with ⟨body, source, _⟩
  have closes : closing name <:+ block.source := ⟨opening name ++ body, source.symm⟩
  rcases List.suffix_or_suffix_of_suffix closes ends with ⟨front, long⟩ | ⟨front, short⟩
  · -- The border ends with the closing marker, and so the block ends with the border.
    have split : block.source = front ++ (closing name ++ rest) := by
      rw [← begins, ← long, List.append_assoc]
    have atEnd := rest_eq_nil isFirst free split
    rw [atEnd, List.append_nil] at begins
    exact proper begins
  · rcases opening_eq name with ⟨opens, openingSame⟩
    rcases closing_eq name with ⟨marker, closingSame⟩
    rw [source, openingSame] at begins
    cases border with
    | nil => exact nonempty rfl
    | cons c border =>
        rcases List.cons.inj begins with ⟨rfl, second⟩
        by_cases whole : front = []
        · -- The border is the closing marker, but the block begins with the opening one.
          rw [whole, closingSame, List.nil_append] at short
          rw [(List.cons.inj short).2] at second
          exact absurd (List.cons.inj (List.cons.inj (List.cons.inj second).2).2).1 (by decide)
        · rcases tail_of_marker (braceFree_closingName free) short.symm whole with ⟨_, rfl⟩
          exact absurd (List.cons.inj second).1 (by decide)

/-! ## Replacing copies -/

theorem standsAt_span (block : Block) : StandsAt block.source block.text block.span.1 :=
  ⟨block.before, block.after, rfl, rfl⟩

/-- Copies of a block that was found under a name without braces do not overlap, and in last
mode each of them is replaced and nothing else.  A block without another copy is replaced
alone, as it is in first mode. -/
theorem replace_every_copy (free : Token.BraceFree name) {mode : BlockMatch}
    (found : find mode name text = .ok (some block)) (rendered : Text) :
    Text.KeepsApart block.source text ∧
    (StandsAt block.source text block.span.1 ∧
      block.span.2 = block.span.1 + byteLength block.source) ∧
    (∃ parts, Text.join block.source parts = text ∧
      block.replace .last rendered = Text.join rendered parts ∧
      ∀ offset, StandsAt block.source text offset ↔ offset ∈ Text.seams block.source parts) ∧
    (text = block.before ++ block.source ++ block.after ∧
      block.replace .first rendered = block.before ++ rendered ++ block.after) ∧
    ((∀ offset, StandsAt block.source text offset → offset = block.span.1) →
      block.replace .last rendered = block.replace .first rendered) := by
  rcases isFirstFrom_of_find found with ⟨begins, isFirst⟩
  have apart := (unbordered_source isFirst free).keepsApart text
  have nonempty := isFirst.source_ne_nil
  have whole : block.text = text := isFirst.whole
  rcases Text.exists_parts nonempty text with ⟨part, parts, cut, replaced⟩
  refine ⟨apart, ⟨whole ▸ standsAt_span block, rfl⟩, ⟨part :: parts, cut.1, ?_,
    fun offset => cut.standsAt_iff apart⟩, ⟨whole.symm, rfl⟩, fun alone => ?_⟩
  · rw [replace, whole, replaced]
  · rw [← whole] at alone
    exact Text.replaceAll_of_alone nonempty alone rendered

/-- A block that differs from the copies around it by a blank. -/
def different : Text :=
  "\x7b\x7b BEGIN_BLOCK_A \x7d\x7d x\x7b\x7b END_BLOCK_A \x7d\x7d"

/-- Two copies of a block with another block between them. -/
def copied : Text :=
  "\x7b\x7b BEGIN_BLOCK_A \x7d\x7dx\x7b\x7b END_BLOCK_A \x7d\x7d" ++ different ++
    "\x7b\x7b BEGIN_BLOCK_A \x7d\x7dx\x7b\x7b END_BLOCK_A \x7d\x7d"

theorem replace_copied : Token.BraceFree ("A" : Text) ∧
    ∃ block, find .last "A" copied = .ok (some block) ∧ block.span = (75, 112) ∧
      Text.KeepsApart block.source copied ∧
      block.replace .last "y" = ("y" ++ different ++ "y" : Text) := by
  have free : Token.BraceFree ("A" : Text) := by decide
  have seen : (scan "A" copied).getLast?.map (fun block => (block.span, block.replace .last "y")) =
      some ((75, 112), "y" ++ different ++ "y") := by decide +kernel
  rcases Option.map_eq_some_iff.mp seen with ⟨block, isLast, same⟩
  rcases Prod.mk.inj same with ⟨spanned, replaced⟩
  have found : find .last "A" copied = .ok (some block) := by
    rw [find_eq_ok (by decide)]
    exact congrArg Except.ok isLast
  exact ⟨free, block, found, spanned, (replace_every_copy free found "y").1, replaced⟩

end Block
end MediaSite
