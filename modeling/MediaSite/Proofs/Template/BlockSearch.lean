import MediaSite.Proofs.Site.Rendering
import MediaSite.Proofs.Template.Filling
import MediaSite.Proofs.Text.Occurrences

namespace MediaSite

/-!
# Which block is found

What the first block of a name is can be said by offsets alone: it begins with the first
marker that opens it and ends with the first marker behind that which closes it
(`Block.IsFirstFrom`).  The marker that opens may stand there any number of times, also
inside of the block, and the name may hold any characters.

Searching on from the end of each block gives a list of blocks (`Block.Successive`).  It
is the only one, since each of its blocks is the only first block from where the one
before it ends; and it is finite, since each block takes up a part of the text.  The last
block is the last of this list, so no complete block begins behind it.
-/

open scoped Text
open Text (byteLength byteLength_append StandsAt placesFrom IsBoundary)

namespace Block

variable {name text front rest : Text} {start : Nat} {block : Block}

/-! ## The first block from an offset on -/

/-- The markers of a block stand one behind the other, from an offset on. -/
def CompleteFrom (start : Nat) (name text : Text) : Prop :=
  ∃ begins ends, start ≤ begins ∧ StandsAt (opening name) text begins ∧
    begins + byteLength (opening name) ≤ ends ∧ StandsAt (closing name) text ends

/-- A block begins with the first marker that opens it, from an offset on, and ends with the
first marker behind that which closes it. -/
structure IsFirstFrom (start : Nat) (name text : Text) (block : Block) : Prop where
  whole : block.text = text
  opens : IsLeast (placesFrom start (opening name) text) block.span.1
  closes : ∃ ends, block.span.2 = ends + byteLength (closing name) ∧
    IsLeast (placesFrom (block.span.1 + byteLength (opening name)) (closing name) text) ends
  inside : ∃ body, block.source = opening name ++ body ++ closing name ∧
    block.inner = Text.trim body

theorem IsFirstFrom.complete (first : IsFirstFrom start name text block) :
    CompleteFrom start name text := by
  rcases first.closes with ⟨ends, _, ⟨behind, closes⟩, _⟩
  exact ⟨block.span.1, ends, first.opens.1.1, first.opens.1.2, behind, closes⟩

theorem IsFirstFrom.source_ne_nil (first : IsFirstFrom start name text block) :
    block.source ≠ [] := by
  rcases first.inside with ⟨body, source, _⟩
  rw [source, List.append_assoc]
  exact List.append_ne_nil_of_left_ne_nil (Token.ofName_ne_nil _) _

theorem IsFirstFrom.span_lt (first : IsFirstFrom start name text block) :
    block.span.1 < block.span.2 := by
  rcases first.closes with ⟨ends, last, ⟨behind, _⟩, _⟩
  have filled : 0 < byteLength (opening name) := Text.byteLength_pos (Token.ofName_ne_nil _)
  omega

/-- There is only one first block from an offset on. -/
theorem IsFirstFrom.unique {other : Block} (first : IsFirstFrom start name text block)
    (second : IsFirstFrom start name text other) : block = other := by
  have begins : block.span.1 = other.span.1 := first.opens.unique second.opens
  have ends : block.span.2 = other.span.2 := by
    rcases first.closes with ⟨firstEnd, firstSame, firstLeast⟩
    rcases second.closes with ⟨secondEnd, secondSame, secondLeast⟩
    rw [begins] at firstLeast
    rw [firstSame, secondSame, firstLeast.unique secondLeast]
  have same : block.before ++ (block.source ++ block.after) =
      other.before ++ (other.source ++ other.after) := by
    rw [← List.append_assoc, ← List.append_assoc]
    exact first.whole.trans second.whole.symm
  have before : block.before = other.before :=
    Text.eq_of_byteLength_eq ⟨_, same⟩ (List.prefix_append _ _) begins
  rw [before, List.append_cancel_left_eq] at same
  have source : block.source = other.source := by
    apply Text.eq_of_byteLength_eq ⟨_, same⟩ (List.prefix_append _ _)
    simp only [span] at begins ends
    omega
  rw [source, List.append_cancel_left_eq] at same
  have inner : block.inner = other.inner := by
    rcases first.inside with ⟨firstBody, firstSource, firstInner⟩
    rcases second.inside with ⟨secondBody, secondSource, secondInner⟩
    rw [firstSource, secondSource, List.append_assoc, List.append_assoc,
      List.append_cancel_left_eq, List.append_cancel_right_eq] at source
    rw [firstInner, secondInner, source]
  cases block
  cases other
  simp_all only

/-! ## What the search returns -/

/-- The two searches that a first block comes from. -/
theorem cut?_of_first? (found : first? name text = some block) :
    ∃ rest body, Text.cut? (opening name) text = some (block.before, rest) ∧
      Text.cut? (closing name) rest = some (body, block.after) ∧
      block.source = opening name ++ body ++ closing name ∧ block.inner = Text.trim body := by
  rcases Option.bind_eq_some_iff.mp found with ⟨⟨before, rest⟩, opens, found⟩
  rcases Option.bind_eq_some_iff.mp found with ⟨⟨body, after⟩, closes, same⟩
  rcases Option.some.inj same with rfl
  exact ⟨rest, body, opens, closes, rfl, rfl⟩

theorem text_of_first? (found : first? name text = some block) : block.text = text := by
  rcases cut?_of_first? found with ⟨rest, body, opens, closes, source, _⟩
  rw [Block.text, source, Text.eq_of_cut? opens, Text.eq_of_cut? closes]
  simp only [List.append_assoc]

/-- There is a block where a marker that closes it stands behind one that opens it. -/
theorem first?_ne_none_iff : first? name text ≠ none ↔ ∃ before body after,
    text = before ++ (opening name ++ (body ++ (closing name ++ after))) := by
  constructor
  · intro found
    rcases Option.ne_none_iff_exists'.mp found with ⟨block, same⟩
    rcases cut?_of_first? same with ⟨rest, body, opens, closes, _, _⟩
    refine ⟨block.before, body, block.after, ?_⟩
    rw [Text.eq_of_cut? opens, Text.eq_of_cut? closes, List.append_assoc, List.append_assoc]
  · rintro ⟨before, body, after, rfl⟩
    rcases Text.cut?_of_occurrence (opening name) before (body ++ (closing name ++ after)) with
      ⟨front, rest, opens, behind, rfl⟩
    rcases Text.cut?_of_occurrence (closing name) (behind ++ body) after with
      ⟨inside, back, closes, _⟩
    rw [List.append_assoc] at opens
    rw [List.append_assoc, List.append_assoc] at closes
    simp only [first?, opens, closes, Option.bind_eq_bind, Option.bind_some]
    exact Option.some_ne_none _

/-- What is found behind the beginning of a text is the first block there. -/
theorem isFirstFrom_of_first? (front : Text) (found : first? name rest = some block) :
    IsFirstFrom (byteLength front) name (front ++ rest)
      { block with before := front ++ block.before } := by
  rcases cut?_of_first? found with ⟨behind, body, opens, closes, source, inner⟩
  have split : front ++ rest = (front ++ block.before ++ opening name) ++ behind := by
    rw [Text.eq_of_cut? opens]
    simp only [List.append_assoc]
  refine ⟨?_, Text.isLeast_of_cut? front opens, ?_, body, source, inner⟩
  · rw [← text_of_first? found]
    simp only [Block.text, List.append_assoc]
  · refine ⟨byteLength (front ++ block.before ++ opening name ++ body), ?_, ?_⟩
    · simp only [span, source, byteLength_append]
      omega
    · have least := Text.isLeast_of_cut? (front ++ block.before ++ opening name) closes
      rwa [← split, byteLength_append (front ++ block.before)] at least

theorem first?_eq_none_iff (front : Text) :
    first? name rest = none ↔ ¬ CompleteFrom (byteLength front) name (front ++ rest) := by
  constructor
  · rintro nothing ⟨begins, ends, behind, opens, order, closes⟩
    rcases Text.placesFrom_append.mp ⟨behind, opens⟩ with ⟨_, ⟨before, after, rfl, rfl⟩, rfl⟩
    have split : front ++ (before ++ opening name ++ after) =
        (front ++ before ++ opening name) ++ after := by simp only [List.append_assoc]
    rw [split] at closes
    have later : ends ∈ placesFrom (byteLength (front ++ before ++ opening name)) (closing name)
        ((front ++ before ++ opening name) ++ after) := by
      refine ⟨?_, closes⟩
      simp only [byteLength_append] at order ⊢
      omega
    rcases Text.placesFrom_append.mp later with ⟨_, ⟨body, last, rfl, _⟩, _⟩
    exact first?_ne_none_iff.mpr ⟨before, body, last, by simp only [List.append_assoc]⟩ nothing
  · intro incomplete
    cases found : first? name rest with
    | none => rfl
    | some block => exact absurd (isFirstFrom_of_first? front found).complete incomplete

/-- No block is complete if no marker opens one, or none closes the first that is opened. -/
theorem not_completeFrom_zero_iff : ¬ CompleteFrom 0 name text ↔
    (∀ offset, ¬ StandsAt (opening name) text offset) ∨
      ∃ first, IsLeast (placesFrom 0 (opening name) text) first ∧
        ∀ ends, StandsAt (closing name) text ends → ends < first + byteLength (opening name) := by
  constructor
  · intro incomplete
    cases found : Text.cut? (opening name) text with
    | none =>
        left
        intro offset opens
        have nowhere := (Text.placesFrom_eq_empty_iff []).mpr found
        exact Set.eq_empty_iff_forall_notMem.mp nowhere offset ⟨Nat.zero_le _, opens⟩
    | some parts =>
        right
        have least := Text.isLeast_of_cut? [] found
        refine ⟨_, least, fun ends closes => ?_⟩
        by_contra behind
        exact incomplete ⟨_, ends, Nat.zero_le _, least.1.2, Nat.le_of_not_lt behind, closes⟩
  · rintro (nowhere | ⟨first, least, early⟩) ⟨begins, ends, _, opens, order, closes⟩
    · exact nowhere begins opens
    · have before := least.2 ⟨Nat.zero_le begins, opens⟩
      have short := early ends closes
      omega

/-! ## One block after the other -/

/-- The blocks that are found from an offset on, each from the end of the one before it. -/
inductive Successive (name text : Text) : Nat → List Block → Prop where
  | done {start : Nat} (incomplete : ¬ CompleteFrom start name text) :
      Successive name text start []
  | next {start : Nat} {block : Block} {blocks : List Block}
      (first : IsFirstFrom start name text block)
      (later : Successive name text block.span.2 blocks) :
      Successive name text start (block :: blocks)

namespace Successive

variable {blocks : List Block}

theorem unique {others : List Block} (successive : Successive name text start blocks)
    (second : Successive name text start others) : blocks = others := by
  induction successive generalizing others with
  | done incomplete =>
      cases second with
      | done _ => rfl
      | next first _ => exact absurd first.complete incomplete
  | next first _ inductionHypothesis =>
      cases second with
      | done incomplete => exact absurd first.complete incomplete
      | next other later =>
          rcases first.unique other with rfl
          rw [inductionHypothesis later]

/-- Each block is the first from somewhere on. -/
theorem isFirstFrom_of_mem (successive : Successive name text start blocks)
    (member : block ∈ blocks) :
    ∃ begins, start ≤ begins ∧ IsFirstFrom begins name text block := by
  induction successive with
  | done _ => cases member
  | next first _ inductionHypothesis =>
      rcases List.mem_cons.mp member with rfl | later
      · exact ⟨_, Nat.le_refl _, first⟩
      · rcases inductionHypothesis later with ⟨begins, behind, isFirst⟩
        have low := first.opens.1.1
        have filled := first.span_lt
        exact ⟨begins, by omega, isFirst⟩

theorem pairwise (successive : Successive name text start blocks) :
    blocks.Pairwise fun first second => first.span.2 ≤ second.span.1 := by
  induction successive with
  | done _ => exact List.Pairwise.nil
  | next _ later inductionHypothesis =>
      refine List.pairwise_cons.mpr ⟨fun other member => ?_, inductionHypothesis⟩
      rcases later.isFirstFrom_of_mem member with ⟨begins, behind, isFirst⟩
      exact behind.trans isFirst.opens.1.1

theorem getLast?_eq_none_iff (successive : Successive name text start blocks) :
    blocks.getLast? = none ↔ ¬ CompleteFrom start name text := by
  rw [List.getLast?_eq_none_iff]
  cases successive with
  | done incomplete => exact iff_of_true rfl incomplete
  | next first _ => exact iff_of_false (List.cons_ne_nil _ _) (not_not_intro first.complete)

/-- Behind the last block none is complete. -/
theorem incomplete_of_getLast? (successive : Successive name text start blocks)
    (last : blocks.getLast? = some block) : ¬ CompleteFrom block.span.2 name text := by
  induction successive with
  | done _ => cases last
  | next _ later inductionHypothesis =>
      cases later with
      | done incomplete => exact Option.some.inj last ▸ incomplete
      | next other rest =>
          rw [List.getLast?_cons_cons] at last
          exact inductionHypothesis last

end Successive

/-- The scan lists the blocks of a text that follows another. -/
theorem successive_scanAfter (name passed text : Text) :
    Successive name (passed ++ text) (byteLength passed) (scanAfter name passed text) := by
  fun_induction scanAfter name passed text with
  | case1 passed text nothing => exact .done ((first?_eq_none_iff passed).mp nothing)
  | case2 passed text block found shorter inductionHypothesis =>
      refine .next (isFirstFrom_of_first? passed found) ?_
      have split : passed ++ text = (passed ++ block.before ++ block.source) ++ block.after := by
        rw [← text_of_first? found]
        simp only [Block.text, List.append_assoc]
      rw [← split, byteLength_append] at inductionHypothesis
      exact inductionHypothesis
  | case3 passed text block found longer =>
      -- A block is not empty, so the text behind it is shorter.
      have nonempty : block.source ≠ [] := (isFirstFrom_of_first? passed found).source_ne_nil
      have filled := List.length_pos_iff.mpr nonempty
      have lengths := congrArg List.length (text_of_first? found)
      rw [Block.text, List.length_append, List.length_append] at lengths
      omega

theorem successive_scan (name text : Text) : Successive name text 0 (scan name text) :=
  successive_scanAfter name [] text

/-- Both ways to match find a block, or neither does. -/
theorem select_eq_none_iff {mode : BlockMatch} :
    select mode name text = none ↔ first? name text = none := by
  cases mode with
  | first => exact Iff.rfl
  | last =>
      have scanned := (successive_scan name text).getLast?_eq_none_iff
      exact scanned.trans (first?_eq_none_iff []).symm

/-- What either way to match finds is the first block from somewhere on. -/
theorem isFirstFrom_of_find {mode : BlockMatch} (found : find mode name text = .ok (some block)) :
    ∃ begins, IsFirstFrom begins name text block := by
  rw [find] at found
  split at found
  · cases found
  · have selected := Except.ok.inj found
    cases mode with
    | first => exact ⟨0, isFirstFrom_of_first? [] selected⟩
    | last =>
        rcases (successive_scan name text).isFirstFrom_of_mem (List.mem_of_getLast? selected) with
          ⟨begins, _, isFirst⟩
        exact ⟨begins, isFirst⟩

theorem first?_eq_some_iff : first? name text = some block ↔ IsFirstFrom 0 name text block := by
  constructor
  · exact isFirstFrom_of_first? []
  · intro isFirst
    cases found : first? name text with
    | none => exact absurd isFirst.complete ((first?_eq_none_iff []).mp found)
    | some other => exact congrArg some ((isFirstFrom_of_first? [] found).unique isFirst)

/-- Where a name can be searched for, both ways to match find a block exactly if a marker
closes the first marker that opens one.  The first block is the first from the beginning
on; the last is the last of the only list of successive blocks, which do not overlap, and
no complete block begins behind it.  All blocks begin and end between characters. -/
theorem find_spec (short : byteLength name ≤ nameLimit) (text : Text) :
    (∀ mode, find mode name text = .ok none ↔
      (∀ offset, ¬ StandsAt (opening name) text offset) ∨
        ∃ first, IsLeast (placesFrom 0 (opening name) text) first ∧
          ∀ ends, StandsAt (closing name) text ends → ends < first + byteLength (opening name)) ∧
    (∃ found, find .first name text = .ok found ∧
      ∀ block, found = some block ↔ IsFirstFrom 0 name text block) ∧
    (∃ blocks, find .last name text = .ok blocks.getLast? ∧ Successive name text 0 blocks ∧
      (∀ others, Successive name text 0 others → others = blocks) ∧
      (∀ block ∈ blocks, block.span.1 < block.span.2 ∧
        IsBoundary text block.span.1 ∧ IsBoundary text block.span.2) ∧
      blocks.Pairwise fun first second => first.span.2 ≤ second.span.1) ∧
    (∀ block, find .last name text = .ok (some block) →
      ¬ CompleteFrom block.span.2 name text) ∧
    ∀ mode block, find mode name text = .ok (some block) →
      IsBoundary text block.span.1 ∧ IsBoundary text block.span.2 := by
  have successive := successive_scan name text
  have boundaries {begins : Nat} {block : Block} (isFirst : IsFirstFrom begins name text block) :
      IsBoundary text block.span.1 ∧ IsBoundary text block.span.2 := by
    refine ⟨⟨block.before, block.source ++ block.after, ?_, rfl⟩,
      ⟨block.before ++ block.source, block.after, isFirst.whole.symm, byteLength_append _ _⟩⟩
    rw [← isFirst.whole, Block.text, List.append_assoc]
  have found (mode : BlockMatch) := find_eq_ok short mode text
  refine ⟨fun mode => ?_, ⟨first? name text, found .first, fun block => first?_eq_some_iff⟩,
    ⟨scan name text, found .last, successive, fun others second => second.unique successive,
      fun block member => ?_, successive.pairwise⟩, fun block last => ?_, fun mode block last => ?_⟩
  · rw [found, ← not_completeFrom_zero_iff, Except.ok.injEq, select_eq_none_iff]
    exact first?_eq_none_iff []
  · rcases successive.isFirstFrom_of_mem member with ⟨begins, _, isFirst⟩
    exact ⟨isFirst.span_lt, boundaries isFirst⟩
  · rw [found] at last
    exact successive.incomplete_of_getLast? (Except.ok.inj last)
  · rcases isFirstFrom_of_find last with ⟨begins, isFirst⟩
    exact boundaries isFirst

/-- A text with loose markers in front of the blocks, inside of one and behind them. -/
def nested : Text :=
  "é\x7b\x7b END_BLOCK_A \x7d\x7d\x7b\x7b BEGIN_BLOCK_A \x7d\x7d\x7b\x7b BEGIN_BLOCK_A \x7d\x7d x" ++
    " \x7b\x7b END_BLOCK_A \x7d\x7d\x7b\x7b BEGIN_BLOCK_A \x7d\x7dy\x7b\x7b END_BLOCK_A \x7d\x7d" ++
    "\x7b\x7b BEGIN_BLOCK_A \x7d\x7d"

theorem find_nested : byteLength ("A" : Text) ≤ nameLimit ∧
    (∃ block, IsFirstFrom 0 "A" nested block ∧ block.span = (19, 77)) ∧
    ∃ block, find .last "A" nested = .ok (some block) ∧ block.span = (77, 114) ∧
      ¬ CompleteFrom 114 "A" nested := by
  have short : byteLength ("A" : Text) ≤ nameLimit := by decide
  have spans : (first? "A" nested).map span = some (19, 77) ∧
      (scan "A" nested).getLast?.map span = some (77, 114) := by decide +kernel
  rcases Option.map_eq_some_iff.mp spans.1 with ⟨first, isFirst, firstSpan⟩
  rcases Option.map_eq_some_iff.mp spans.2 with ⟨last, isLast, lastSpan⟩
  rcases find_spec short nested with ⟨_, ⟨found, same, firstIff⟩, _, behind, _⟩
  have lastFound : find .last "A" nested = .ok (some last) := by
    rw [find_eq_ok short]
    exact congrArg Except.ok isLast
  rw [find_eq_ok short] at same
  have foundFirst : found = some first := (Except.ok.inj same).symm.trans isFirst
  have incomplete := behind last lastFound
  rw [lastSpan] at incomplete
  exact ⟨short, ⟨first, (firstIff first).mp foundFirst, firstSpan⟩, last, lastFound, lastSpan,
    incomplete⟩

end Block
end MediaSite
