import MediaSite.Proofs.Site.Inertness
import MediaSite.Proofs.Template.BlockCopies
import MediaSite.Proofs.Template.Markers

namespace MediaSite

/-!
# Rows of values

A block of values is repeated for each row of several lists.  The lists are checked before
the block is looked for: there has to be one for each name, and all have to be as long as
the first (`Block.Fits`).

In a row one list after the other is filled in, over what the lists before have put in.
Escaped values open no brace, so where each brace of the block is that of a token this is
one substitution of all names at once (`Block.shows_fillRow`).

The rows are put in the place of the block (`Block.PutBack`).  In last mode this is the pass
from left to right over all copies of the block, and the block is the first of them.  Only a
name with braces lets copies overlap; one that overlaps the copy before it is passed over.
-/

open scoped Text
open Text (Plain byteLength StandsAt)

namespace Block

variable {name text : Text} {names : List Text} {columns : List (List Text)} {block : Block}

/-! ## Lists that fit together -/

/-- The number of rows is the length of the first list. -/
def rowCount (columns : List (List Text)) : Nat :=
  (columns.head?.map List.length).getD 0

/-- There is a list for each name, and all are as long as the first. -/
structure Fits (names : List Text) (columns : List (List Text)) : Prop where
  paired : names.length = columns.length
  even : ∀ column ∈ columns, column.length = rowCount columns

theorem expandColumns_of_not_fits (odd : ¬ Fits names columns) (mode : BlockMatch)
    (name text : Text) : ∃ expected found,
      expandColumns mode name names columns text =
        .error (.mismatchedColumns name expected found) := by
  unfold expandColumns
  by_cases paired : names.length = columns.length
  · cases differs : columns.find? fun column => column.length != rowCount columns with
    | some column =>
        rw [rowCount] at differs
        simp only [ne_eq, paired, not_true, if_false, differs]
        exact ⟨_, _, rfl⟩
    | none =>
        have even : ∀ column ∈ columns, column.length = rowCount columns := by
          intro column member
          have same := List.find?_eq_none.mp differs column member
          simpa using same
        exact absurd ⟨paired, even⟩ odd
  · simp only [ne_eq, paired, not_false_eq_true, if_true]
    exact ⟨_, _, rfl⟩

/-- Lists that fit together are no reason to fail; a name that is too long is. -/
theorem expandColumns_of_fits (fits : Fits names columns) (mode : BlockMatch) (name text : Text) :
    expandColumns mode name names columns text =
      if nameLimit < byteLength name then .error .nameTooLong
      else .ok (withColumns mode name names columns text) := by
  by_cases long : nameLimit < byteLength name
  · have noneOdd : (columns.find? fun column =>
        column.length != (columns.head?.map List.length).getD 0) = none := by
      apply List.find?_eq_none.mpr
      intro column member
      have same := fits.even column member
      rw [rowCount] at same
      simp [same]
    rw [if_pos long]
    unfold expandColumns
    simp only [ne_eq, fits.paired, not_true, if_false, noneOdd, find, if_pos long]
    rfl
  · rw [if_neg long]
    exact expandColumns_eq_ok (Nat.le_of_not_lt long) fits.paired fits.even mode text

/-! ## All names at once -/

/-- A row shows texts as they are, the token of a name as the escaped value in the list of
this name, and tokens of other names as they are. -/
structure ShowsRow (names : List Text) (columns : List (List Text)) (index : Nat)
    (shown : TemplatePiece → Text) : Prop where
  text : ∀ content, shown (.text content) = content
  known : ∀ (place : Nat) (name : Text) (column : List Text) (value : Text),
    names[place]? = some name → columns[place]? = some column → column[index]? = some value →
      shown (.token name) = Html.escape value
  other : ∀ name, name ∉ names → shown (.token name) = Token.ofName name

/-- Where braces are those of tokens, the lists are filled in all at once. -/
theorem shows_fillRow (fits : Fits names columns) (distinct : names.Nodup)
    (free : ∀ item ∈ names, Token.BraceFree item) (index : Nat) :
    ∃ shown, ShowsRow names columns index shown ∧
      ∀ pieces : List TemplatePiece, (∀ piece ∈ pieces, piece.Tidy) →
        fillRow (TemplatePiece.join pieces) names (columns.map fun column => column.getD index []) =
          pieces.flatMap shown := by
  let row := columns.map fun column => column.getD index []
  let values := (names.zip row).map fun item => (item.1, Html.escape item.2)
  have valueNames : values.map Prod.fst = names := by
    rw [List.map_map]
    exact List.map_fst_zip (by rw [List.length_map]; exact Nat.le_of_eq fits.paired)
  have valuesDistinct : (values.map Prod.fst).Nodup := valueNames ▸ distinct
  have valuesFree : BraceFreeNames values := by
    intro item member
    exact free item.1 (valueNames ▸ List.mem_map_of_mem member)
  have valuesPlain : ∀ item ∈ values, Plain item.2 := by
    intro item member
    rcases List.mem_map.mp member with ⟨pair, _, rfl⟩
    exact plain_escape pair.2
  refine ⟨fun piece => (piece.fill values).source, ⟨fun content => rfl, ?_, ?_⟩, ?_⟩
  · intro place name column value isName isColumn isValue
    have shownValue : column.getD index [] = value := by
      rw [List.getD_eq_getElem?_getD, isValue, Option.getD_some]
    have inRow : row[place]? = some value := by
      rw [List.getElem?_map, isColumn, Option.map_some, shownValue]
    have inZip : (name, value) ∈ names.zip row :=
      List.mem_of_getElem? (List.getElem?_zip_eq_some.mpr ⟨isName, inRow⟩)
    have found := lookup_of_mem valuesDistinct (List.mem_map_of_mem inZip)
    simp only [TemplatePiece.fill, values, found, TemplatePiece.source]
  · intro name absent
    have unknown : values.lookup name = none := lookup_eq_none_iff.mpr (valueNames.symm ▸ absent)
    simp only [TemplatePiece.fill, unknown, TemplatePiece.source]
  · intro pieces tidy
    rw [fillRow_eq_fillTokens, fillTokens_of_tidy valuesFree valuesPlain tidy, TemplatePiece.join,
      List.flatMap_map]

theorem length_rows (names : List Text) (columns : List (List Text)) (inner : Text) :
    ((rows (rowCount columns) columns).map (fillRow inner names)).length = rowCount columns := by
  rw [List.length_map, rows, List.length_map, List.length_range]

/-- Each row shows the values at its index. -/
theorem shows_rows (fits : Fits names columns) (distinct : names.Nodup)
    (free : ∀ item ∈ names, Token.BraceFree item) (inner : Text) {index : Nat} {row : Text}
    (isRow : ((rows (rowCount columns) columns).map (fillRow inner names))[index]? = some row) :
    ∃ shown, ShowsRow names columns index shown ∧
      ∀ pieces : List TemplatePiece, (∀ piece ∈ pieces, piece.Tidy) →
        TemplatePiece.join pieces = inner → row = pieces.flatMap shown := by
  rcases shows_fillRow fits distinct free index with ⟨shown, shows, filled⟩
  refine ⟨shown, shows, fun pieces tidy same => ?_⟩
  have small : index < rowCount columns := by
    rw [← length_rows names columns inner]
    exact (List.getElem?_eq_some_iff.mp isRow).1
  rw [List.getElem?_map, rows, List.getElem?_map, List.getElem?_range small] at isRow
  rw [← filled pieces tidy, same]
  exact (Option.some.inj isRow).symm

/-! ## In the place of the block -/

/-- A text stands in the place of the block alone; in last mode in the place of the block and
of its copies behind it, from left to right, which are all copies if the name has no brace. -/
def PutBack (mode : BlockMatch) (name : Text) (block : Block) (rendered result : Text) : Prop :=
  match mode with
  | .first => result = block.before ++ rendered ++ block.after
  | .last => ∃ parts, Text.CutAtCopies block.source block.text parts ∧
      result = Text.join rendered parts ∧ block.span.1 ∈ Text.seams block.source parts ∧
      (Token.BraceFree name → ∀ offset,
        StandsAt block.source block.text offset ↔ offset ∈ Text.seams block.source parts)

/-- No copy of the first block begins in front of it. -/
theorem span_le_of_standsAt (isFirst : IsFirstFrom 0 name text block) {offset : Nat}
    (stands : StandsAt block.source text offset) : block.span.1 ≤ offset := by
  rcases isFirst.inside with ⟨body, source, _⟩
  rcases stands with ⟨before, after, same, rfl⟩
  apply isFirst.opens.2 ⟨Nat.zero_le _, before, body ++ closing name ++ after, ?_, rfl⟩
  rw [same, source]
  simp only [List.append_assoc]

theorem putBack_replace (isFirst : IsFirstFrom 0 name text block) (mode : BlockMatch)
    (rendered : Text) : PutBack mode name block rendered (block.replace mode rendered) := by
  cases mode with
  | first => rfl
  | last =>
      have nonempty := isFirst.source_ne_nil
      rcases Text.exists_parts nonempty block.text with ⟨part, parts, cut, replaced⟩
      refine ⟨part :: parts, cut, replaced rendered, ?_, fun free offset =>
        cut.standsAt_iff ((unbordered_source isFirst free).keepsApart _)⟩
      -- The block overlaps a copy at which the text is cut, and that begins no earlier.
      rcases cut.2 _ (standsAt_span block) with ⟨seam, member, low, _⟩
      have stands : StandsAt block.source text seam := by
        rw [← isFirst.whole, ← cut.1]
        exact Text.standsAt_of_mem_seams member
      rw [Nat.le_antisymm (span_le_of_standsAt isFirst stands) low]
      exact member

/-- Lists that do not fit together are refused, with the block or without it, and then a block
name that is too long.  Otherwise a text without a complete block stays, and in the place of
the first complete block stand its rows, joined by blanks.  Where each brace of the block is
that of a token, all names of a row are replaced at once. -/
theorem expandColumns_spec (distinct : names.Nodup) (free : ∀ item ∈ names, Token.BraceFree item)
    (mode : BlockMatch) (name : Text) (columns : List (List Text)) (text : Text) :
    ((∃ expected found, expandColumns mode name names columns text =
        .error (.mismatchedColumns name expected found)) ↔ ¬ Fits names columns) ∧
    (Fits names columns → nameLimit < byteLength name →
      expandColumns mode name names columns text = .error .nameTooLong) ∧
    (Fits names columns → byteLength name ≤ nameLimit → ¬ CompleteFrom 0 name text →
      expandColumns mode name names columns text = .ok text) ∧
    (Fits names columns → byteLength name ≤ nameLimit → CompleteFrom 0 name text →
      ∃ block rendered result, IsFirstFrom 0 name text block ∧
        expandColumns mode name names columns text = .ok result ∧
        PutBack mode name block (Text.join " " rendered) result ∧
        rendered.length = rowCount columns ∧
        (rowCount columns = 0 → Text.join " " rendered = []) ∧
        ∀ index row, rendered[index]? = some row → ∃ shown, ShowsRow names columns index shown ∧
          ∀ pieces : List TemplatePiece, (∀ piece ∈ pieces, piece.Tidy) →
            TemplatePiece.join pieces = block.inner → row = pieces.flatMap shown) := by
  refine ⟨⟨?_, fun odd => expandColumns_of_not_fits odd mode name text⟩, ?_, ?_, ?_⟩
  · rintro ⟨expected, found, failed⟩ fits
    rw [expandColumns_of_fits fits] at failed
    split at failed <;> cases failed
  · intro fits long
    rw [expandColumns_of_fits fits, if_pos long]
  · intro fits short incomplete
    rw [expandColumns_of_fits fits, if_neg (Nat.not_lt.mpr short), withColumns,
      (first?_eq_none_iff []).mpr incomplete]
  · intro fits short complete
    cases found : first? name text with
    | none => exact absurd complete ((first?_eq_none_iff []).mp found)
    | some block =>
        have isFirst := first?_eq_some_iff.mp found
        let rendered := (rows (rowCount columns) columns).map (fillRow block.inner names)
        have count : rendered.length = rowCount columns := length_rows names columns block.inner
        refine ⟨block, rendered, _, isFirst, ?_, putBack_replace isFirst mode _, count, ?_,
          fun index row isRow => shows_rows fits distinct free block.inner isRow⟩
        · rw [expandColumns_of_fits fits, if_neg (Nat.not_lt.mpr short), withColumns, found]
          rfl
        · intro none
          rw [none] at count
          rw [List.length_eq_zero_iff.mp count]
          rfl

/-- A link with its title. -/
def linkPieces : List TemplatePiece :=
  [.token "HREF", .text ":", .token "TITLE"]

/-- A list of links, with blanks at the ends of the block. -/
def linkList : Text :=
  "<ul>" ++ opening "LINK" ++ " " ++ TemplatePiece.join linkPieces ++ "\n" ++ closing "LINK" ++
    "</ul>"

/-- Links and titles, where a link is written like the token of the titles. -/
def links : List (List Text) :=
  [["a", "\x7b\x7b TITLE \x7d\x7d"], ["A & B", "<b>"]]

theorem expandColumns_linkList : (["HREF", "TITLE"] : List Text).Nodup ∧
    (∀ item ∈ (["HREF", "TITLE"] : List Text), Token.BraceFree item) ∧
    Fits ["HREF", "TITLE"] links ∧ byteLength "LINK" ≤ nameLimit ∧
    CompleteFrom 0 "LINK" linkList ∧ (∀ piece ∈ linkPieces, piece.Tidy) ∧
    ∃ block rendered, IsFirstFrom 0 "LINK" linkList block ∧
      block.inner = TemplatePiece.join linkPieces ∧
      expandColumns .last "LINK" ["HREF", "TITLE"] links linkList =
        .ok "<ul>a:A &amp; B &#123;&#123; TITLE \x7d\x7d:&lt;b&gt;</ul>" ∧
      PutBack .last "LINK" block (Text.join " " rendered)
        "<ul>a:A &amp; B &#123;&#123; TITLE \x7d\x7d:&lt;b&gt;</ul>" ∧
      ∀ index row, rendered[index]? = some row → ∃ shown,
        ShowsRow ["HREF", "TITLE"] links index shown ∧ row = linkPieces.flatMap shown := by
  have distinct : (["HREF", "TITLE"] : List Text).Nodup := by decide
  have free : ∀ item ∈ (["HREF", "TITLE"] : List Text), Token.BraceFree item := by decide
  have fits : Fits ["HREF", "TITLE"] links := ⟨rfl, by decide⟩
  have short : byteLength "LINK" ≤ nameLimit := by decide
  have tidy : ∀ piece ∈ linkPieces, piece.Tidy := by decide
  have filled : expandColumns .last "LINK" ["HREF", "TITLE"] links linkList =
      .ok "<ul>a:A &amp; B &#123;&#123; TITLE \x7d\x7d:&lt;b&gt;</ul>" := by
    rw [expandColumns_of_fits fits, if_neg (Nat.not_lt.mpr short)]
    decide +kernel
  have seen : (first? "LINK" linkList).map Block.inner =
      some (TemplatePiece.join linkPieces) := by decide +kernel
  rcases Option.map_eq_some_iff.mp seen with ⟨block, found, inner⟩
  have isFirst := first?_eq_some_iff.mp found
  have complete := isFirst.complete
  rcases (expandColumns_spec distinct free .last "LINK" links linkList).2.2.2 fits short complete
    with ⟨other, rendered, result, isOther, returned, putBack, _, _, filledRows⟩
  rcases isFirst.unique isOther with rfl
  rcases Except.ok.inj (returned.symm.trans filled) with rfl
  refine ⟨distinct, free, fits, short, complete, tidy, block, rendered, isFirst, inner, filled,
    putBack, fun index row isRow => ?_⟩
  rcases filledRows index row isRow with ⟨shown, shows, rowIs⟩
  exact ⟨shown, shows, rowIs linkPieces tidy inner.symm⟩

/-- A name whose markers are two markers each, of which the last may open a block. -/
def pairedName : Text :=
  "X \x7d\x7d\x7b\x7b BEGIN_BLOCK_X"

/-- Two copies of a block of this name, which overlap in a marker. -/
def overlapping : Text :=
  opening pairedName ++ Token.ofName "END_BLOCK_X" ++ opening pairedName ++ closing pairedName

/-- A name that is too long fails where there is no block, and of two copies that overlap the
second stays. -/
theorem expandColumns_not_everywhere :
    (Fits ["A"] [[]] ∧ ¬ CompleteFrom 0 (List.replicate (nameLimit + 1) 'A') "x" ∧
      expandColumns .first (List.replicate (nameLimit + 1) 'A') ["A"] [[]] "x" =
        .error .nameTooLong) ∧
    ∃ block, IsFirstFrom 0 pairedName overlapping block ∧
      StandsAt block.source overlapping 0 ∧ StandsAt block.source overlapping 55 ∧
      expandColumns .last pairedName ["A"] [[]] overlapping =
        .ok (Token.ofName "BEGIN_BLOCK_X" ++ closing pairedName) := by
  have fits : Fits ["A"] [[]] := ⟨rfl, by decide⟩
  refine ⟨⟨fits, ?_, ?_⟩, ?_⟩
  · have nothing : first? (List.replicate (nameLimit + 1) 'A') "x" = none :=
      first?_of_plain (by decide) _
    exact (first?_eq_none_iff []).mp nothing
  · rw [expandColumns_of_fits fits, if_pos]
    rw [Text.byteLength_replicate]
    decide
  · have seen : (first? pairedName overlapping).map Block.source =
        some (opening pairedName ++ closing pairedName) := by decide +kernel
    rcases Option.map_eq_some_iff.mp seen with ⟨block, found, source⟩
    refine ⟨block, first?_eq_some_iff.mp found, ?_, ?_, ?_⟩
    · rw [source]
      exact ⟨[], opening "X" ++ closing pairedName, by decide, rfl⟩
    · rw [source]
      exact ⟨opening pairedName ++ Token.ofName "END_BLOCK_X", [], by decide, by decide⟩
    · rw [expandColumns_of_fits fits, if_neg (by decide)]
      decide +kernel

end Block
end MediaSite
