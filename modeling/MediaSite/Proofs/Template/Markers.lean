import Mathlib.Data.List.Infix
import MediaSite.Proofs.Site.PlainValues
import MediaSite.Proofs.Template.BlockSearch
import MediaSite.Proofs.Template.MarkedBlock
import MediaSite.Proofs.Template.Pictures

namespace MediaSite

/-!
# The markers of a template

What blocks a template has depends on its markers only, and in a text that carries
tokens the markers are among the names it carries.  Two conditions on these names
make the blocks unambiguous: no name is opened twice, and no marker stands inside of
a block of values.

Filling in fields keeps all markers.  Repeating a block of values takes its own pair
of markers away and brings in none, since there is none inside of it.  So both
conditions survive all steps of a page (`Block.Expands`), and with them both ways to
match are the same at every step (`Block.withColumns_expands`, `Block.select_modes`).
-/

open scoped Text
open Text (Plain Carries)

namespace Block

variable {name text : Text} {names : List Text}

/-! ## Markers among names -/

/-- The name of a marker that opens a block. -/
def isOpening (name : Text) : Bool :=
  Token.beginMark.isPrefixOf name

/-- The name of a marker that opens or closes a block. -/
def isMarker (name : Text) : Bool :=
  isOpening name || Token.endMark.isPrefixOf name

theorem isOpening_openingName (name : Text) : isOpening (openingName name) = true :=
  List.isPrefixOf_iff_prefix.mpr (List.prefix_append _ _)

theorem isMarker_openingName (name : Text) : isMarker (openingName name) = true := by
  rw [isMarker, isOpening_openingName, Bool.true_or]

theorem isMarker_closingName (name : Text) : isMarker (closingName name) = true := by
  have closes : Token.endMark.isPrefixOf (closingName name) = true :=
    List.isPrefixOf_iff_prefix.mpr (List.prefix_append _ _)
  rw [isMarker, closes, Bool.or_true]

theorem openingName_ne_closingName (name other : Text) : openingName name ≠ closingName other := by
  intro same
  have head : (openingName name).head? = some 'B' := rfl
  rw [same] at head
  cases head

/-- No block name has two markers that open it. -/
def OpenedOnce (names : List Text) : Prop :=
  (names.filter isOpening).Nodup

instance (names : List Text) : Decidable (OpenedOnce names) :=
  inferInstanceAs (Decidable (List.Nodup _))

/-- No marker stands between the markers of a block of this name. -/
def Flat (name : Text) (names : List Text) : Prop :=
  ∀ rest ∈ names.tails, rest.head? = some (openingName name) → closingName name ∈ rest →
    ∀ other ∈ rest.tail.takeWhile (· != closingName name), isMarker other = false

instance (name : Text) (names : List Text) : Decidable (Flat name names) :=
  inferInstanceAs (Decidable (∀ rest ∈ _, _))

theorem OpenedOnce.of_sublist {part : List Text} (once : OpenedOnce names)
    (sub : part.Sublist names) : OpenedOnce part :=
  once.sublist (sub.filter isOpening)

theorem OpenedOnce.not_mem {before after : List Text}
    (once : OpenedOnce (before ++ openingName name :: after)) :
    openingName name ∉ before ∧ openingName name ∉ after := by
  have isOpening := isOpening_openingName name
  unfold OpenedOnce at once
  rw [List.filter_append, List.filter_cons_of_pos isOpening, List.nodup_middle] at once
  have fresh := (List.nodup_cons.mp once).1
  constructor
  · intro member
    exact fresh (List.mem_append_left _ (List.mem_filter.mpr ⟨member, isOpening⟩))
  · intro member
    exact fresh (List.mem_append_right _ (List.mem_filter.mpr ⟨member, isOpening⟩))

/-- What the markers of a complete block enclose, up to the first that closes it. -/
theorem flat_iff : Flat name names ↔ ∀ inside after,
    openingName name :: (inside ++ closingName name :: after) <:+ names →
      closingName name ∉ inside → ∀ other ∈ inside, isMarker other = false := by
  have enclosed {inside after : List Text} (open_ : closingName name ∉ inside) :
      (inside ++ closingName name :: after).takeWhile (· != closingName name) = inside := by
    have others : ∀ other ∈ inside, (other != closingName name) = true := fun other member =>
      bne_iff_ne.mpr fun same => open_ (same ▸ member)
    rw [List.takeWhile_append_of_pos others, List.takeWhile_cons_of_neg (by simp),
      List.append_nil]
  constructor
  · intro flat inside after suffix open_
    have closed : closingName name ∈ openingName name :: (inside ++ closingName name :: after) :=
      List.mem_cons_of_mem _ (List.mem_append_right _ List.mem_cons_self)
    have whole := flat _ ((List.mem_tails _ _).mpr suffix) rfl closed
    rwa [List.tail_cons, enclosed open_] at whole
  · intro flat rest suffix opens closed
    rw [List.mem_tails] at suffix
    rcases List.head?_eq_some_iff.mp opens with ⟨tail, rfl⟩
    have inTail : closingName name ∈ tail := (List.mem_cons.mp closed).resolve_left fun same =>
      openingName_ne_closingName name name same.symm
    rcases List.eq_append_cons_of_mem inTail with ⟨inside, after, rfl, open_⟩
    rw [List.tail_cons, enclosed open_]
    exact flat inside after suffix open_

theorem Flat.of_part {part : List Text} (flat : Flat name names) (sub : part <:+: names) :
    Flat name part := by
  rw [flat_iff] at flat ⊢
  rcases sub with ⟨before, behind, rfl⟩
  rintro inside after ⟨front, rfl⟩ open_
  exact flat inside (after ++ behind) ⟨before ++ front, by simp⟩ open_

/-- Names that are no markers have no part in this. -/
theorem Flat.filter {keep : Text → Bool} (flat : Flat name names)
    (keeps : ∀ other, isMarker other = true → keep other = true) :
    Flat name (names.filter keep) := by
  rw [flat_iff] at flat ⊢
  rintro inside after ⟨front, same⟩ open_
  rcases List.filter_eq_append_iff.mp same.symm with ⟨first, rest, rfl, _, restSame⟩
  rcases List.filter_eq_cons_iff.mp restSame with ⟨skipped, tail, rfl, _, _, tailSame⟩
  rcases List.filter_eq_append_iff.mp tailSame with ⟨body, last, rfl, bodySame, lastSame⟩
  rcases List.filter_eq_cons_iff.mp lastSame with ⟨more, behind, rfl, noMore, _, _⟩
  have closes := keeps _ (isMarker_closingName name)
  have stillOpen : closingName name ∉ body ++ more := by
    intro member
    rcases List.mem_append.mp member with inBody | inMore
    · apply open_
      rw [← bodySame]
      exact List.mem_filter.mpr ⟨inBody, closes⟩
    · exact noMore _ inMore closes
  have whole := flat (body ++ more) behind ⟨first ++ skipped, by simp⟩ stillOpen
  intro other member
  rw [← bodySame] at member
  exact whole other (List.mem_append_left more (List.mem_filter.mp member).1)

/-! ## Repeating a block of values -/

/-- Nothing happens to the names of a text, or the first complete block of a name goes
and other names come in its place; no marker has stood inside, and none comes. -/
inductive Expands (name : Text) : List Text → List Text → Prop where
  | absent (names : List Text) : Expands name names names
  | block {before inside after filler : List Text}
      (noneInside : ∀ other ∈ inside, isMarker other = false)
      (noneFilled : ∀ other ∈ filler, isMarker other = false) :
      Expands name (before ++ openingName name :: (inside ++ closingName name :: after))
        (before ++ filler ++ after)

namespace Expands

variable {expanded : List Text}

/-- All other markers are still there, in their order. -/
theorem filter_eq (expands : Expands name names expanded) {keep : Text → Bool}
    (markers : ∀ other, keep other = true → isMarker other = true)
    (opening : keep (openingName name) = false) (closing : keep (closingName name) = false) :
    expanded.filter keep = names.filter keep := by
  have nothing {part : List Text} (none : ∀ other ∈ part, isMarker other = false) :
      part.filter keep = [] := by
    apply List.filter_eq_nil_iff.mpr
    intro other member kept
    have marker := markers other kept
    rw [none other member] at marker
    cases marker
  cases expands with
  | absent => rfl
  | block noneInside noneFilled =>
      simp [List.filter_append, opening, closing, nothing noneInside,
        nothing noneFilled]

theorem openedOnce (expands : Expands name names expanded) (once : OpenedOnce names) :
    OpenedOnce expanded := by
  cases expands with
  | absent => exact once
  | @block before inside after filler _ noneFilled =>
      have none : filler.filter isOpening = [] := by
        apply List.filter_eq_nil_iff.mpr
        intro other member opens
        have marker := noneFilled other member
        rw [isMarker, opens] at marker
        cases marker
      have kept : (before ++ after).Sublist
          (before ++ openingName name :: (inside ++ closingName name :: after)) :=
        List.Sublist.append_left ((List.suffix_cons _ _).trans (List.suffix_append inside _)
          |>.sublist.trans (List.sublist_cons_self _ _)) before
      have rest := once.of_sublist kept
      unfold OpenedOnce at rest ⊢
      rwa [List.filter_append, List.filter_append, none, List.append_nil, ← List.filter_append]

/-- A block that encloses no marker before does so afterwards: if it began in front of
what is replaced and ended behind it, it would have enclosed the markers there. -/
theorem flat (expands : Expands name names expanded) {other : Text} (flat : Flat other names) :
    Flat other expanded := by
  cases expands with
  | absent => exact flat
  | @block before inside after filler noneInside noneFilled =>
      rw [flat_iff] at flat ⊢
      intro body last suffix open_
      have inAfter (suffix : openingName other :: (body ++ closingName other :: last) <:+ after) :
          ∀ each ∈ body, isMarker each = false :=
        flat body last (suffix.trans ⟨before ++ openingName name :: (inside ++ [closingName name]),
          by simp⟩) open_
      have notFilled {mark : Text} (marker : isMarker mark = true) : mark ∉ filler := by
        intro member
        rw [noneFilled mark member] at marker
        cases marker
      have inRest (suffix : openingName other :: (body ++ closingName other :: last) <:+
          filler ++ after) : ∀ each ∈ body, isMarker each = false := by
        rcases suffix with ⟨front, same⟩
        rcases List.append_eq_append_iff.mp same with ⟨middle, split, rest⟩ | ⟨middle, _, rest⟩
        · cases middle with
          | nil => exact inAfter (rest ▸ List.suffix_refl _)
          | cons first middle =>
              apply absurd _ (notFilled (isMarker_openingName other))
              rw [split, (List.cons.inj rest).1]
              exact List.mem_append_right front List.mem_cons_self
        · exact inAfter ⟨middle, rest.symm⟩
      rcases suffix with ⟨front, same⟩
      rw [List.append_assoc] at same
      rcases List.append_eq_append_iff.mp same with ⟨middle, split, rest⟩ | ⟨middle, _, rest⟩
      · cases middle with
        | nil => exact inRest (rest ▸ List.suffix_refl _)
        | cons first middle =>
            rcases List.cons.inj rest with ⟨rfl, (tail : _ = middle ++ (filler ++ after))⟩
            have whole (after : List Text) :
                openingName other :: (middle ++ after) <:+ before ++ after :=
              ⟨front, by rw [split]; simp⟩
            by_cases closes : closingName other ∈ middle
            · -- The block ends in front of what is replaced.
              rcases List.eq_append_cons_of_mem closes with ⟨first, second, rfl, fresh⟩
              rw [List.append_assoc, List.cons_append] at tail
              rw [(Text.append_cons_inj open_ fresh tail).1]
              apply flat first (second ++ (openingName name :: (inside ++ closingName name :: after)))
                _ fresh
              simpa only [List.append_assoc, List.cons_append] using
                whole (openingName name :: (inside ++ closingName name :: after))
            · -- It would end behind what is replaced.
              have inAfter : closingName other ∈ after := by
                have inTail : closingName other ∈ middle ++ (filler ++ after) :=
                  tail ▸ List.mem_append_right body List.mem_cons_self
                rw [List.mem_append, List.mem_append] at inTail
                exact (inTail.resolve_left closes).resolve_left
                  (notFilled (isMarker_closingName other))
              have ends : closingName other ∈ inside ++ closingName name :: after :=
                List.mem_append_right inside (List.mem_cons_of_mem _ inAfter)
              rcases List.eq_append_cons_of_mem ends with ⟨first, second, split, fresh⟩
              have enclosed := flat (middle ++ openingName name :: first) second (by
                rw [List.append_assoc, List.cons_append, ← split]
                exact whole _) (by
                rw [List.mem_append, List.mem_cons]
                exact not_or.mpr ⟨closes, not_or.mpr
                  ⟨(openingName_ne_closingName name other).symm, fresh⟩⟩)
              have marker := enclosed (openingName name)
                (List.mem_append_right middle List.mem_cons_self)
              rw [isMarker_openingName] at marker
              cases marker
      · exact inRest ⟨middle, rest.symm⟩

end Expands

end Block

/-! ## Texts that are filled and joined -/

namespace Text.Carries

variable {text : Text} {names : List Text}

/-- Plain values take the tokens of their names away. -/
theorem fillTokens (carries : Carries text names) {values : List (Text × Text)}
    (free : BraceFreeNames values) (plain : ∀ item ∈ values, Plain item.2) :
    Carries (fillTokens values text)
      (names.filter fun name => !(values.map Prod.fst).contains name) := by
  induction values generalizing text names with
  | nil =>
      have all : names.filter (fun name => !(([] : List (Text × Text)).map Prod.fst).contains name) =
          names := List.filter_eq_self.mpr fun _ _ => rfl
      rw [all]
      exact carries
  | cons item values inductionHypothesis =>
      rcases List.forall_mem_cons.mp plain with ⟨itemPlain, restPlain⟩
      have rest := inductionHypothesis (carries.replaceAll (free item List.mem_cons_self) itemPlain)
        free.tail restPlain
      rw [List.filter_filter] at rest
      have names : names.filter (fun name => !((item :: values).map Prod.fst).contains name) =
          names.filter fun name => !(values.map Prod.fst).contains name && name != item.1 := by
        apply List.filter_congr
        intro name _
        rw [List.map_cons, List.contains_cons, Bool.not_or, Bool.and_comm]
        rfl
      rw [fillTokens_cons, names]
      exact rest

/-- What is joined by a plain text carries the names of its parts. -/
theorem join {separator : Text} (plain : Plain separator) {parts : List Text}
    {good : Text → Prop}
    (carries : ∀ part ∈ parts, ∃ names, Carries part names ∧ ∀ name ∈ names, good name) :
    ∃ names, Carries (Text.join separator parts) names ∧ ∀ name ∈ names, good name := by
  unfold Text.join
  induction parts with
  | nil => exact ⟨[], of_plain List.not_mem_nil, List.forall_mem_nil _⟩
  | cons part parts inductionHypothesis =>
      rcases List.forall_mem_cons.mp carries with ⟨here, later⟩
      cases parts with
      | nil => rwa [List.intercalate_singleton]
      | cons next parts =>
          rcases here with ⟨names, partCarries, namesGood⟩
          rcases inductionHypothesis later with ⟨others, restCarries, othersGood⟩
          rw [List.intercalate_cons_cons]
          refine ⟨names ++ [] ++ others,
            (partCarries.append (of_plain plain)).append restCarries, ?_⟩
          intro name member
          rw [List.append_nil] at member
          exact (List.mem_append.mp member).elim (namesGood name) (othersGood name)

end Text.Carries

/-! ## Both ways to match -/

namespace Block

variable {name text : Text} {names before after : List Text}

theorem first?_of_unclosed (free : Token.BraceFree name)
    (carries : Carries text (before ++ openingName name :: after))
    (fresh : openingName name ∉ before) (unclosed : closingName name ∉ after) :
    first? name text = none := by
  rcases carries.split with ⟨left, right, rfl, leftCarries, rightCarries⟩
  have opens := cut?_of_carries (braceFree_openingName free) leftCarries fresh right
  change Text.cut? (opening name) _ = _ at opens
  have closes : Text.cut? (closing name) right = none := Text.cut?_eq_none_of_absent
    (rightCarries.not_occurs (braceFree_closingName free) unclosed)
  simp only [first?, opens, closes, Option.bind_eq_bind, Option.bind_some, Option.bind_none]

/-- If a name is opened once at most, both ways to match find nothing, or they find
the same block and replace it alone. -/
theorem select_modes (free : Token.BraceFree name) (carries : Carries text names)
    (once : OpenedOnce names) :
    (∀ mode, select mode name text = none) ∨
      ∃ block before inside after,
        names = before ++ openingName name :: (inside ++ closingName name :: after) ∧
        closingName name ∉ inside ∧ (∀ mode, select mode name text = some block) ∧
        Carries block.before before ∧ Carries block.inner inside ∧ Carries block.after after ∧
        ∀ mode rendered, block.replace mode rendered = block.before ++ rendered ++ block.after := by
  by_cases opened : openingName name ∈ names
  · rcases List.append_of_mem opened with ⟨before, rest, rfl⟩
    rcases once.not_mem with ⟨fresh, alone⟩
    by_cases closed : closingName name ∈ rest
    · rcases List.eq_append_cons_of_mem closed with ⟨inside, after, rfl, inner⟩
      have aloneBehind : openingName name ∉ after := fun member =>
        alone (List.mem_append_right inside (List.mem_cons_of_mem _ member))
      rcases select_of_carries free carries fresh inner aloneBehind with ⟨block, found⟩
      exact .inr ⟨block, before, inside, after, rfl, inner, found⟩
    · exact .inl fun _ => select_eq_none_iff.mpr (first?_of_unclosed free carries fresh closed)
  · exact .inl fun _ => select_eq_none_iff.mpr (first?_of_absent free carries opened)

/-! ### Values -/

theorem fillRow_eq_fillTokens (inner : Text) (items row : List Text) :
    fillRow inner items row =
      fillTokens ((items.zip row).map fun item => (item.1, Html.escape item.2)) inner := by
  rw [fillRow, fillTokens, List.foldl_map]

theorem carries_fillRow {items : List Text} (free : ∀ item ∈ items, Token.BraceFree item)
    (carries : Carries text names) (row : List Text) :
    ∃ kept, Carries (fillRow text items row) kept ∧ kept.Sublist names := by
  rw [fillRow_eq_fillTokens]
  refine ⟨_, carries.fillTokens ?_ ?_, List.filter_sublist⟩
  · intro item member
    rcases List.mem_map.mp member with ⟨pair, inZip, rfl⟩
    exact free pair.1 (List.of_mem_zip inZip).1
  · intro item member
    rcases List.mem_map.mp member with ⟨pair, _, rfl⟩
    exact plain_escape pair.2

/-- A block of values without markers inside is repeated in the same way in both modes. -/
theorem withColumns_expands (free : Token.BraceFree name) (carries : Carries text names)
    (once : OpenedOnce names) (flat : Flat name names) {items : List Text}
    (itemsFree : ∀ item ∈ items, Token.BraceFree item) (columns : List (List Text)) :
    ∃ result expanded, (∀ mode, withColumns mode name items columns text = result) ∧
      Carries result expanded ∧ Expands name names expanded := by
  rcases select_modes free carries once with
    none | ⟨block, before, inside, after, rfl, open_, selected, beforeCarries, innerCarries,
      afterCarries, replaced⟩
  · have noBlock : first? name text = Option.none := none .first
    refine ⟨text, names, fun mode => ?_, carries, .absent names⟩
    rw [withColumns, noBlock]
  · have found : first? name text = some block := selected .first
    have noneInside := flat_iff.mp flat inside after (List.suffix_append _ _) open_
    have filled : ∃ filler, Carries (Text.join " " ((rows ((columns.head?.map List.length).getD 0)
        columns).map (fillRow block.inner items))) filler ∧
          ∀ other ∈ filler, isMarker other = false := by
      apply Carries.join (by decide)
      intro part member
      rcases List.mem_map.mp member with ⟨row, _, rfl⟩
      rcases carries_fillRow itemsFree innerCarries row with ⟨kept, keptCarries, sub⟩
      exact ⟨kept, keptCarries, fun other member => noneInside other (sub.subset member)⟩
    rcases filled with ⟨filler, fillerCarries, noneFilled⟩
    refine ⟨_, before ++ filler ++ after, fun mode => ?_,
      (beforeCarries.append fillerCarries).append afterCarries, .block noneInside noneFilled⟩
    rw [withColumns, found]
    exact replaced mode _

/-! ### Items -/

theorem mapM_congr_left {σ α β : Type} {items : List α} {first second : α → StateM σ β}
    (same : ∀ item ∈ items, first item = second item) : items.mapM first = items.mapM second := by
  induction items with
  | nil => rfl
  | cons item items inductionHypothesis =>
      rcases List.forall_mem_cons.mp same with ⟨here, later⟩
      rw [List.mapM_cons, List.mapM_cons, here, inductionHypothesis later]

/-- A block of items is repeated in the same way in both modes if its items are
rendered in the same way. -/
theorem withItems_modes (free : Token.BraceFree name) (carries : Carries text names)
    (once : OpenedOnce names) {σ α : Type} {items : List α}
    (render : BlockMatch → Text → α → StateM σ Text)
    (same : ∀ inner inside, inside <:+: names → Carries inner inside → ∀ item ∈ items,
      render .first inner item = render .last inner item) :
    withItems .first name items (render .first) text =
      withItems .last name items (render .last) text := by
  rcases select_modes free carries once with
    none | ⟨block, before, inside, after, rfl, _, selected, _, innerCarries, _, replaced⟩
  · rw [withItems, withItems, none, none]
  · have sub : inside <:+: before ++ openingName name :: (inside ++ closingName name :: after) :=
      ⟨before ++ [openingName name], closingName name :: after, by simp⟩
    rw [withItems, withItems, selected, selected]
    simp only [replaced, mapM_congr_left (same block.inner inside sub innerCarries)]

end Block
end MediaSite
