import MediaSite.Proofs.Site.BlockModes
import MediaSite.Proofs.Template.Names

namespace MediaSite

/-!
# Filling blocks of values

The list blocks of an entity and the block of its cast differ only in how many columns
they have, and `Entity.valueBlocks` lists them together in the order in which a page
repeats them.

A template in parts has pieces on their own and blocks of values with pieces between
their markers.  `TemplatePart.carried` says which names such a part carries when the
fields are filled in and some blocks are repeated already: a block that is repeated has
what is left of its pieces once for each row, and another one its markers.  Each pass
moves its block from the one case to the other (`TemplatePart.carries_fill`), and so
the text in which all blocks are repeated carries what
`TemplatePart.carries_withLists` says.
-/

open scoped Text
open Text (Plain Carries)

/-! ## Blocks of an entity -/

/-- A block that is repeated for each row of columns of values, and the token names that
the values of a row have inside of it. -/
structure ValueBlock where
  name : Text
  items : List Text
  columns : List (List Text)

namespace ValueBlock

/-- How often the block is repeated. -/
def count (block : ValueBlock) : Nat :=
  (block.columns.head?.map List.length).getD 0

def ofList (list : ListBlock) : ValueBlock :=
  ⟨list.block, [list.item], [list.values]⟩

def ofCast (actors : List Actor) : ValueBlock :=
  ⟨"ACTORS", ["ACTOR.NAME", "ACTOR.ROLE"], [actors.map (·.name), actors.map (·.role)]⟩

/-- Repeat the block where it stands in a text. -/
def fill (mode : BlockMatch) (block : ValueBlock) (text : Text) : Text :=
  Block.withColumns mode block.name block.items block.columns text

/-- The name of a block can be searched for, and each of its columns has a name. -/
structure Sound (block : ValueBlock) : Prop where
  free : Token.BraceFree block.name
  itemsFree : ∀ item ∈ block.items, Token.BraceFree item
  even : block.items.length = block.columns.length

end ValueBlock

/-- The blocks of values that an entity provides. -/
def Entity.valueBlocks (entity : Entity) : List ValueBlock :=
  entity.listBlocks.map ValueBlock.ofList ++ (entity.actors?.map ValueBlock.ofCast).toList

/-- The blocks of values that entities of a kind provide, each with the names of its items. -/
def Kind.valueBlocks : Kind → List (Text × List Text)
  | .movie => [
      ("TAGS", ["TAG.NAME"]),
      ("GENRES", ["GENRE.NAME"]),
      ("COUNTRIES", ["COUNTRY.NAME"]),
      ("STUDIOS", ["STUDIO.NAME"]),
      ("ACTORS", ["ACTOR.NAME", "ACTOR.ROLE"])]
  | .tvShow => [
      ("TAGS", ["TAG.NAME"]),
      ("GENRES", ["GENRE.NAME"]),
      ("ACTORS", ["ACTOR.NAME", "ACTOR.ROLE"])]
  | .season => []
  | .episode => [
      ("WRITERS", ["WRITER.NAME"]),
      ("DIRECTORS", ["DIRECTOR.NAME"])]
  | .concert => [
      ("TAGS", ["TAG.NAME"]),
      ("GENRES", ["GENRE.NAME"])]

/-- What blocks an entity provides is a matter of its kind. -/
theorem Entity.map_valueBlocks (entity : Entity) :
    entity.valueBlocks.map (fun block => (block.name, block.items)) = entity.kind.valueBlocks := by
  cases entity <;> rfl

/-- The names of blocks are proper names behind the marks, no kind has two blocks of one
name, and the names of items are known as such. -/
theorem Kind.valueBlocks_spec (kind : Kind) :
    (∀ block ∈ kind.valueBlocks,
        Token.isName (Block.openingName block.1) = true ∧
        Token.isName (Block.closingName block.1) = true ∧
        Token.BraceFree block.1 ∧ ∀ item ∈ block.2, item ∈ listItemNames) ∧
      (kind.valueBlocks.map Prod.fst).Nodup := by
  cases kind <;> decide +kernel

theorem Entity.mem_kind_valueBlocks {entity : Entity} {block : ValueBlock}
    (member : block ∈ entity.valueBlocks) : (block.name, block.items) ∈ entity.kind.valueBlocks := by
  rw [← entity.map_valueBlocks]
  exact List.mem_map_of_mem member

theorem Entity.nodup_valueBlocks (entity : Entity) :
    (entity.valueBlocks.map ValueBlock.name).Nodup := by
  have names := (Kind.valueBlocks_spec entity.kind).2
  rwa [← entity.map_valueBlocks, List.map_map] at names

theorem braceFree_listItemNames : ∀ item ∈ listItemNames, Token.BraceFree item := by
  decide

theorem Entity.sound_valueBlocks (entity : Entity) : ∀ block ∈ entity.valueBlocks, block.Sound := by
  intro block member
  have spec := (Kind.valueBlocks_spec entity.kind).1 _ (Entity.mem_kind_valueBlocks member)
  refine ⟨spec.2.2.1, fun item inItems => braceFree_listItemNames item (spec.2.2.2 item inItems), ?_⟩
  rcases List.mem_append.mp member with inLists | inCast
  · rcases List.mem_map.mp inLists with ⟨list, _, rfl⟩
    rfl
  · rcases Option.map_eq_some_iff.mp (Option.mem_toList.mp inCast) with ⟨actors, _, rfl⟩
    rfl

/-- The lists and the cast of an entity are filled block by block. -/
theorem Page.withLists_eq_foldl (mode : BlockMatch) (template : Text) (entity : Entity) :
    withLists mode template entity =
      entity.valueBlocks.foldl (fun text block => block.fill mode text)
        (renderFields template entity) := by
  rw [withLists, Entity.valueBlocks, List.foldl_append, List.foldl_map]
  cases entity.actors? <;> rfl

/-! ## Templates in parts -/

/-- A part of a template: a piece on its own, or a block with pieces between its markers. -/
inductive TemplatePart where
  | alone (piece : TemplatePiece)
  | repeated (name : Text) (inner : List TemplatePiece)

namespace TemplatePart

def source : TemplatePart → Text
  | .alone piece => piece.source
  | .repeated name inner => Block.opening name ++ (TemplatePiece.join inner ++ Block.closing name)

def join (parts : List TemplatePart) : Text :=
  parts.flatMap source

def blockName? : TemplatePart → Option Text
  | .alone _ => none
  | .repeated name _ => some name

/-- A text without an opening brace, or the token of a proper name that is no marker; where
the names of items have a meaning, these and no others may be among them. -/
def Allowed (items : List Text) : TemplatePiece → Prop
  | .text content => Plain content
  | .token name => Token.isName name = true ∧ Block.isMarker name = false ∧
      (name ∈ listItemNames → name ∈ items)

instance (items : List Text) (piece : TemplatePiece) : Decidable (Allowed items piece) :=
  match piece with
  | .text content => inferInstanceAs (Decidable (Plain content))
  | .token _ => inferInstanceAs (Decidable (_ ∧ _))

/-- Blocks are those of the kind, and names of items stand in the block that gives them
their values. -/
def Fits (kind : Kind) : TemplatePart → Prop
  | .alone piece => Allowed [] piece
  | .repeated name inner =>
    ∃ block ∈ kind.valueBlocks, block.1 = name ∧ ∀ piece ∈ inner, Allowed block.2 piece

instance (kind : Kind) (part : TemplatePart) : Decidable (part.Fits kind) :=
  match part with
  | .alone piece => inferInstanceAs (Decidable (Allowed [] piece))
  | .repeated _ _ => inferInstanceAs (Decidable (∃ block ∈ kind.valueBlocks, _))

/-- A template for a kind: each part fits, and no block stands in it twice. -/
structure Suits (kind : Kind) (parts : List TemplatePart) : Prop where
  fits : ∀ part ∈ parts, part.Fits kind
  once : (parts.filterMap blockName?).Nodup

/-! ## Names -/

/-- The names that are not among those filled in. -/
def unfilled (filled names : List Text) : List Text :=
  names.filter fun name => !filled.contains name

/-- The names in a part when fields are filled in and some blocks are repeated. -/
def carried (fields : List Text) (done : List ValueBlock) : TemplatePart → List Text
  | .alone piece => unfilled fields (TemplatePiece.names [piece])
  | .repeated name inner =>
    match done.find? (·.name == name) with
    | some block =>
      (List.replicate block.count
        (unfilled block.items (unfilled fields (TemplatePiece.names inner)))).flatten
    | none =>
      Block.openingName name ::
        (unfilled fields (TemplatePiece.names inner) ++ [Block.closingName name])

variable {kind : Kind} {parts : List TemplatePart} {part : TemplatePart}
  {fields : List Text} {done : List ValueBlock}

theorem mem_unfilled {filled names : List Text} {name : Text} :
    name ∈ unfilled filled names ↔ name ∈ names ∧ name ∉ filled := by
  simp [unfilled]

theorem tidy_of_allowed {items : List Text} {piece : TemplatePiece}
    (allowed : Allowed items piece) :
    piece.Tidy := by
  cases piece with
  | text content => exact allowed
  | token name => exact Token.braceFree_of_isName allowed.1

theorem allowed_of_mem_names {items : List Text} {pieces : List TemplatePiece}
    (allowed : ∀ piece ∈ pieces, Allowed items piece) {name : Text}
    (member : name ∈ TemplatePiece.names pieces) : Allowed items (.token name) := by
  rcases List.mem_filterMap.mp member with ⟨piece, inPieces, isToken⟩
  cases piece with
  | text content => cases isToken
  | token other =>
      rw [← Option.some.inj isToken]
      exact allowed _ inPieces

theorem not_mem_names_of_isMarker {items : List Text} {pieces : List TemplatePiece}
    (allowed : ∀ piece ∈ pieces, Allowed items piece) {name : Text}
    (marker : Block.isMarker name = true) : name ∉ TemplatePiece.names pieces := by
  intro member
  have noMarker := (allowed_of_mem_names allowed member).2.1
  rw [marker] at noMarker
  cases noMarker

/-- Only a block carries the marker that opens it. -/
theorem blockName?_of_opening_mem (fits : part.Fits kind) {name : Text}
    (member : Block.openingName name ∈ part.carried fields done) :
    part.blockName? = some name := by
  have opens := Block.isMarker_openingName name
  cases part with
  | alone piece =>
      exact absurd (mem_unfilled.mp member).1
        (not_mem_names_of_isMarker (List.forall_mem_singleton.mpr fits) opens)
  | repeated other inner =>
      rcases fits with ⟨_, _, _, allowed⟩
      rw [carried] at member
      split at member
      · rcases List.mem_flatten.mp member with ⟨copy, inCopies, inCopy⟩
        rw [List.eq_of_mem_replicate inCopies, mem_unfilled, mem_unfilled] at inCopy
        exact absurd inCopy.1.1 (not_mem_names_of_isMarker allowed opens)
      · rcases List.mem_cons.mp member with same | later
        · exact congrArg some (List.append_cancel_left same).symm
        · rcases List.mem_append.mp later with inInner | closes
          · exact absurd (mem_unfilled.mp inInner).1 (not_mem_names_of_isMarker allowed opens)
          · exact absurd (List.mem_singleton.mp closes)
              (Block.openingName_ne_closingName name other)

/-! ## Passes -/

theorem carries_source (fits : part.Fits kind) : Carries part.source (part.carried [] []) := by
  have all (names : List Text) : unfilled [] names = names :=
    List.filter_eq_self.mpr fun _ _ => rfl
  cases part with
  | alone piece =>
      rw [carried, all]
      exact ⟨[piece], List.forall_mem_singleton.mpr (tidy_of_allowed fits), rfl, List.append_nil _⟩
  | repeated name inner =>
      rcases fits with ⟨block, known, rfl, allowed⟩
      have free := ((Kind.valueBlocks_spec kind).1 block known).2.2.1
      have innerCarries : Carries (TemplatePiece.join inner) (TemplatePiece.names inner) :=
        ⟨inner, fun piece member => tidy_of_allowed (allowed piece member), rfl, rfl⟩
      rw [carried, all]
      exact (Carries.ofName (Block.braceFree_openingName free)).append
        (innerCarries.append (Carries.ofName (Block.braceFree_closingName free)))

/-- A template carries what its parts carry. -/
theorem carries_join (fits : ∀ part ∈ parts, part.Fits kind) :
    Carries (join parts) (parts.flatMap (carried [] [])) := by
  induction parts with
  | nil => exact Carries.of_plain List.not_mem_nil
  | cons part parts inductionHypothesis =>
      rcases List.forall_mem_cons.mp fits with ⟨here, later⟩
      exact (carries_source here).append (inductionHypothesis later)

/-- Filling in fields leaves the markers where they are. -/
theorem unfilled_carried (noMarker : ∀ name ∈ fields, Block.isMarker name = false)
    (part : TemplatePart) : unfilled fields (part.carried [] []) = part.carried fields [] := by
  have all (names : List Text) : unfilled [] names = names :=
    List.filter_eq_self.mpr fun _ _ => rfl
  have kept {name : Text} (marker : Block.isMarker name = true) :
      (!fields.contains name) = true := by
    rw [Bool.not_eq_true', Bool.eq_false_iff]
    intro isField
    rw [noMarker name (List.contains_iff_mem.mp isField)] at marker
    cases marker
  cases part with
  | alone piece => rw [carried, carried, all]
  | repeated name inner =>
      rw [carried, carried, all]
      simp only [List.find?_nil, unfilled, List.filter_cons, List.filter_append, List.filter_nil,
        kept (Block.isMarker_openingName name), kept (Block.isMarker_closingName name), if_true]

theorem carries_renderFields {entity : Entity} (plain : entity.PlainVerbatim)
    (fits : ∀ part ∈ parts, part.Fits entity.kind) :
    Carries (renderFields (join parts) entity)
      (parts.flatMap (carried entity.kind.fieldNames [])) := by
  have filled := (carries_join fits).fillTokens entity.braceFree_fields plain.plain_fields
  rw [entity.map_fst_fields, List.filter_flatMap] at filled
  have same : parts.flatMap (carried entity.kind.fieldNames []) =
      parts.flatMap fun part => unfilled entity.kind.fieldNames (part.carried [] []) :=
    List.flatMap_congr fun part _ =>
      (unfilled_carried (Page.isMarker_fieldName entity.kind) part).symm
  rw [same]
  exact filled

/-- To repeat one more block makes no difference to the other parts. -/
theorem carried_concat_of_ne {block : ValueBlock} (other : part.blockName? ≠ some block.name) :
    part.carried fields (done ++ [block]) = part.carried fields done := by
  cases part with
  | alone piece => rfl
  | repeated name inner =>
      have different : (block.name == name) = false :=
        beq_false_of_ne fun same => other (congrArg some same.symm)
      have found : (done ++ [block]).find? (·.name == name) = done.find? (·.name == name) := by
        rw [List.find?_append, List.find?_cons_of_neg (by simp [different]), List.find?_nil,
          Option.or_none]
      rw [carried, carried, found]

/-- A row of values takes the names of the items away. -/
theorem carries_fillRow {inner : Text} {names items row : List Text} (carries : Carries inner names)
    (free : ∀ item ∈ items, Token.BraceFree item) (even : items.length = row.length) :
    Carries (Block.fillRow inner items row) (unfilled items names) := by
  have rowFree :
      BraceFreeNames ((items.zip row).map fun item => (item.1, Html.escape item.2)) := by
    intro item member
    rcases List.mem_map.mp member with ⟨pair, inZip, rfl⟩
    exact free pair.1 (List.of_mem_zip inZip).1
  have rowPlain :
      ∀ item ∈ (items.zip row).map fun item => (item.1, Html.escape item.2), Plain item.2 := by
    intro item member
    rcases List.mem_map.mp member with ⟨pair, _, rfl⟩
    exact plain_escape pair.2
  have rowNames : ((items.zip row).map fun item => (item.1, Html.escape item.2)).map Prod.fst =
      items := by
    rw [List.map_map]
    exact List.map_fst_zip (Nat.le_of_eq even)
  have filled := carries.fillTokens rowFree rowPlain
  rw [rowNames] at filled
  rw [Block.fillRow_eq_fillTokens]
  exact filled

/-- The rows of a block that are joined carry its inner names once for each row. -/
theorem carries_rows {block : ValueBlock} (sound : block.Sound) {inner : Text} {names : List Text}
    (carries : Carries inner names) :
    Carries (Text.join " " ((Block.rows block.count block.columns).map
        (Block.fillRow inner block.items)))
      (List.replicate block.count (unfilled block.items names)).flatten := by
  have blank : Plain (" " : Text) := by decide
  have rowCarries : ∀ copy ∈ (Block.rows block.count block.columns).map
      (Block.fillRow inner block.items), Carries copy (unfilled block.items names) := by
    intro copy member
    rcases List.mem_map.mp member with ⟨row, inRows, rfl⟩
    rcases List.mem_map.mp inRows with ⟨index, _, rfl⟩
    exact carries_fillRow carries sound.itemsFree (by rw [List.length_map]; exact sound.even)
  have joined := Block.carries_join blank rowCarries
  rwa [List.length_map, Block.rows, List.length_map, List.length_range] at joined

theorem opening_not_mem_carried (fits : ∀ part ∈ parts, part.Fits kind) {name : Text}
    (absent : name ∉ parts.filterMap blockName?) :
    Block.openingName name ∉ parts.flatMap (carried fields done) := by
  intro member
  rcases List.mem_flatMap.mp member with ⟨part, inParts, inPart⟩
  exact absent (List.mem_filterMap.mpr
    ⟨part, inParts, blockName?_of_opening_mem (fits part inParts) inPart⟩)

theorem flatMap_carried_concat {block : ValueBlock}
    (absent : block.name ∉ parts.filterMap blockName?) :
    parts.flatMap (carried fields (done ++ [block])) = parts.flatMap (carried fields done) :=
  List.flatMap_congr fun part member => carried_concat_of_ne fun same =>
    absent (List.mem_filterMap.mpr ⟨part, member, same⟩)

/-- A block that is not repeated yet still has its markers. -/
theorem carried_of_fresh {name : Text} (inner : List TemplatePiece)
    (fresh : ∀ earlier ∈ done, earlier.name ≠ name) :
    (repeated name inner).carried fields done =
      Block.openingName name ::
        (unfilled fields (TemplatePiece.names inner) ++ [Block.closingName name]) := by
  have notDone : done.find? (·.name == name) = none :=
    List.find?_eq_none.mpr fun earlier member => by simp [fresh earlier member]
  rw [carried, notDone]

theorem carried_concat_self {block : ValueBlock} (inner : List TemplatePiece)
    (fresh : ∀ earlier ∈ done, earlier.name ≠ block.name) :
    (repeated block.name inner).carried fields (done ++ [block]) =
      (List.replicate block.count (unfilled block.items
        (unfilled fields (TemplatePiece.names inner)))).flatten := by
  have notDone : done.find? (·.name == block.name) = none :=
    List.find?_eq_none.mpr fun earlier member => by simp [fresh earlier member]
  have nowDone : (done ++ [block]).find? (·.name == block.name) = some block := by
    rw [List.find?_append, notDone, Option.none_or, List.find?_cons_of_pos (by simp)]
  rw [carried, nowDone]

/-- Repeating a block that is not repeated yet moves it to those that are. -/
theorem carries_fill {text : Text} {block : ValueBlock} (sound : block.Sound)
    (suits : Suits kind parts) (carries : Carries text (parts.flatMap (carried fields done)))
    (fresh : ∀ earlier ∈ done, earlier.name ≠ block.name) (mode : BlockMatch) :
    Carries (block.fill mode text) (parts.flatMap (carried fields (done ++ [block]))) := by
  by_cases present : block.name ∈ parts.filterMap blockName?
  · rcases List.mem_filterMap.mp present with ⟨part, inParts, named⟩
    cases part with
    | alone piece => cases named
    | repeated name inner =>
        rcases Option.some.inj named with rfl
        rcases suits.fits _ inParts with ⟨_, _, _, allowed⟩
        rcases List.append_of_mem inParts with ⟨front, back, rfl⟩
        -- No other part is a block of this name.
        have once := suits.once
        rw [List.filterMap_append, List.filterMap_cons_some named, List.nodup_middle,
          List.nodup_cons, List.mem_append, not_or] at once
        rcases once with ⟨⟨notFront, notBack⟩, _⟩
        have frontOpens : Block.openingName block.name ∉ front.flatMap (carried fields done) :=
          opening_not_mem_carried
            (fun part member => suits.fits part (List.mem_append_left _ member)) notFront
        have backOpens : Block.openingName block.name ∉ back.flatMap (carried fields done) :=
          opening_not_mem_carried (fun part member =>
            suits.fits part (List.mem_append_right _ (List.mem_cons_of_mem _ member))) notBack
        have innerCloses :
            Block.closingName block.name ∉ unfilled fields (TemplatePiece.names inner) :=
          fun member => not_mem_names_of_isMarker allowed (Block.isMarker_closingName block.name)
            (mem_unfilled.mp member).1
        rw [List.flatMap_append, List.flatMap_cons, carried_of_fresh inner fresh, List.cons_append,
          List.append_assoc, List.singleton_append] at carries
        rcases Block.select_of_carries sound.free carries frontOpens innerCloses backOpens with
          ⟨found, selected, beforeCarries, innerCarries, afterCarries, replaced⟩
        have isFirst : Block.first? block.name text = some found := selected .first
        rw [List.flatMap_append, List.flatMap_cons, flatMap_carried_concat notFront,
          flatMap_carried_concat notBack, carried_concat_self inner fresh, ← List.append_assoc,
          ValueBlock.fill, Block.withColumns, isFirst]
        simp only [replaced]
        exact (beforeCarries.append (carries_rows sound innerCarries)).append afterCarries
  · rw [flatMap_carried_concat present, ValueBlock.fill, Block.withColumns_of_carries sound.free
      carries (opening_not_mem_carried suits.fits present)]
    exact carries

/-- Blocks of different names are repeated one after the other. -/
theorem carries_foldl {text : Text} {blocks : List ValueBlock}
    (sound : ∀ block ∈ blocks, block.Sound) (suits : Suits kind parts)
    (carries : Carries text (parts.flatMap (carried fields done)))
    (distinct : ((done ++ blocks).map ValueBlock.name).Nodup) (mode : BlockMatch) :
    Carries (blocks.foldl (fun text block => block.fill mode text) text)
      (parts.flatMap (carried fields (done ++ blocks))) := by
  induction blocks generalizing text done with
  | nil => rwa [List.append_nil]
  | cons block blocks inductionHypothesis =>
      rcases List.forall_mem_cons.mp sound with ⟨here, later⟩
      have fresh : ∀ earlier ∈ done, earlier.name ≠ block.name := by
        rw [List.map_append] at distinct
        intro earlier member same
        exact (List.nodup_append.mp distinct).2.2 _ (List.mem_map_of_mem member) _
          (List.mem_map_of_mem List.mem_cons_self) same
      have step := carries_fill here suits carries fresh mode
      have order : done ++ block :: blocks = (done ++ [block]) ++ blocks := by
        rw [List.append_assoc, List.singleton_append]
      rw [order] at distinct ⊢
      exact inductionHypothesis later step distinct

/-- What is carried when the fields, the lists and the cast of an entity are filled in. -/
theorem carries_withLists {entity : Entity} (plain : entity.PlainVerbatim)
    (suits : Suits entity.kind parts) (mode : BlockMatch) :
    Carries (Page.withLists mode (join parts) entity)
      (parts.flatMap (carried entity.kind.fieldNames entity.valueBlocks)) := by
  rw [Page.withLists_eq_foldl]
  exact carries_foldl entity.sound_valueBlocks suits (carries_renderFields plain suits.fits)
    entity.nodup_valueBlocks mode

end TemplatePart
end MediaSite
