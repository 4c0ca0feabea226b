import MediaSite.Proofs.Library.Episodes
import MediaSite.Proofs.Site.Inertness
import MediaSite.Proofs.Site.Requests
import MediaSite.Proofs.Site.ValueBlocks
import MediaSite.Proofs.Template.Replacement
import MediaSite.Site.Pack

namespace MediaSite

/-!
# What the check of a pack foretells

The check looks at a template by itself and reports the names that nothing would fill.
A page filled from the template has these names where the template shows them, outside
of blocks or inside of a block with values, and no others
(`TemplatePart.remaining_withLists`).

The pictures come last, and they can spoil this.  The role of an image token runs over
braces up to the next box, so a placeholder whose name begins with `IMAGE.` can become
the beginning of an image token that a text behind it ends, and the token takes all
placeholders in between with it.  Where the filled page has no image token the check is
exact, and a template about which it reports nothing leaves nothing in any case
(`Pack.check_foretells_remaining`).
-/

open scoped Text
open Text (Plain Carries)

/-! ## Names that a page shows -/

/-- Whether an entity has values for a block. -/
def Entity.hasValues (entity : Entity) (name : Text) : Bool :=
  entity.valueBlocks.any fun block => block.name == name && block.count != 0

namespace TemplatePart

variable {entity : Entity} {parts : List TemplatePart} {part : TemplatePart} {name : Text}

/-- The names of a part outside of blocks, or inside of a block with values. -/
def shown (entity : Entity) : TemplatePart → List Text
  | .alone piece => TemplatePiece.names [piece]
  | .repeated name inner => if entity.hasValues name then TemplatePiece.names inner else []

theorem mem_flatten_replicate {count : Nat} {names : List Text} :
    name ∈ (List.replicate count names).flatten ↔ count ≠ 0 ∧ name ∈ names := by
  rw [List.mem_flatten]
  constructor
  · rintro ⟨copy, inCopies, inCopy⟩
    rcases List.mem_replicate.mp inCopies with ⟨some, rfl⟩
    exact ⟨some, inCopy⟩
  · rintro ⟨some, member⟩
    exact ⟨names, List.mem_replicate.mpr ⟨some, rfl⟩, member⟩

/-- The block of an entity that a part of a template names. -/
theorem exists_block {block : Text × List Text} (known : block ∈ entity.kind.valueBlocks) :
    ∃ values : ValueBlock, values.items = block.2 ∧
      entity.valueBlocks.find? (·.name == block.1) = some values ∧
      entity.hasValues block.1 = (values.count != 0) := by
  rw [← entity.map_valueBlocks] at known
  rcases List.mem_map.mp known with ⟨values, inEntity, rfl⟩
  have only : ∀ other ∈ entity.valueBlocks, other.name = values.name → other = values :=
    fun other member same => List.inj_on_of_nodup_map entity.nodup_valueBlocks member inEntity same
  refine ⟨values, rfl, ?_, ?_⟩
  · cases found : entity.valueBlocks.find? (·.name == values.name) with
    | none => exact absurd (beq_self_eq_true _) (List.find?_eq_none.mp found values inEntity)
    | some other =>
        have named := List.find?_some found
        rw [only other (List.mem_of_find?_eq_some found) (beq_iff_eq.mp named)]
  · rw [Entity.hasValues, Bool.eq_iff_iff, List.any_eq_true]
    constructor
    · rintro ⟨other, member, both⟩
      rw [Bool.and_eq_true] at both
      rw [← only other member (beq_iff_eq.mp both.1)]
      exact both.2
    · intro some
      exact ⟨values, inEntity, by rw [beq_self_eq_true, some]; rfl⟩

/-- Of the names that a part shows those are left that are neither those of fields nor of
items. -/
theorem mem_carried_iff (fits : part.Fits entity.kind) :
    name ∈ part.carried entity.kind.fieldNames entity.valueBlocks ↔
      name ∈ part.shown entity ∧ name ∉ entity.kind.fieldNames ∧ name ∉ listItemNames := by
  cases part with
  | alone piece =>
      rw [carried, shown, mem_unfilled, and_congr_right_iff]
      intro member
      have noItem : name ∉ listItemNames := fun isItem =>
        List.not_mem_nil ((allowed_of_mem_names (List.forall_mem_singleton.mpr fits) member).2.2
          isItem)
      exact ⟨fun noField => ⟨noField, noItem⟩, And.left⟩
  | repeated blockName inner =>
      rcases fits with ⟨block, known, rfl, allowed⟩
      rcases exists_block known with ⟨values, items, found, filled⟩
      have listed := ((Kind.valueBlocks_spec entity.kind).1 block known).2.2.2
      rw [carried, found, shown, filled, mem_flatten_replicate, mem_unfilled, mem_unfilled, items]
      by_cases none : values.count = 0
      · simp [none]
      · simp only [bne_iff_ne, ne_eq, none, not_false_eq_true, true_and, if_true]
        rw [and_assoc, and_congr_right_iff]
        intro member
        have known := (allowed_of_mem_names allowed member).2.2
        rw [and_congr_right_iff]
        exact fun _ => not_congr ⟨listed name, known⟩

theorem allowed_of_mem_shown (fits : part.Fits entity.kind) (member : name ∈ part.shown entity) :
    Token.isName name = true ∧ Block.isMarker name = false := by
  cases part with
  | alone piece =>
      have allowed := allowed_of_mem_names (List.forall_mem_singleton.mpr fits) member
      exact ⟨allowed.1, allowed.2.1⟩
  | repeated blockName inner =>
      rcases fits with ⟨block, _, _, each⟩
      rw [shown] at member
      split at member
      · have allowed := allowed_of_mem_names each member
        exact ⟨allowed.1, allowed.2.1⟩
      · cases member

/-! ## Templates -/

/-- All names in a template have the form of names, markers included. -/
theorem isName_of_mem_carried (fits : part.Fits entity.kind) (member : name ∈ part.carried [] []) :
    Token.isName name = true := by
  cases part with
  | alone piece =>
      exact (allowed_of_mem_names (List.forall_mem_singleton.mpr fits)
        (mem_unfilled.mp member).1).1
  | repeated blockName inner =>
      rcases fits with ⟨block, known, rfl, allowed⟩
      have spec := (Kind.valueBlocks_spec entity.kind).1 block known
      rcases List.mem_cons.mp member with rfl | later
      · exact spec.1
      · rcases List.mem_append.mp later with inInner | closes
        · exact (allowed_of_mem_names allowed (mem_unfilled.mp inInner).1).1
        · rw [List.mem_singleton.mp closes]
          exact spec.2.1

theorem mem_carried_of_mem_shown (member : name ∈ part.shown entity) :
    name ∈ part.carried [] [] := by
  cases part with
  | alone piece => exact mem_unfilled.mpr ⟨member, List.not_mem_nil⟩
  | repeated blockName inner =>
      rw [shown] at member
      split at member
      · exact List.mem_cons_of_mem _
          (List.mem_append_left _ (mem_unfilled.mpr ⟨member, List.not_mem_nil⟩))
      · cases member

/-- What a page can show stands in its template. -/
theorem mem_remaining_of_mem_shown (suits : Suits entity.kind parts)
    (member : name ∈ parts.flatMap (shown entity)) : name ∈ Token.remaining (join parts) := by
  have proper : ∀ other ∈ parts.flatMap (carried [] []), Token.isName other = true := by
    intro other inParts
    rcases List.mem_flatMap.mp inParts with ⟨part, inTemplate, inPart⟩
    exact isName_of_mem_carried (suits.fits part inTemplate) inPart
  rcases List.mem_flatMap.mp member with ⟨part, inTemplate, inPart⟩
  rw [(carries_join suits.fits).remaining_eq proper]
  apply List.mem_filter.mpr
  refine ⟨List.mem_flatMap.mpr ⟨part, inTemplate, mem_carried_of_mem_shown inPart⟩, ?_⟩
  rw [(allowed_of_mem_shown (suits.fits part inTemplate) inPart).2]
  rfl

/-! ## Filled templates -/

theorem spec_of_mem_carried (suits : Suits entity.kind parts)
    (member : name ∈ parts.flatMap (carried entity.kind.fieldNames entity.valueBlocks)) :
    Token.isName name = true ∧ Block.isMarker name = false := by
  rcases List.mem_flatMap.mp member with ⟨part, inTemplate, inPart⟩
  have fits := suits.fits part inTemplate
  exact allowed_of_mem_shown fits ((mem_carried_iff fits).mp inPart).1

/-- What is left in a text whose fields, lists and cast are filled in. -/
theorem remaining_withLists (plain : entity.PlainVerbatim) (suits : Suits entity.kind parts)
    (mode : BlockMatch) :
    Token.remaining (Page.withLists mode (join parts) entity) =
      parts.flatMap (carried entity.kind.fieldNames entity.valueBlocks) := by
  rw [(carries_withLists plain suits mode).remaining_eq fun other member =>
    (spec_of_mem_carried suits member).1]
  exact List.filter_eq_self.mpr fun other member => by
    rw [(spec_of_mem_carried suits member).2]
    rfl

theorem mem_remaining_withLists (plain : entity.PlainVerbatim) (suits : Suits entity.kind parts)
    (mode : BlockMatch) :
    name ∈ Token.remaining (Page.withLists mode (join parts) entity) ↔
      name ∈ parts.flatMap (shown entity) ∧
        name ∉ entity.kind.fieldNames ∧ name ∉ listItemNames := by
  rw [remaining_withLists plain suits mode, List.mem_flatMap, List.mem_flatMap]
  constructor
  · rintro ⟨part, inTemplate, inPart⟩
    rcases (mem_carried_iff (suits.fits part inTemplate)).mp inPart with ⟨isShown, unknown⟩
    exact ⟨⟨part, inTemplate, isShown⟩, unknown⟩
  · rintro ⟨⟨part, inTemplate, isShown⟩, unknown⟩
    exact ⟨part, inTemplate, (mem_carried_iff (suits.fits part inTemplate)).mpr ⟨isShown, unknown⟩⟩

end TemplatePart

/-! ## Pictures -/

theorem Text.count_replaceAll_le {needle value : Text} (nonempty : needle ≠ [])
    (plain : Plain value)
    (text : Text) : (replaceAll needle value text).count '\x7b' ≤ text.count '\x7b' := by
  induction text using replace_induction nonempty with
  | nil => exact Nat.le_refl _
  | hit rest inductionHypothesis =>
      rw [replaceAll_needle_append nonempty, List.count_append, List.count_append,
        List.count_eq_zero.mpr plain]
      omega
  | miss c rest absent inductionHypothesis =>
      rw [replaceAll_cons_of_miss absent, List.count_cons, List.count_cons]
      omega

/-- Where a needle that opens a brace is replaced by a plain text, fewer braces open. -/
theorem Text.count_replaceAll_lt {needle value text : Text} (opens : '\x7b' ∈ needle)
    (plain : Plain value) (occurs : needle <:+: text) :
    (replaceAll needle value text).count '\x7b' < text.count '\x7b' := by
  have nonempty : needle ≠ [] := List.ne_nil_of_mem opens
  induction text using replace_induction nonempty with
  | nil => exact absurd (List.infix_nil.mp occurs) nonempty
  | hit rest inductionHypothesis =>
      have fewer := count_replaceAll_le nonempty plain rest
      have some : 0 < needle.count '\x7b' := List.count_pos_iff.mpr opens
      rw [replaceAll_needle_append nonempty, List.count_append, List.count_append,
        List.count_eq_zero.mpr plain]
      omega
  | miss c rest absent inductionHypothesis =>
      have later := inductionHypothesis ((List.infix_cons_iff.mp occurs).resolve_left absent)
      rw [replaceAll_cons_of_miss absent, List.count_cons, List.count_cons]
      omega

/-- An image token stands in the text in which it is found, and opens braces. -/
theorem ImageToken.text_infix_of_mem_all {text : Text} {token : ImageToken}
    (member : token ∈ all text) : token.text <:+: text ∧ '\x7b' ∈ token.text := by
  rcases List.mem_filterMap.mp member with ⟨piece, inPieces, found⟩
  rw [← text_of_token? found]
  constructor
  · rcases List.append_of_mem inPieces with ⟨front, back, same⟩
    have whole := flatMap_pieces text
    rw [same, List.flatMap_append, List.flatMap_cons] at whole
    exact ⟨front.flatMap Piece.text, back.flatMap Piece.text, by rw [← whole, List.append_assoc]⟩
  · rcases exists_of_mem_pieces inPieces with ⟨c, rfl⟩ | ⟨shape, rfl⟩
    · cases found
    · exact List.mem_cons_self

namespace Page

variable {σ : Type} {resolve : Resolver σ} {entity : Entity} {text : Text}

theorem count_replaceEach_le {found : List (Text × Text)} (tokens : ∀ item ∈ found, item.1 ≠ [])
    (plain : ∀ item ∈ found, Plain item.2) (text : Text) :
    (replaceEach found text).count '\x7b' ≤ text.count '\x7b' := by
  induction found generalizing text with
  | nil => exact Nat.le_refl _
  | cons item found inductionHypothesis =>
      rcases List.forall_mem_cons.mp tokens with ⟨nonempty, restNonempty⟩
      rcases List.forall_mem_cons.mp plain with ⟨itemPlain, restPlain⟩
      exact (inductionHypothesis restNonempty restPlain _).trans
        (Text.count_replaceAll_le nonempty itemPlain text)

/-- If a text has image tokens, then paths without braces leave fewer braces in it. -/
theorem count_fillImages_lt [TableOrders] (plain : ∀ request state, Plain (resolve request state).1)
    (pictured : entity.kind ≠ .season) (depth : PageDepth) (some : ImageToken.all text ≠ [])
    (state : σ) :
    (fillImages resolve entity depth text state).1.count '\x7b' < text.count '\x7b' := by
  rcases asks_mapM_ask plain entity depth (ImageToken.nodup_texts_distinct (ImageToken.all text))
    state [] with ⟨_, _, _, texts, answers⟩
  rw [fillImages_eq_mapM resolve pictured]
  change (replaceEach ((TableOrders.order entity.kind entity.id).list
    ((ImageToken.distinct (ImageToken.all text)).mapM (ask resolve entity depth) state).1)
      text).count '\x7b' < _
  have listed := (TableOrders.order entity.kind entity.id).perm
    ((ImageToken.distinct (ImageToken.all text)).mapM (ask resolve entity depth) state).1
  have texts := (listed.map Prod.fst).trans (List.Perm.of_eq texts)
  have answers := fun item member => answers item (listed.mem_iff.mp member)
  generalize (TableOrders.order entity.kind entity.id).list _ = found at texts answers ⊢
  have stands : ∀ item ∈ found, item.1 <:+: text ∧ '\x7b' ∈ item.1 := by
    intro item member
    have inTexts := texts.mem_iff.mp (List.mem_map_of_mem member)
    rcases List.mem_map.mp inTexts with ⟨token, inDistinct, same⟩
    rw [← same]
    exact ImageToken.text_infix_of_mem_all (ImageToken.mem_of_mem_distinct inDistinct)
  cases found with
  | nil =>
      rcases List.exists_mem_of_ne_nil _ some with ⟨token, member⟩
      cases texts.mem_iff.mpr (ImageToken.mem_texts_distinct member)
  | cons item found =>
      rcases List.forall_mem_cons.mp stands with ⟨⟨occurs, opens⟩, restStands⟩
      rcases List.forall_mem_cons.mp answers with ⟨itemPlain, restPlain⟩
      have nonempty : ∀ other ∈ found, other.1 ≠ [] := fun other member =>
        List.ne_nil_of_mem (restStands other member).2
      exact (count_replaceEach_le nonempty restPlain _).trans_lt
        (Text.count_replaceAll_lt opens itemPlain occurs)

/-- A page without seasons is filled once, and then its images are. -/
theorem draw_of_no_seasons [TableOrders] (single : entity.kind ≠ .tvShow) (resolve : Resolver σ)
    (mode : BlockMatch) (depth : PageDepth) (template : Text) :
    draw resolve mode depth template entity =
      fillImages resolve entity depth (withLists mode template entity) := by
  cases entity with
  | tvShow item => exact absurd rfl single
  | movie record => rfl
  | season item number => rfl
  | episode item record => rfl
  | concert record => rfl

end Page

/-! ## The check -/

namespace Pack

variable {σ : Type} {pack : Pack} {part : Section} {entity : Entity} {name : Text}

theorem mem_unknown_iff {finding : Finding} (checked : finding ∈ pack.check)
    (kind : kinds finding.part = [entity.kind]) :
    name ∈ finding.unknown ↔ name ∈ Token.remaining (pack.template finding.part) ∧
      name ∉ entity.kind.fieldNames ∧ name ∉ listItemNames := by
  rcases List.mem_map.mp checked with ⟨part, _, rfl⟩
  rw [unknownNames, mem_ascending, List.mem_filter, knownNames, kind]
  simp

/-- What is reported about a template that a page can show is what the filled page has
before its pictures. -/
theorem mem_remaining_withLists_iff {finding : Finding} (checked : finding ∈ pack.check)
    (kind : kinds finding.part = [entity.kind]) (plain : entity.PlainVerbatim)
    {parts : List TemplatePart} (suits : TemplatePart.Suits entity.kind parts)
    (template : pack.template finding.part = TemplatePart.join parts) (mode : BlockMatch) :
    name ∈ Token.remaining (Page.withLists mode (pack.template finding.part) entity) ↔
      name ∈ finding.unknown ∧ name ∈ parts.flatMap (TemplatePart.shown entity) := by
  rw [mem_unknown_iff checked kind, template, TemplatePart.mem_remaining_withLists plain suits]
  constructor
  · rintro ⟨isShown, unknown⟩
    exact ⟨⟨TemplatePart.mem_remaining_of_mem_shown suits isShown, unknown⟩, isShown⟩
  · rintro ⟨⟨_, unknown⟩, isShown⟩
    exact ⟨isShown, unknown⟩

/-- No image token is found where no reported name begins like one. -/
theorem all_withLists_of_no_image_name {finding : Finding} (checked : finding ∈ pack.check)
    (kind : kinds finding.part = [entity.kind]) (plain : entity.PlainVerbatim)
    {parts : List TemplatePart} (suits : TemplatePart.Suits entity.kind parts)
    (template : pack.template finding.part = TemplatePart.join parts) (mode : BlockMatch)
    (noImage : ∀ name ∈ finding.unknown, ¬ ImageToken.nameStart <+: name) :
    ImageToken.all (Page.withLists mode (pack.template finding.part) entity) = [] := by
  have reported (name : Text)
      (member : name ∈ Token.remaining (Page.withLists mode (pack.template finding.part) entity)) :
      ¬ ImageToken.nameStart <+: name :=
    noImage name ((mem_remaining_withLists_iff checked kind plain suits template mode).mp member).1
  rw [template] at reported ⊢
  apply ImageToken.all_of_no_image_name (TemplatePart.carries_withLists plain suits mode)
  rwa [TemplatePart.remaining_withLists plain suits mode] at reported

/-- The kinds that a section has alone hold no other entities. -/
theorem single_of_kinds (part : Section) (kind : Kind) (alone : kinds part = [kind]) :
    kind ≠ .tvShow ∧ kind ≠ .season := by
  revert alone
  cases part <;> cases kind <;> decide

/-- The check of a pack foretells which names a page leaves, unless an image token is found
in the page; then the page has fewer tokens left if paths have no braces.  A template about
which nothing is reported leaves no name. -/
theorem check_foretells_remaining [TableOrders] {finding : Finding} (checked : finding ∈ pack.check)
    (kind : kinds finding.part = [entity.kind]) (plain : entity.PlainVerbatim)
    {parts : List TemplatePart} (suits : TemplatePart.Suits entity.kind parts)
    (template : pack.template finding.part = TemplatePart.join parts) (resolve : Resolver σ)
    (mode : BlockMatch) (depth : PageDepth) (state : σ) :
    ∃ page done,
      (Page.render resolve mode depth (pack.template finding.part) entity).run state =
        (.ok page, done) ∧
      (ImageToken.all (Page.withLists mode (pack.template finding.part) entity) = [] →
        done = state ∧ ∀ name, name ∈ Token.remaining page ↔
          name ∈ finding.unknown ∧ name ∈ parts.flatMap (TemplatePart.shown entity)) ∧
      ((∀ name ∈ finding.unknown, ¬ ImageToken.nameStart <+: name) →
        ImageToken.all (Page.withLists mode (pack.template finding.part) entity) = []) ∧
      (finding.unknown = [] → Token.remaining page = []) ∧
      ((∀ request state, Plain (resolve request state).1) →
        ImageToken.all (Page.withLists mode (pack.template finding.part) entity) ≠ [] →
          (Token.remaining page).length <
            (Token.remaining (Page.withLists mode (pack.template finding.part) entity)).length) := by
  rcases single_of_kinds finding.part entity.kind kind with ⟨noSeasons, pictured⟩
  have noToken := all_withLists_of_no_image_name checked kind plain suits template mode
  have drawn := Page.draw_of_no_seasons noSeasons resolve mode depth (pack.template finding.part)
  have exact_ (none : ImageToken.all (Page.withLists mode (pack.template finding.part) entity) = []) :
      Page.draw resolve mode depth (pack.template finding.part) entity state =
        (Page.withLists mode (pack.template finding.part) entity, state) := by
    rw [drawn, Page.fillImages_of_no_token none]
    rfl
  refine ⟨_, _, Page.run_render resolve mode depth (pack.template finding.part) entity state, ?_,
    noToken, ?_, ?_⟩
  · intro none
    rw [exact_ none]
    exact ⟨rfl, fun name => mem_remaining_withLists_iff checked kind plain suits template mode⟩
  · intro clean
    have none := noToken fun name member => by rw [clean] at member; cases member
    rw [exact_ none]
    apply List.eq_nil_iff_forall_not_mem.mpr
    intro name member
    have reported :=
      ((mem_remaining_withLists_iff checked kind plain suits template mode).mp member).1
    rw [clean] at reported
    cases reported
  · intro answersPlain some
    have fewer := Page.count_fillImages_lt answersPlain pictured depth some state
    rw [drawn]
    rw [template] at fewer ⊢
    have carries := TemplatePart.carries_withLists plain suits mode
    exact carries.length_remaining_lt (fun name member => (TemplatePart.spec_of_mem_carried suits
      member).1) (fun name member => (TemplatePart.spec_of_mem_carried suits member).2) fewer

/-- A template with a name that no movie has, on its own and in two blocks. -/
def sketch : List TemplatePart :=
  [.alone (.token "MOVIE.TITLE"), .alone (.text "\n"), .alone (.token "MOVIE.TAGLINES"),
    .repeated "TAGS" [.token "TAG.NAME", .text ": ", .token "TAG.COLOR"],
    .repeated "GENRES" [.token "GENRE.NAME", .token "GENRE.COLOR"]]

def sketchPack : Pack :=
  { root := ⟨"pack"⟩, manifest := {}, templates := [(.movie, TemplatePart.join sketch)] }

def sketchFinding : Finding :=
  ⟨.movie, true, ["GENRE.COLOR", "MOVIE.TAGLINES", "TAG.COLOR"]⟩

/-- A movie with tags and without genres. -/
def taggedMovie : Movie :=
  { title := "\x7b\x7b MOVIE.TAGLINES \x7d\x7d", tags := ["a", "b"] }

theorem taggedMovie_plain : (Entity.movie taggedMovie).PlainVerbatim := by
  refine ⟨(by decide : Plain taggedMovie.imdbId), (by decide : Plain taggedMovie.tmdbId), ?_⟩
  exact ⟨nofun, nofun, nofun⟩

theorem check_foretells_sketch :
    sketchFinding ∈ sketchPack.check ∧ kinds .movie = [.movie] ∧
      (Entity.movie taggedMovie).PlainVerbatim ∧ TemplatePart.Suits .movie sketch ∧
      sketchPack.template .movie = TemplatePart.join sketch ∧
      ∃ page, (Page.render (fun _ count => ("poster.jpg", count + 1)) .last .item
          (sketchPack.template .movie) (.movie taggedMovie)).run 0 = (.ok page, 0) ∧
        ∀ name, name ∈ Token.remaining page ↔
          name ∈ sketchFinding.unknown ∧
            name ∈ sketch.flatMap (TemplatePart.shown (.movie taggedMovie)) := by
  have checked : sketchFinding ∈ sketchPack.check := by decide +kernel
  have suits : TemplatePart.Suits .movie sketch := ⟨by decide +kernel, by decide +kernel⟩
  have noImage : ∀ name ∈ sketchFinding.unknown, ¬ ImageToken.nameStart <+: name := by decide
  rcases check_foretells_remaining checked rfl taggedMovie_plain suits rfl
    (fun _ count => ("poster.jpg", count + 1)) .last .item 0 with
    ⟨page, done, rendered, foretold, noToken, _, _⟩
  rcases foretold (noToken noImage) with ⟨rfl, left⟩
  exact ⟨checked, rfl, taggedMovie_plain, suits, rfl, page, rendered, left⟩

/-- The name of an image without a box, and behind it a text that ends in one. -/
def unboxed : List TemplatePart :=
  [.alone (.token "IMAGE.A"), .alone (.text " [3,4] \x7d\x7d")]

def unboxedPack : Pack :=
  { root := ⟨"pack"⟩, manifest := {}, templates := [(.movie, TemplatePart.join unboxed)] }

/-- The check reports a name that stands outside of all blocks, but the page has no names:
the text behind the name makes an image token of it. -/
theorem unboxed_not_foretold :
    TemplatePart.Suits .movie unboxed ∧ (Entity.movie {}).PlainVerbatim ∧
      unboxedPack.template .movie = TemplatePart.join unboxed ∧
      ⟨.movie, true, ["IMAGE.A"]⟩ ∈ unboxedPack.check ∧
      "IMAGE.A".toList ∈ unboxed.flatMap (TemplatePart.shown (.movie {})) ∧
      ∃ page, (Page.render (fun _ _ => ("a.jpg", ())) .first .item (unboxedPack.template .movie)
        (.movie {})).run () = (.ok page, ()) ∧ Token.remaining page = [] := by
  have details : ({} : Movie).streamDetails.PlainValues := ⟨nofun, nofun, nofun⟩
  refine ⟨⟨by decide +kernel, by decide +kernel⟩,
    ⟨(by decide : Plain ({} : Movie).imdbId), (by decide : Plain ({} : Movie).tmdbId), details⟩,
    rfl, by decide +kernel, by decide +kernel, _, Page.run_render _ _ _ _ _ _, ?_⟩
  decide +kernel

end Pack
end MediaSite
