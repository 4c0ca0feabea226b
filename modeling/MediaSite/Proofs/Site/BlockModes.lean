import MediaSite.Proofs.Site.Lockstep
import MediaSite.Proofs.Site.ShowPictures
import MediaSite.Proofs.Site.Substitution
import MediaSite.Proofs.Template.Markers

namespace MediaSite

/-!
# Pages that are the same in both modes

The two ways to match differ in which block they take and in what they replace.  A
template is `Unambiguous` if no block name is opened twice and no marker stands
inside of a block of values.  This is an invariant of all passes over the template,
in the text of the show as well as in the inner text of a season and of an episode
(`Page.carries_renderFields`, `Page.withLists_modes`); and as long as it holds, both
modes do the same in each of them.  So both give the same page, and ask the resolver
for the same pictures in the same order.
-/

open scoped Text
open Text (Plain Carries)

/-- No brace opens in the texts shown as they are, for a show those of its episodes
included. -/
def Entity.PlainThroughout : Entity → Prop
  | .tvShow item => (Entity.tvShow item).PlainVerbatim ∧
      ∀ episode ∈ item.presentEpisodes, (Entity.episode item episode).PlainVerbatim
  | entity => entity.PlainVerbatim

theorem Entity.PlainThroughout.plainVerbatim {entity : Entity} (plain : entity.PlainThroughout) :
    entity.PlainVerbatim := by
  cases entity with
  | tvShow item => exact plain.1
  | movie record => exact plain
  | season item number => exact plain
  | episode item record => exact plain
  | concert record => exact plain

theorem TvShow.mem_presentEpisodes {item : TvShow} {season : UInt16} {episode : Episode}
    (member : episode ∈ item.episodesIn season) : episode ∈ item.presentEpisodes :=
  (List.mem_filter.mp (List.mem_mergeSort.mp member)).1

namespace Page

/-- Every block of a text with these names can be taken in one way only. -/
structure Unambiguous (names : List Text) : Prop where
  once : Block.OpenedOnce names
  flat : ∀ block ∈ listBlockNames, Block.Flat block names

instance (names : List Text) : Decidable (Unambiguous names) :=
  decidable_of_iff (Block.OpenedOnce names ∧ ∀ block ∈ listBlockNames, Block.Flat block names)
    ⟨fun both => ⟨both.1, both.2⟩, fun unambiguous => ⟨unambiguous.once, unambiguous.flat⟩⟩

theorem Unambiguous.of_part {names part : List Text} (unambiguous : Unambiguous names)
    (sub : part <:+: names) : Unambiguous part :=
  ⟨unambiguous.once.of_sublist sub.sublist,
    fun block known => (unambiguous.flat block known).of_part sub⟩

/-- The markers around seasons and episodes. -/
def nestingMarkers : List Text :=
  [Block.openingName "SEASON", Block.openingName "EPISODE",
    Block.closingName "EPISODE", Block.closingName "SEASON"]

/-- The markers around seasons and episodes among names. -/
def nesting (names : List Text) : List Text :=
  names.filter (nestingMarkers.contains ·)

/-- What a step makes of the names: they are still unambiguous, and the markers around
seasons and episodes are where they were. -/
structure Preserved (names kept : List Text) : Prop where
  unambiguous : Unambiguous kept
  nesting_eq : nesting kept = nesting names

theorem Preserved.trans {first second third : List Text} (early : Preserved first second)
    (late : Preserved second third) : Preserved first third :=
  ⟨late.unambiguous, late.nesting_eq.trans early.nesting_eq⟩

theorem isMarker_of_nesting {name : Text} (nests : nestingMarkers.contains name = true) :
    Block.isMarker name = true := by
  have all : ∀ marker ∈ nestingMarkers, Block.isMarker marker = true := by decide
  exact all name (List.contains_iff_mem.mp nests)

theorem isMarker_fieldName (kind : Kind) :
    ∀ name ∈ kind.fieldNames, Block.isMarker name = false := by
  cases kind <;> decide +kernel

variable {text : Text} {names : List Text} {entity : Entity}

/-! ## Fields -/

/-- Filling in fields takes no marker away. -/
theorem carries_renderFields (plain : entity.PlainVerbatim) (carries : Carries text names)
    (unambiguous : Unambiguous names) :
    ∃ kept, Carries (renderFields text entity) kept ∧ Preserved names kept := by
  refine ⟨_, carries.fillTokens entity.braceFree_fields plain.plain_fields, ⟨?_, ?_⟩, ?_⟩
  all_goals rw [entity.map_fst_fields]
  all_goals
    have keeps (name : Text) (marker : Block.isMarker name = true) :
        (!entity.kind.fieldNames.contains name) = true := by
      rw [Bool.not_eq_true', Bool.eq_false_iff]
      intro isField
      have noMarker := isMarker_fieldName entity.kind name (List.contains_iff_mem.mp isField)
      rw [marker] at noMarker
      cases noMarker
  · exact unambiguous.once.of_sublist List.filter_sublist
  · exact fun block known => (unambiguous.flat block known).filter keeps
  · rw [nesting, List.filter_filter]
    apply List.filter_congr
    intro name _
    cases nests : nestingMarkers.contains name with
    | false => rfl
    | true => rw [keeps name (isMarker_of_nesting nests)]; rfl

/-! ## Blocks of values -/

/-- Repeating a block of values is the same in both modes. -/
theorem withColumns_modes (carries : Carries text names) (unambiguous : Unambiguous names)
    {block : Text} (known : block ∈ listBlockNames) {items : List Text}
    (itemsFree : ∀ item ∈ items, Token.BraceFree item) (columns : List (List Text)) :
    ∃ result kept, (∀ mode, Block.withColumns mode block items columns text = result) ∧
      Carries result kept ∧ Preserved names kept := by
  have free : ∀ block ∈ listBlockNames, Token.BraceFree block := by decide
  have apart : ∀ block ∈ listBlockNames,
      nestingMarkers.contains (Block.openingName block) = false ∧
        nestingMarkers.contains (Block.closingName block) = false := by decide +kernel
  rcases Block.withColumns_expands (free block known) carries unambiguous.once
    (unambiguous.flat block known) itemsFree columns with ⟨result, kept, same, keptCarries, expands⟩
  refine ⟨result, kept, same, keptCarries,
    ⟨expands.openedOnce unambiguous.once, fun other inList => expands.flat
      (unambiguous.flat other inList)⟩, ?_⟩
  exact expands.filter_eq (fun _ => isMarker_of_nesting) (apart block known).1 (apart block known).2

theorem foldl_withColumns_modes {lists : List ListBlock}
    (known : ∀ list ∈ lists, list.block ∈ listBlockNames ∧ Token.BraceFree list.item)
    (carries : Carries text names) (unambiguous : Unambiguous names) :
    ∃ result kept,
      (∀ mode, lists.foldl (fun text list =>
        Block.withColumns mode list.block [list.item] [list.values] text) text = result) ∧
      Carries result kept ∧ Preserved names kept := by
  induction lists generalizing text names with
  | nil => exact ⟨text, names, fun _ => rfl, carries, unambiguous, rfl⟩
  | cons list lists inductionHypothesis =>
      rcases List.forall_mem_cons.mp known with ⟨⟨inNames, free⟩, later⟩
      have itemsFree : ∀ item ∈ [list.item], Token.BraceFree item :=
        fun item member => List.mem_singleton.mp member ▸ free
      rcases withColumns_modes carries unambiguous inNames itemsFree [list.values] with
        ⟨middle, middleNames, same, middleCarries, early⟩
      rcases inductionHypothesis later middleCarries early.unambiguous with
        ⟨result, kept, rest, keptCarries, late⟩
      refine ⟨result, kept, fun mode => ?_, keptCarries, early.trans late⟩
      rw [List.foldl_cons, same]
      exact rest mode

/-- Fields and blocks of values give the same text in both modes. -/
theorem withLists_modes (plain : entity.PlainVerbatim) (carries : Carries text names)
    (unambiguous : Unambiguous names) :
    ∃ result kept, (∀ mode, withLists mode text entity = result) ∧ Carries result kept ∧
      Preserved names kept := by
  have known : ∀ list ∈ entity.listBlocks,
      list.block ∈ listBlockNames ∧ Token.BraceFree list.item := by
    cases entity <;> simp only [Entity.listBlocks, List.forall_mem_cons] <;> decide
  rcases carries_renderFields plain carries unambiguous with ⟨filled, filledCarries, first⟩
  rcases foldl_withColumns_modes known filledCarries first.unambiguous with
    ⟨result, kept, same, keptCarries, second⟩
  simp only [withLists, same]
  cases entity.actors? with
  | none => exact ⟨result, kept, fun _ => rfl, keptCarries, first.trans second⟩
  | some actors =>
      have cast : ("ACTORS" : Text) ∈ listBlockNames := by decide
      have itemsFree : ∀ item ∈ (["ACTOR.NAME", "ACTOR.ROLE"] : List Text), Token.BraceFree item := by
        decide
      rcases withColumns_modes keptCarries second.unambiguous cast itemsFree
        [actors.map (·.name), actors.map (·.role)] with ⟨page, last, all, lastCarries, third⟩
      exact ⟨page, last, all, lastCarries, (first.trans second).trans third⟩

/-! ## Seasons and episodes -/

variable {σ : Type} {resolve : Resolver σ} {depth : PageDepth}

theorem drawSingle_modes [TableOrders] (plain : entity.PlainVerbatim) (carries : Carries text names)
    (unambiguous : Unambiguous names) :
    drawSingle resolve .first depth text entity = drawSingle resolve .last depth text entity := by
  rcases withLists_modes plain carries unambiguous with ⟨result, _, same, _, _⟩
  rw [drawSingle, drawSingle, same, same]

theorem drawSeasons_modes [TableOrders] {item : TvShow}
    (plain : (Entity.tvShow item).PlainThroughout)
    (carries : Carries text names) (unambiguous : Unambiguous names) :
    drawSeasons resolve .first depth item text = drawSeasons resolve .last depth item text := by
  apply Block.withItems_modes (by decide) carries unambiguous.once fun mode inner season =>
    Block.withItems mode "EPISODE" (item.episodesIn season)
      (fun inner episode => drawSingle resolve mode depth inner (.episode item episode))
      (renderFields inner (.season item season))
  intro inner inside sub innerCarries season _
  have seasonPlain : (Entity.season item season).PlainVerbatim := trivial
  rcases carries_renderFields seasonPlain innerCarries
    (unambiguous.of_part sub) with ⟨kept, keptCarries, preserved⟩
  apply Block.withItems_modes (by decide) keptCarries preserved.unambiguous.once
    fun mode inner episode => drawSingle resolve mode depth inner (.episode item episode)
  intro body enclosed within bodyCarries episode member
  exact drawSingle_modes (plain.2 episode (TvShow.mem_presentEpisodes member)) bodyCarries
    (preserved.unambiguous.of_part within)

/-- A page is drawn in the same way in both modes. -/
theorem draw_modes [TableOrders] (plain : entity.PlainThroughout) (carries : Carries text names)
    (unambiguous : Unambiguous names) (mode : BlockMatch) :
    draw resolve mode depth text entity = draw resolve .first depth text entity := by
  cases mode with
  | first => rfl
  | last =>
      have body : drawBody resolve .last depth text entity =
          drawBody resolve .first depth text entity := by
        rcases withLists_modes plain.plainVerbatim carries unambiguous with
          ⟨result, kept, same, keptCarries, preserved⟩
        cases entity with
        | tvShow item =>
            rw [drawBody, drawBody, same, same]
            exact (drawSeasons_modes plain keptCarries preserved.unambiguous).symm
        | movie record => exact congrArg pure ((same .last).trans (same .first).symm)
        | season item number => exact congrArg pure ((same .last).trans (same .first).symm)
        | episode item record => exact congrArg pure ((same .last).trans (same .first).symm)
        | concert record => exact congrArg pure ((same .last).trans (same .first).symm)
      rw [draw, draw, body]

/-- For a template whose blocks are unambiguous, both ways to match give the same page
and ask the resolver for the same pictures in the same order. -/
theorem render_modes [TableOrders] (resolve : Resolver σ) (depth : PageDepth)
    (plain : entity.PlainThroughout)
    {pieces : List TemplatePiece} (tidy : ∀ piece ∈ pieces, piece.Tidy)
    (unambiguous : Unambiguous (TemplatePiece.names pieces)) (state : σ) :
    ∃ page done log, ∀ mode,
      (render resolve mode depth (TemplatePiece.join pieces) entity).run state =
          (.ok page, done) ∧
        (render resolve.logged mode depth (TemplatePiece.join pieces) entity).run (state, []) =
          (.ok page, (done, log)) := by
  have carries : Carries (TemplatePiece.join pieces) (TemplatePiece.names pieces) :=
    ⟨pieces, tidy, rfl, rfl⟩
  have logged := draw_logged resolve .first depth (TemplatePiece.join pieces) entity state []
  rcases drawn : draw resolve .first depth (TemplatePiece.join pieces) entity state with ⟨page, done⟩
  rcases noted : draw resolve.logged .first depth (TemplatePiece.join pieces) entity (state, [])
    with ⟨samePage, sameDone, log⟩
  rw [drawn, noted] at logged
  rcases logged with ⟨rfl, rfl⟩
  refine ⟨samePage, sameDone, log, fun mode => ⟨?_, ?_⟩⟩
  · rw [run_render, draw_modes plain carries unambiguous mode, drawn]
  · rw [run_render, draw_modes plain carries unambiguous mode, noted]

/-- A block of values, and a block of episodes inside of one of seasons. -/
def nestedPieces : List TemplatePiece :=
  [.token "TVSHOW.TITLE", .token "BEGIN_BLOCK_TAGS", .token "TAG.NAME", .token "END_BLOCK_TAGS",
    .token "BEGIN_BLOCK_SEASON", .text "\n", .token "BEGIN_BLOCK_EPISODE", .token "EPISODE.TITLE",
    .token "IMAGE.poster[3,4]", .token "END_BLOCK_EPISODE", .token "END_BLOCK_SEASON"]

/-- A show whose texts are written like markers where they are escaped. -/
def taggedShow : TvShow :=
  { id := 7, title := "\x7b\x7b BEGIN_BLOCK_TAGS \x7d\x7d", imdbId := "tt7", tags := ["a", "b"],
    episodes := [{ id := 1, title := "Pilot", number := 1 }, { id := 2, number := 2 }] }

theorem render_modes_nested :
    (Entity.tvShow taggedShow).PlainThroughout ∧ (∀ piece ∈ nestedPieces, piece.Tidy) ∧
      Unambiguous (TemplatePiece.names nestedPieces) ∧ ∃ page done log, ∀ mode,
        (render (fun _ count => ("poster.jpg", count + 1)) mode .root
            (TemplatePiece.join nestedPieces) (.tvShow taggedShow)).run 0 = (.ok page, done) ∧
          (render (Resolver.logged fun _ count => ("poster.jpg", count + 1)) mode .root
            (TemplatePiece.join nestedPieces) (.tvShow taggedShow)).run (0, []) =
              (.ok page, (done, log)) := by
  have plain : (Entity.tvShow taggedShow).PlainThroughout := by
    refine ⟨(by decide : Plain taggedShow.imdbId), ?_⟩
    have details : ∀ episode ∈ taggedShow.episodes, episode.streamDetails.PlainValues := by
      simp only [taggedShow, List.forall_mem_cons]
      exact ⟨⟨nofun, nofun, nofun⟩, ⟨nofun, nofun, nofun⟩, List.forall_mem_nil _⟩
    exact fun episode member => details episode (List.mem_filter.mp member).1
  have tidy : ∀ piece ∈ nestedPieces, piece.Tidy := by decide
  have unambiguous : Unambiguous (TemplatePiece.names nestedPieces) := by decide
  exact ⟨plain, tidy, unambiguous,
    render_modes (fun _ count => ("poster.jpg", count + 1)) .root plain tidy unambiguous 0⟩

end Page
end MediaSite
