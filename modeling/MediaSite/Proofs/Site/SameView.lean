import MediaSite.Proofs.Library.Arrangement
import MediaSite.Proofs.Site.Rendering
import MediaSite.Site.Artwork

namespace MediaSite

/-!
# Entities that are seen the same

A page reads a show as a record and through its seasons and their episodes in
order, and in no other way.  So shows that agree in these are drawn the same,
and so are their seasons and episodes, provided that the resolver does not look
at the show behind its back: of the entity in a request it may see the kind, the
id and the pictures only, as artwork does (`Artwork.superficial_resolver`).
-/

open scoped Text

/-- The same entity, of shows that are seen the same. -/
inductive Entity.SameView : Entity → Entity → Prop where
  | movie (record : Movie) : SameView (.movie record) (.movie record)
  | tvShow {first second : TvShow} (same : first.SameView second) :
    SameView (.tvShow first) (.tvShow second)
  | season {first second : TvShow} (same : first.SameView second) (number : UInt16) :
    SameView (.season first number) (.season second number)
  | episode {first second : TvShow} (same : first.SameView second) (record : Episode) :
    SameView (.episode first record) (.episode second record)
  | concert (record : Concert) : SameView (.concert record) (.concert record)

namespace Entity.SameView

variable {first second : Entity}

theorem kind (same : first.SameView second) : first.kind = second.kind := by
  cases same <;> rfl

theorem id (same : first.SameView second) : first.id = second.id := by
  cases same with
  | tvShow same => exact TvShow.read_eq_of_record same.record TvShow.id fun _ => rfl
  | season same number => exact TvShow.read_eq_of_record same.record TvShow.id fun _ => rfl
  | movie record => rfl
  | episode same record => rfl
  | concert record => rfl

theorem title (same : first.SameView second) : first.title = second.title := by
  cases same with
  | tvShow same => exact TvShow.read_eq_of_record same.record TvShow.title fun _ => rfl
  | season same number => exact TvShow.read_eq_of_record same.record TvShow.title fun _ => rfl
  | movie record => rfl
  | episode same record => rfl
  | concert record => rfl

theorem images (same : first.SameView second) : first.images = second.images := by
  cases same with
  | tvShow same => exact TvShow.read_eq_of_record same.record TvShow.images fun _ => rfl
  | season same number => rfl
  | movie record => rfl
  | episode same record => rfl
  | concert record => rfl

theorem fields (same : first.SameView second) : first.fields = second.fields := by
  cases same with
  | tvShow same =>
      exact TvShow.read_eq_of_record same.record (bindFields TvShow.fields) fun _ => rfl
  | episode same record =>
      have ofShow := TvShow.read_eq_of_record same.record (bindFields TvShow.episodeFields)
        fun _ => rfl
      simp only [Entity.fields, ofShow]
  | movie record => rfl
  | season same number => rfl
  | concert record => rfl

theorem listBlocks (same : first.SameView second) : first.listBlocks = second.listBlocks := by
  cases same with
  | tvShow same =>
      exact TvShow.read_eq_of_record same.record (fun item => (Entity.tvShow item).listBlocks)
        fun _ => rfl
  | movie record => rfl
  | season same number => rfl
  | episode same record => rfl
  | concert record => rfl

theorem actors? (same : first.SameView second) : first.actors? = second.actors? := by
  cases same with
  | tvShow same =>
      exact TvShow.read_eq_of_record same.record (fun item => (Entity.tvShow item).actors?)
        fun _ => rfl
  | movie record => rfl
  | season same number => rfl
  | episode same record => rfl
  | concert record => rfl

end Entity.SameView

/-! ## Resolvers that see the outside of an entity -/

/-- Sees nothing of an entity but its kind, its id and its pictures. -/
def Resolver.Superficial {σ : Type} (resolve : Resolver σ) : Prop :=
  ∀ first second : Entity, first.kind = second.kind → first.id = second.id →
    first.images = second.images → ∀ role width height,
      resolve ⟨first, role, width, height⟩ = resolve ⟨second, role, width, height⟩

/-- Artwork is made and remembered by kind, id and pictures. -/
theorem Artwork.superficial_resolver {σ : Type} (setup : ArtworkSetup σ) :
    (resolver setup).Superficial := by
  intro first second kind id images role width height
  have located (tree : FileTree) (role : ImageRole) :
      locate tree first role = locate tree second role := by
    rw [locate, locate, images]
  have made (directory : Text) (role : ImageRole) :
      make setup first directory role width height =
        make setup second directory role width height := by
    simp only [make, located, id]
  simp only [resolver, kind, id, made]

namespace Page

variable {σ : Type} {resolve : Resolver σ} {first second : Entity}

theorem renderFields_sameView (same : first.SameView second) (template : Text) :
    renderFields template first = renderFields template second := by
  rw [renderFields, renderFields, same.fields]

theorem withLists_sameView (same : first.SameView second) (mode : BlockMatch) (template : Text) :
    withLists mode template first = withLists mode template second := by
  simp only [withLists, same.listBlocks, same.actors?, renderFields_sameView same]

theorem resolveTokens_sameView (superficial : resolve.Superficial)
    (same : first.SameView second) (depth : PageDepth) (found : List (Text × Text))
    (tokens : List ImageToken) :
    resolveTokens resolve first depth found tokens =
      resolveTokens resolve second depth found tokens := by
  induction tokens generalizing found with
  | nil => rfl
  | cons token tokens inductionHypothesis =>
      simp only [resolveTokens, inductionHypothesis,
        superficial first second same.kind same.id same.images]

theorem fillImages_sameView [TableOrders] (superficial : resolve.Superficial)
    (same : first.SameView second) (depth : PageDepth) (text : Text) :
    fillImages resolve first depth text = fillImages resolve second depth text := by
  have resolved := resolveTokens_sameView superficial same depth [] (ImageToken.all text)
  have kind := same.kind
  have id := same.id
  cases same with
  | season same number => rfl
  | tvShow same => simp only [fillImages, resolved, kind, id]
  | episode same record => simp only [fillImages, resolved, kind, id]
  | movie record => rfl
  | concert record => rfl

theorem drawSingle_sameView [TableOrders] (superficial : resolve.Superficial)
    (same : first.SameView second) (mode : BlockMatch) (depth : PageDepth) (template : Text) :
    drawSingle resolve mode depth template first =
      drawSingle resolve mode depth template second := by
  rw [drawSingle, drawSingle, withLists_sameView same, fillImages_sameView superficial same]

theorem drawSeasons_sameView [TableOrders] (superficial : resolve.Superficial)
    {first second : TvShow}
    (same : first.SameView second) (mode : BlockMatch) (depth : PageDepth) (text : Text) :
    drawSeasons resolve mode depth first text = drawSeasons resolve mode depth second text := by
  have season (inner : Text) (number : UInt16) :
      renderFields inner (.season first number) = renderFields inner (.season second number) :=
    renderFields_sameView (.season same number) inner
  have episode (inner : Text) (record : Episode) :
      drawSingle resolve mode depth inner (.episode first record) =
        drawSingle resolve mode depth inner (.episode second record) :=
    drawSingle_sameView superficial (.episode same record) mode depth inner
  simp only [drawSeasons, same.seasons, same.episodesIn, season, episode]

/-- Entities that are seen the same have the same page, from every state. -/
theorem draw_sameView [TableOrders] (superficial : resolve.Superficial)
    (same : first.SameView second) (mode : BlockMatch) (depth : PageDepth) (template : Text) :
    draw resolve mode depth template first = draw resolve mode depth template second := by
  have body : drawBody resolve mode depth template first =
      drawBody resolve mode depth template second := by
    have lists := withLists_sameView same mode template
    cases same with
    | tvShow same => simp only [drawBody, lists, drawSeasons_sameView superficial same]
    | season same number => simp only [drawBody, lists]
    | episode same record => simp only [drawBody, lists]
    | movie record => rfl
    | concert record => rfl
  have images : fillImages resolve first depth = fillImages resolve second depth :=
    funext (fillImages_sameView superficial same depth)
  rw [draw, draw, body, images]

end Page
end MediaSite
