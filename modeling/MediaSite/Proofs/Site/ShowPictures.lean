import MediaSite.Proofs.Library.Episodes
import MediaSite.Proofs.Site.PlainValues
import MediaSite.Proofs.Site.Requests
import MediaSite.Proofs.Template.MarkedBlock
import MediaSite.Proofs.Template.Pictures

namespace MediaSite

/-!
# The pictures of a show

An image token belongs to the innermost entity around it.  Inside the block of
episodes it is resolved for each episode, and the text that comes out of that is
plain; so when the images of the show are looked for, only the tokens outside of
that block are left, those of the block of seasons once per season.
-/

open scoped Text
open Text (Plain Carries)

namespace PicturePiece

/-- What the pictures among pieces ask for: each one that is written differently
from those before it. -/
def requests (entity : Entity) (pieces : List PicturePiece) : List ImageRequest :=
  (ImageToken.distinct ((pictures pieces).map ImageToken.Written.token)).map
    (ImageToken.request entity)

/-- Pieces that come again ask for nothing more. -/
theorem requests_replicate (entity : Entity) (first again last : List PicturePiece) (count : Nat) :
    requests entity (first ++ (List.replicate count again).flatten ++ last) =
      requests entity (first ++ (if count = 0 then [] else again) ++ last) := by
  have tokens (parts : List (List PicturePiece)) :
      (pictures parts.flatten).map ImageToken.Written.token =
        (parts.map fun part => (pictures part).map ImageToken.Written.token).flatten := by
    rw [pictures, List.filterMap_flatten, List.map_flatten, List.map_map]
    rfl
  have repeated : ImageToken.distinct
      ((pictures (List.replicate count again).flatten).map ImageToken.Written.token) =
        ImageToken.distinct
          ((pictures (if count = 0 then [] else again)).map ImageToken.Written.token) := by
    rw [tokens, List.map_replicate, ImageToken.distinct_flatten_replicate]
    split <;> rfl
  simp only [requests, pictures, List.filterMap_append, List.map_append] at repeated ⊢
  rw [ImageToken.distinct_congr repeated]

end PicturePiece

/-! ## What fields and lists leave alone -/

namespace Page

/-- The blocks of values that entities have, and the block of the cast. -/
def listBlockNames : List Text :=
  ["TAGS", "GENRES", "COUNTRIES", "STUDIOS", "WRITERS", "DIRECTORS", "ACTORS"]

/-- Neither the name of a field nor of the marker that opens a block of values. -/
def Unused (name : Text) : Prop :=
  (∀ kind : Kind, name ∉ kind.fieldNames) ∧
    ∀ block ∈ listBlockNames, Block.openingName block ≠ name

theorem unused_body (written : ImageToken.Written) : Unused written.body := by
  have head : written.body.head? = some 'I' := rfl
  constructor
  · intro kind member
    have noField : ∀ name ∈ kind.fieldNames, name.head? ≠ some 'I' := by
      cases kind <;> decide +kernel
    exact noField written.body member head
  · intro block _ same
    have other : (Block.openingName block).head? = some 'B' := rfl
    rw [same, head] at other
    cases other

theorem unused_marker {name : Text}
    (known : name ∈ [Block.openingName "SEASON", Block.closingName "SEASON",
      Block.openingName "EPISODE", Block.closingName "EPISODE"]) : Unused name := by
  refine ⟨fun kind => ?_, ?_⟩
  · revert name
    cases kind <;> decide +kernel
  · revert name
    decide +kernel

theorem unused_bodies {pieces : List PicturePiece} :
    ∀ name ∈ PicturePiece.bodies pieces, Unused name := by
  intro name member
  rcases List.mem_map.mp member with ⟨written, _, rfl⟩
  exact unused_body written

theorem marker_not_mem_bodies {name : Text} (marker : name.head? ≠ some 'I')
    (pieces : List PicturePiece) : name ∉ PicturePiece.bodies pieces := by
  intro member
  rcases List.mem_map.mp member with ⟨written, _, rfl⟩
  exact marker rfl

variable {text : Text} {names : List Text}

theorem renderFields_of_carries (carries : Carries text names)
    (unused : ∀ name ∈ names, Unused name) (entity : Entity) :
    renderFields text entity = text :=
  carries.fillTokens_eq entity.braceFree_fields fun item member inNames =>
    (unused item.1 inNames).1 entity.kind (Entity.name_mem_fieldNames member)

theorem withColumns_of_unused (carries : Carries text names)
    (unused : ∀ name ∈ names, Unused name) (mode : BlockMatch) {block : Text}
    (known : block ∈ listBlockNames) (items : List Text) (columns : List (List Text)) :
    Block.withColumns mode block items columns text = text := by
  have free : ∀ block ∈ listBlockNames, Token.BraceFree block := by decide
  exact Block.withColumns_of_carries (free block known) carries
    (fun member => (unused _ member).2 block known rfl) mode items columns

/-- A text of unused names has no fields and no blocks of values. -/
theorem withLists_of_carries (carries : Carries text names)
    (unused : ∀ name ∈ names, Unused name) (mode : BlockMatch) (entity : Entity) :
    withLists mode text entity = text := by
  have blocks : ∀ list ∈ entity.listBlocks, list.block ∈ listBlockNames := by
    cases entity <;> simp [Entity.listBlocks, listBlockNames]
  have lists (some : List ListBlock) (known : ∀ list ∈ some, list.block ∈ listBlockNames) :
      some.foldl (fun text list => Block.withColumns mode list.block [list.item] [list.values] text)
        text = text := by
    induction some with
    | nil => rfl
    | cons list some inductionHypothesis =>
        rcases List.forall_mem_cons.mp known with ⟨here, later⟩
        rw [List.foldl_cons, withColumns_of_unused carries unused mode here]
        exact inductionHypothesis later
  unfold withLists
  rw [renderFields_of_carries carries unused, lists _ blocks]
  cases entity.actors? with
  | none => rfl
  | some actors => exact withColumns_of_unused carries unused mode (by decide) _ _

/-! ## The images of an entity -/

variable {σ : Type} {resolve : Resolver σ}

theorem asks_mapM_ask (plain : ∀ request state, Plain (resolve request state).1) (entity : Entity)
    (depth : PageDepth) {tokens : List ImageToken} (distinct : (tokens.map ImageToken.text).Nodup) :
    Asks (tokens.mapM (ask resolve entity depth)) (tokens.mapM (ask resolve.logged entity depth))
      (tokens.map (ImageToken.request entity)) fun found =>
        found.map Prod.fst = tokens.map ImageToken.text ∧ ∀ item ∈ found, Plain item.2 := by
  have keeps : resolve.Keeps (fun _ => True) fun _ answer => Plain answer :=
    fun request state _ => ⟨plain request state, trivial⟩
  intro state log
  rcases mapM_ask_logged keeps entity depth distinct state trivial with
    ⟨answer, done, run, logged, answersPlain⟩
  refine ⟨_, by rw [logged, run], by rw [List.map_map]; rfl, ?_, ?_⟩
  · rw [run, List.map_map]
    rfl
  · intro item member
    rw [run] at member
    rcases List.mem_map.mp member with ⟨token, inTokens, rfl⟩
    exact (plain_linkStart depth).append (answersPlain token inTokens)

theorem asks_fillImages [TableOrders] (plain : ∀ request state, Plain (resolve request state).1)
    {entity : Entity} (pictured : entity.kind ≠ .season) (depth : PageDepth)
    {pieces : List PicturePiece} (carries : Carries text (PicturePiece.bodies pieces)) :
    Asks (fillImages resolve entity depth text) (fillImages resolve.logged entity depth text)
      (PicturePiece.requests entity pieces) Plain := by
  rw [fillImages_eq_mapM _ pictured, fillImages_eq_mapM _ pictured,
    ImageToken.all_of_carries carries]
  apply (asks_mapM_ask plain entity depth (ImageToken.nodup_texts_distinct _)).map
  rintro found ⟨texts, answersPlain⟩
  have listed := (TableOrders.order entity.kind entity.id).perm found
  apply carries.plain_replaceEach _ fun item member => answersPlain item (listed.mem_iff.mp member)
  · intro name member
    rcases List.mem_map.mp member with ⟨written, inPictures, rfl⟩
    rw [written.ofName_body, (listed.map Prod.fst).mem_iff, texts]
    exact ImageToken.mem_texts_distinct (List.mem_map_of_mem inPictures)
  · intro item member
    have inTexts : item.1 ∈ found.map Prod.fst := List.mem_map_of_mem (listed.mem_iff.mp member)
    rw [texts] at inTexts
    rcases List.mem_map.mp inTexts with ⟨token, inDistinct, same⟩
    rcases List.mem_map.mp (ImageToken.mem_of_mem_distinct inDistinct) with ⟨written, _, rfl⟩
    exact ⟨written.body, written.braceFree_body, written.ofName_body.trans same⟩

theorem asks_drawSingle [TableOrders] (plain : ∀ request state, Plain (resolve request state).1)
    (mode : BlockMatch) {entity : Entity} (pictured : entity.kind ≠ .season) (depth : PageDepth)
    {pieces : List PicturePiece} (carries : Carries text (PicturePiece.bodies pieces)) :
    Asks (drawSingle resolve mode depth text entity)
      (drawSingle resolve.logged mode depth text entity)
      (PicturePiece.requests entity pieces) Plain := by
  rw [drawSingle, drawSingle, withLists_of_carries carries unused_bodies]
  exact asks_fillImages plain pictured depth carries

end Page

/-! ## Templates of shows -/

/-- A template with a block of seasons and in it a block of episodes, and pictures
around them and within. -/
structure ShowTemplate where
  head : List PicturePiece
  seasonHead : List PicturePiece
  episode : List PicturePiece
  seasonTail : List PicturePiece
  tail : List PicturePiece

namespace ShowTemplate

open PicturePiece (bodies)
open Block (openingName closingName)

def text (template : ShowTemplate) : Text :=
  PicturePiece.join template.head ++ (Block.opening "SEASON" ++
    ((PicturePiece.join template.seasonHead ++ (Block.opening "EPISODE" ++
      (PicturePiece.join template.episode ++ (Block.closing "EPISODE" ++
        PicturePiece.join template.seasonTail)))) ++ (Block.closing "SEASON" ++
          PicturePiece.join template.tail)))

/-- What stands around the block of episodes, with the block of seasons if it is repeated. -/
def around (template : ShowTemplate) (item : TvShow) : List PicturePiece :=
  template.head ++
    (if item.seasons.isEmpty then [] else template.seasonHead ++ template.seasonTail) ++
    template.tail

/-- Each episode asks for the distinct pictures of its block, then the show for those
around it. -/
def requests (template : ShowTemplate) (item : TvShow) : List ImageRequest :=
  item.sortedEpisodes.flatMap (fun episode =>
      PicturePiece.requests (.episode item episode) template.episode) ++
    PicturePiece.requests (.tvShow item) (template.around item)

def seasonNames (template : ShowTemplate) : List Text :=
  bodies template.seasonHead ++ openingName "EPISODE" ::
    (bodies template.episode ++ closingName "EPISODE" :: bodies template.seasonTail)

def names (template : ShowTemplate) : List Text :=
  bodies template.head ++ openingName "SEASON" ::
    (template.seasonNames ++ closingName "SEASON" :: bodies template.tail)

variable (template : ShowTemplate)

theorem carries_text : Carries template.text template.names := by
  have marker {name : Text} (free : Token.BraceFree name) : Carries (Token.ofName name) [name] :=
    Carries.ofName free
  have season : Token.BraceFree "SEASON" := by decide
  have episode : Token.BraceFree "EPISODE" := by decide
  have pieces := PicturePiece.carries_join
  exact (pieces template.head).append ((marker (Block.braceFree_openingName season)).append
    (((pieces template.seasonHead).append ((marker (Block.braceFree_openingName episode)).append
      ((pieces template.episode).append ((marker (Block.braceFree_closingName episode)).append
        (pieces template.seasonTail))))).append
          ((marker (Block.braceFree_closingName season)).append (pieces template.tail))))

theorem unused_seasonNames : ∀ name ∈ template.seasonNames, Page.Unused name := by
  intro name member
  rw [seasonNames, List.mem_append, List.mem_cons, List.mem_append, List.mem_cons] at member
  rcases member with inHead | rfl | inEpisode | rfl | inTail
  · exact Page.unused_bodies name inHead
  · exact Page.unused_marker (by decide)
  · exact Page.unused_bodies name inEpisode
  · exact Page.unused_marker (by decide)
  · exact Page.unused_bodies name inTail

theorem unused_names : ∀ name ∈ template.names, Page.Unused name := by
  intro name member
  rw [names, List.mem_append, List.mem_cons, List.mem_append, List.mem_cons] at member
  rcases member with inHead | rfl | inSeason | rfl | inTail
  · exact Page.unused_bodies name inHead
  · exact Page.unused_marker (by decide)
  · exact template.unused_seasonNames name inSeason
  · exact Page.unused_marker (by decide)
  · exact Page.unused_bodies name inTail

variable {σ : Type} {resolve : Resolver σ} {text : Text}

/-- The episodes of a season ask for their pictures, and what is left are the
pictures of the season around them. -/
theorem asks_season [TableOrders] (plain : ∀ request state, Plain (resolve request state).1)
    (mode : BlockMatch)
    (depth : PageDepth) (item : TvShow) (carries : Carries text template.seasonNames)
    (season : UInt16) :
    Page.Asks
      (Block.withItems mode "EPISODE" (item.episodesIn season)
        (fun inner episode => Page.drawSingle resolve mode depth inner (.episode item episode))
        (renderFields text (.season item season)))
      (Block.withItems mode "EPISODE" (item.episodesIn season)
        (fun inner episode =>
          Page.drawSingle resolve.logged mode depth inner (.episode item episode))
        (renderFields text (.season item season)))
      ((item.episodesIn season).flatMap fun episode =>
        PicturePiece.requests (.episode item episode) template.episode)
      fun page => Carries page (bodies (template.seasonHead ++ template.seasonTail)) := by
  have free : Token.BraceFree "EPISODE" := by decide
  rw [Page.renderFields_of_carries carries template.unused_seasonNames]
  rcases Block.withItems_of_carries free carries (Page.marker_not_mem_bodies (by decide) _)
    (Page.marker_not_mem_bodies (by decide) _) (Page.marker_not_mem_bodies (by decide) _) mode with
    ⟨left, body, right, leftCarries, bodyCarries, rightCarries, repeated⟩
  rw [repeated, repeated]
  have pictured (episode : Episode) : (Entity.episode item episode).kind ≠ .season := nofun
  have each (episode : Episode) :=
    Page.asks_drawSingle plain mode (pictured episode) depth bodyCarries
  apply (Page.Asks.mapM each).map
  rintro rendered ⟨_, renderedPlain⟩
  have inside := Block.carries_joinItems fun item member =>
    Carries.of_plain (renderedPlain item member)
  rw [List.flatten_replicate_nil] at inside
  have whole := (leftCarries.append inside).append rightCarries
  rwa [List.append_nil, ← PicturePiece.bodies_append] at whole

theorem asks_seasons [TableOrders] (plain : ∀ request state, Plain (resolve request state).1)
    (mode : BlockMatch)
    (depth : PageDepth) (item : TvShow) (carries : Carries text template.names) :
    Page.Asks (Page.drawSeasons resolve mode depth item text)
      (Page.drawSeasons resolve.logged mode depth item text)
      (item.sortedEpisodes.flatMap fun episode =>
        PicturePiece.requests (.episode item episode) template.episode)
      fun page => Carries page (bodies (template.head ++
        (List.replicate item.seasons.length (template.seasonHead ++ template.seasonTail)).flatten ++
          template.tail)) := by
  have free : Token.BraceFree "SEASON" := by decide
  have notInside {name : Text} (marker : name.head? ≠ some 'I')
      (notOpening : name ≠ openingName "EPISODE") (notClosing : name ≠ closingName "EPISODE") :
      name ∉ template.seasonNames := by
    rw [seasonNames, List.mem_append, List.mem_cons, List.mem_append, List.mem_cons]
    have notIn := Page.marker_not_mem_bodies marker
    exact not_or.mpr ⟨notIn _, not_or.mpr ⟨notOpening, not_or.mpr ⟨notIn _,
      not_or.mpr ⟨notClosing, notIn _⟩⟩⟩⟩
  rcases Block.withItems_of_carries free carries (Page.marker_not_mem_bodies (by decide) _)
    (notInside (by decide) (by decide) (by decide)) (Page.marker_not_mem_bodies (by decide) _)
    mode with ⟨left, body, right, leftCarries, bodyCarries, rightCarries, repeated⟩
  -- The episodes season by season are the episodes in order.
  rw [Page.drawSeasons, Page.drawSeasons, repeated, repeated, ← item.flatMap_episodesIn,
    List.flatMap_assoc]
  apply (Page.Asks.mapM (template.asks_season plain mode depth item bodyCarries)).map
  rintro rendered ⟨count, renderedCarries⟩
  have inside := Block.carries_joinItems renderedCarries
  have whole := (leftCarries.append inside).append rightCarries
  rw [count] at whole
  simpa only [PicturePiece.bodies_append, PicturePiece.bodies_flatten,
    List.map_replicate] using whole

/-- Each picture of a show's page is asked for once per text and entity: first those in
the block of episodes, for one episode after the other in order, then those around
it for the show; those of the block of seasons only if there is a season. -/
theorem render_asks [TableOrders] (plain : ∀ request state, Plain (resolve request state).1)
    (mode : BlockMatch) (depth : PageDepth) (item : TvShow) (state : σ) :
    ∃ page done log,
      (Page.render resolve mode depth template.text (.tvShow item)).run state = (.ok page, done) ∧
        (Page.render resolve.logged mode depth template.text (.tvShow item)).run (state, []) =
          (.ok page, (done, log)) ∧
        log.map Prod.fst = template.requests item := by
  have carries := template.carries_text
  have pictured : (Entity.tvShow item).kind ≠ .season := nofun
  have drawn : Page.Asks (Page.draw resolve mode depth template.text (.tvShow item))
      (Page.draw resolve.logged mode depth template.text (.tvShow item))
      (template.requests item) Plain := by
    unfold Page.draw Page.drawBody
    rw [Page.withLists_of_carries carries template.unused_names]
    apply (template.asks_seasons plain mode depth item carries).bind
    intro page pageCarries
    have asks := Page.asks_fillImages plain pictured depth pageCarries
    have around : template.around item = template.head ++
        (if item.seasons.length = 0 then [] else template.seasonHead ++ template.seasonTail) ++
          template.tail := by
      simp only [ShowTemplate.around, List.isEmpty_iff_length_eq_zero]
    -- Each season has left the same pictures, and the second copy asks for nothing more.
    rw [PicturePiece.requests_replicate, ← around] at asks
    exact asks
  rcases drawn state [] with ⟨log, run, requests, _⟩
  refine ⟨_, _, log, Page.run_render resolve mode depth template.text (.tvShow item) state, ?_,
    requests⟩
  rw [Page.run_render, run, List.nil_append]

/-- The same picture outside of the block of episodes and, twice, inside of it. -/
def posters : ShowTemplate where
  head := [.picture ImageToken.Written.poster, .text " and " (by decide)]
  seasonHead := []
  episode := [.picture ImageToken.Written.poster, .picture ImageToken.Written.poster]
  seasonTail := []
  tail := []

/-- A show with two episodes. -/
def twoEpisodes : TvShow :=
  { id := 7, episodes := [{ id := 1, number := 1 }, { id := 2, number := 2 }] }

theorem render_asks_posters :
    let resolve : Resolver Nat := fun _ count => ("poster.jpg", count + 1)
    (∀ request state, Plain (resolve request state).1) ∧ ∃ page done log,
      (Page.render resolve.logged .first .root posters.text (.tvShow twoEpisodes)).run (0, []) =
          (.ok page, (done, log)) ∧
        log.map (fun entry => (entry.1.entity.kind, entry.1.entity.id, entry.1.role)) =
          [(.episode, 1, "poster".toList), (.episode, 2, "poster".toList),
            (.tvShow, 7, "poster".toList)] := by
  intro resolve
  have plain : ∀ request state, Plain (resolve request state).1 := fun _ _ =>
    (by decide : Plain "poster.jpg")
  rcases posters.render_asks plain .first .root twoEpisodes 0 with
    ⟨page, done, log, _, run, requests⟩
  refine ⟨plain, page, done, log, run, ?_⟩
  have sorted : twoEpisodes.sortedEpisodes = twoEpisodes.episodes :=
    List.mergeSort_of_pairwise (by decide)
  have named : (posters.requests twoEpisodes).map
      (fun request => (request.entity.kind, request.entity.id, request.role)) =
        [(.episode, 1, "poster".toList), (.episode, 2, "poster".toList),
          (.tvShow, 7, "poster".toList)] := by
    rw [ShowTemplate.requests, sorted]
    decide
  rw [← named, ← requests, List.map_map]
  rfl

end ShowTemplate
end MediaSite
