import MediaSite.Proofs.Site.BlockModes

namespace MediaSite

/-!
# The episodes on the page of a show

The page of a show repeats its block of episodes season by season.  As the seasons
put one after the other are all episodes in order (`TvShow.flatMap_episodesIn`), the
nested loops render the episodes in just that order, each from the inner text of its
season, and the pages of each season are put together afterwards
(`Page.rendersEpisodes_sorted`).

For this the block of seasons must be there, and a block of episodes in it, when the
fields and the blocks of values of the show have been filled in: a block of values
is repeated with all that stands inside of it, and is gone if there are no values.
-/

open scoped Text
open Text (Plain Carries)

/-! ## The order of episodes -/

/-- Agrees with an episode in everything that episodes are sorted by. -/
def Episode.sameOrder (episode other : Episode) : Bool :=
  other.season == episode.season && other.number == episode.number && other.id == episode.id

theorem Episode.le_of_sameOrder {episode first second : Episode}
    (firstSame : episode.sameOrder first = true) (secondSame : episode.sameOrder second = true) :
    le first second = true := by
  simp only [sameOrder, Bool.and_eq_true, beq_iff_eq] at firstSame secondSame
  unfold le
  rw [firstSame.1.1, firstSame.1.2, firstSame.2, secondSame.1.1, secondSame.1.2, secondSame.2]
  simp [Std.compare_self]

namespace TvShow

variable (item : TvShow)

theorem perm_sortedEpisodes : item.sortedEpisodes.Perm item.presentEpisodes :=
  List.mergeSort_perm _ _

theorem pairwise_sortedEpisodes :
    item.sortedEpisodes.Pairwise fun left right => Episode.le left right = true :=
  List.pairwise_mergeSort Episode.le_trans Episode.le_total item.presentEpisodes

/-- Episodes that are sorted alike stay in the order they had. -/
theorem filter_sameOrder (episode : Episode) :
    item.sortedEpisodes.filter episode.sameOrder = item.presentEpisodes.filter episode.sameOrder := by
  rw [sortedEpisodes, filter_mergeSort Episode.le_trans Episode.le_total]
  apply List.mergeSort_of_pairwise
  apply List.pairwise_of_forall_mem_list
  intro first firstMember second secondMember
  exact Episode.le_of_sameOrder (List.mem_filter.mp firstMember).2
    (List.mem_filter.mp secondMember).2

theorem season_of_mem {item : TvShow} {season : UInt16} {episode : Episode}
    (member : episode ∈ item.episodesIn season) : episode.season = season :=
  beq_iff_eq.mp (List.mem_filter.mp (List.mem_mergeSort.mp member)).2

theorem nodup_seasons : item.seasons.Nodup := by
  apply (pairwise_ascending _).imp
  rintro left right less rfl
  rw [Std.compare_self] at less
  cases less

end TvShow

/-! ## Loops in loops -/

section Runs

variable {σ α β γ κ : Type}

/-- Do something for an item, and keep the item with what came of it. -/
def labelled (step : α → StateM σ β) (item : α) : StateM σ (α × β) := do
  let made ← step item
  return (item, made)

/-- Labels change nothing in what is done. -/
theorem mapM_labelled (items : List α) (step : α → StateM σ β) (state : σ) :
    ∃ pairs done, items.mapM (labelled step) state = (pairs, done) ∧
      items.mapM step state = (pairs.map Prod.snd, done) ∧ pairs.map Prod.fst = items := by
  induction items generalizing state with
  | nil => exact ⟨[], state, rfl, rfl, rfl⟩
  | cons item items inductionHypothesis =>
      rcases made : step item state with ⟨result, middle⟩
      rcases inductionHypothesis middle with ⟨pairs, done, run, plain, labels⟩
      refine ⟨(item, result) :: pairs, done, ?_, ?_, by rw [List.map_cons, labels]⟩
      · rw [List.mapM_cons]
        simp only [labelled, bind_apply, pure_apply, made, run]
      · rw [List.mapM_cons]
        simp only [bind_apply, pure_apply, made, plain]
        rfl

/-- The results of the items with a key. -/
def resultsFor [BEq κ] (key : α → κ) (pairs : List (α × β)) (each : κ) : List β :=
  (pairs.filter (key ·.1 == each)).map Prod.snd

theorem resultsFor_append [BEq κ] {key : α → κ} (first second : List (α × β)) (each : κ) :
    resultsFor key (first ++ second) each =
      resultsFor key first each ++ resultsFor key second each := by
  rw [resultsFor, List.filter_append, List.map_append]
  rfl

variable [BEq κ] [LawfulBEq κ] {key : α → κ}

theorem resultsFor_self {pairs : List (α × β)} {each : κ}
    (all : ∀ item ∈ pairs.map Prod.fst, key item = each) :
    resultsFor key pairs each = pairs.map Prod.snd := by
  rw [resultsFor, List.filter_eq_self.mpr]
  intro pair member
  exact beq_iff_eq.mpr (all pair.1 (List.mem_map_of_mem member))

theorem resultsFor_other {pairs : List (α × β)} {each : κ}
    (none : ∀ item ∈ pairs.map Prod.fst, key item ≠ each) : resultsFor key pairs each = [] := by
  rw [resultsFor, List.filter_eq_nil_iff.mpr, List.map_nil]
  intro pair member same
  exact none pair.1 (List.mem_map_of_mem member) (beq_iff_eq.mp same)

/-- A loop over keys with a loop over the items of each inside of it is one loop over
all items, whose results are sorted by their keys afterwards. -/
theorem mapM_mapM (key : α → κ) {keys : List κ} (distinct : keys.Nodup) {items : κ → List α}
    (keyed : ∀ each, ∀ item ∈ items each, key item = each) (step : α → StateM σ β)
    (collect : κ → List β → γ) :
    keys.mapM (fun each => do
        let made ← (items each).mapM step
        return collect each made) = (do
      let pairs ← (keys.flatMap items).mapM (labelled step)
      return keys.map fun each => collect each (resultsFor key pairs each)) := by
  induction keys with
  | nil => rfl
  | cons first keys inductionHypothesis =>
      rcases List.nodup_cons.mp distinct with ⟨fresh, distinctRest⟩
      rw [List.mapM_cons, inductionHypothesis distinctRest, List.flatMap_cons, List.mapM_append]
      funext state
      rcases mapM_labelled (items first) step state with ⟨own, middle, run, plain, labels⟩
      rcases mapM_labelled (keys.flatMap items) step middle with ⟨others, done, rest, _, otherLabels⟩
      have ownFirst : ∀ item ∈ own.map Prod.fst, key item = first := by
        rw [labels]
        exact keyed first
      have othersLater : ∀ item ∈ others.map Prod.fst, key item ∈ keys := by
        rw [otherLabels]
        intro item member
        rcases List.mem_flatMap.mp member with ⟨each, inKeys, inItems⟩
        rwa [keyed each item inItems]
      have here : resultsFor key (own ++ others) first = own.map Prod.snd := by
        rw [resultsFor_append, resultsFor_self ownFirst, resultsFor_other, List.append_nil]
        intro item member same
        exact fresh (same ▸ othersLater item member)
      have later : keys.map (fun each => collect each (resultsFor key (own ++ others) each)) =
          keys.map fun each => collect each (resultsFor key others each) := by
        apply List.map_congr_left
        intro each inKeys
        rw [resultsFor_append, resultsFor_other, List.nil_append]
        intro item member same
        rw [ownFirst item member] at same
        exact fresh (same ▸ inKeys)
      simp only [bind_apply, pure_apply, plain, run, rest, List.map_cons, here,
        later]

end Runs

/-! ## Episodes inside of seasons -/

namespace Page

variable {σ : Type} {resolve : Resolver σ} {mode : BlockMatch} {depth : PageDepth}
variable {item : TvShow}

/-- Filling in the number of a season leaves its block of episodes. -/
theorem select_season_ne_none (item : TvShow) {inner : Text}
    (nested : Block.select mode "EPISODE" inner ≠ none) (season : UInt16) :
    Block.select mode "EPISODE" (renderFields inner (.season item season)) ≠ none := by
  have opens : Text.Apart (Token.ofName "SEASON") (Block.opening "EPISODE") := by decide
  have closes : Text.Apart (Token.ofName "SEASON") (Block.closing "EPISODE") := by decide
  have filled (text : Text) : renderFields text (.season item season) =
      Text.replaceAll (Token.ofName "SEASON") (Text.ofNat season.toNat) text := rfl
  rw [Ne, Block.select_eq_none_iff] at nested ⊢
  rcases Block.first?_ne_none_iff.mp nested with ⟨before, body, after, rfl⟩
  rw [filled, Text.replaceAll_of_apart opens (Token.ofName_ne_nil _),
    Text.replaceAll_of_apart closes (Token.ofName_ne_nil _)]
  exact Block.first?_ne_none_iff.mpr ⟨_, _, _, rfl⟩

/-- The pages of episodes, put together season by season. -/
def assemble (mode : BlockMatch) (item : TvShow) (outer : Block) (rows : UInt16 → Block)
    (pages : List (Episode × Text)) : Text :=
  outer.replace mode (Block.joinItems (item.seasons.map fun season =>
    (rows season).replace mode (Block.joinItems (resultsFor Episode.season pages season))))

theorem drawSeasons_eq [TableOrders] {text : Text} {outer : Block} {rows : UInt16 → Block}
    (found : Block.select mode "SEASON" text = some outer)
    (nested : ∀ season, Block.select mode "EPISODE"
      (renderFields outer.inner (.season item season)) = some (rows season)) :
    drawSeasons resolve mode depth item text = (do
      let pages ← item.sortedEpisodes.mapM (labelled fun episode =>
        drawSingle resolve mode depth (rows episode.season).inner (.episode item episode))
      return assemble mode item outer rows pages) := by
  have inSeason (season : UInt16) : Block.withItems mode "EPISODE" (item.episodesIn season)
      (fun inner episode => drawSingle resolve mode depth inner (.episode item episode))
      (renderFields outer.inner (.season item season)) = (do
        let rendered ← (item.episodesIn season).mapM fun episode =>
          drawSingle resolve mode depth (rows episode.season).inner (.episode item episode)
        return (rows season).replace mode (Block.joinItems rendered)) := by
    rw [Block.withItems, nested]
    simp only
    rw [Block.mapM_congr_left]
    intro episode member
    rw [TvShow.season_of_mem member]
  rw [drawSeasons, Block.withItems, found]
  simp only [inSeason]
  rw [mapM_mapM Episode.season item.nodup_seasons (fun _ _ => TvShow.season_of_mem) _
    (fun season rendered => (rows season).replace mode (Block.joinItems rendered)),
    item.flatMap_episodesIn]
  rfl

/-- A template that still has a block of seasons, and in it one of episodes, when the
fields and blocks of values of a show have been filled in. -/
def ShowsEpisodes (mode : BlockMatch) (template : Text) (item : TvShow) (outer : Block) : Prop :=
  ∃ text, fillLists mode template (.tvShow item) = .ok text ∧
    Block.find mode "SEASON" text = .ok (some outer) ∧
    Block.find mode "EPISODE" outer.inner ≠ .ok none

/-- The page of a show renders these episodes one after the other, each from the block of
episodes in the text of its season; what stands around them is put together afterwards. -/
def RendersEpisodes [TableOrders] (resolve : Resolver σ) (mode : BlockMatch) (depth : PageDepth)
    (template : Text) (item : TvShow) (outer : Block) (episodes : List Episode) : Prop :=
  ∃ rows : UInt16 → Block,
    (∀ season, Block.find mode "EPISODE" (renderFields outer.inner (.season item season)) =
      .ok (some (rows season))) ∧
    render resolve mode depth template (.tvShow item) = (do
      let pages ← episodes.mapM fun episode => do
        let page ← renderSingle resolve mode depth (rows episode.season).inner
          (.episode item episode)
        return (episode, page)
      fillImages resolve (.tvShow item) depth (assemble mode item outer rows pages))

/-- The seasons of a page are rendered as one sequence: all episodes in order. -/
theorem rendersEpisodes_sorted [TableOrders] (resolve : Resolver σ) (depth : PageDepth)
    {template : Text} {outer : Block} (shows_ : ShowsEpisodes mode template item outer) :
    RendersEpisodes resolve mode depth template item outer item.sortedEpisodes := by
  have shortEpisode : Text.byteLength ("EPISODE" : Text) ≤ Block.nameLimit := by decide
  have shortSeason : Text.byteLength ("SEASON" : Text) ≤ Block.nameLimit := by decide
  rcases shows_ with ⟨text, filled, found, nested⟩
  rw [Block.find_eq_ok shortSeason, Except.ok.injEq] at found
  rw [Block.find_eq_ok shortEpisode, Ne, Except.ok.injEq] at nested
  rw [fillLists_eq_ok, Except.ok.injEq] at filled
  have inEach (season : UInt16) := Option.ne_none_iff_exists'.mp
    (select_season_ne_none item nested season)
  choose rows found_ using inEach
  refine ⟨rows, fun season => by rw [Block.find_eq_ok shortEpisode, found_], ?_⟩
  have labels : (fun episode => do
      let page ← renderSingle resolve mode depth (rows episode.season).inner (.episode item episode)
      return (episode, page)) = fun episode : Episode => Render.lift (labelled (fun episode =>
        drawSingle resolve mode depth (rows episode.season).inner (.episode item episode))
          episode) := by
    funext episode
    rw [renderSingle_eq_lift]
    rfl
  rw [render_eq_lift, labels, Render.mapM_lift, draw, drawBody, filled,
    drawSeasons_eq found found_]
  rfl

/-! ## Templates with one block of each -/

/-- Where the four markers stand once each and in order, the names fall into what stands
between them. -/
theorem exists_of_nesting {names : List Text} (ordered : nesting names = nestingMarkers) :
    ∃ before early inside late after : List Text,
      names = before ++ Block.openingName "SEASON" :: ((early ++ Block.openingName "EPISODE" ::
        (inside ++ Block.closingName "EPISODE" :: late)) ++ Block.closingName "SEASON" :: after) ∧
      ∀ part ∈ [before, early, inside, late, after], ∀ marker ∈ nestingMarkers, marker ∉ part := by
  have free {part : List Text}
      (none : ∀ name ∈ part, ¬ nestingMarkers.contains name = true) (marker : Text)
      (known : marker ∈ nestingMarkers) : marker ∉ part := fun member =>
    none marker member (List.contains_iff_mem.mpr known)
  rcases List.filter_eq_cons_iff.mp ordered with ⟨before, rest, rfl, noneBefore, _, ordered⟩
  rcases List.filter_eq_cons_iff.mp ordered with ⟨early, rest, rfl, noneEarly, _, ordered⟩
  rcases List.filter_eq_cons_iff.mp ordered with ⟨inside, rest, rfl, noneInside, _, ordered⟩
  rcases List.filter_eq_cons_iff.mp ordered with ⟨late, after, rfl, noneLate, _, ordered⟩
  refine ⟨before, early, inside, late, after, by simp, ?_⟩
  simp only [List.forall_mem_cons, List.not_mem_nil, false_implies, implies_true, and_true]
  exact ⟨free noneBefore, free noneEarly, free noneInside, free noneLate,
    free (List.filter_eq_nil_iff.mp ordered)⟩

/-- One pair of markers each, that of the episodes inside of that of the seasons and
neither inside of a block of values: then there is a block of episodes to fill. -/
theorem showsEpisodes_of_nesting (plain : (Entity.tvShow item).PlainVerbatim)
    {pieces : List TemplatePiece} (tidy : ∀ piece ∈ pieces, piece.Tidy)
    (unambiguous : Unambiguous (TemplatePiece.names pieces))
    (ordered : nesting (TemplatePiece.names pieces) = nestingMarkers) (mode : BlockMatch) :
    ∃ outer, ShowsEpisodes mode (TemplatePiece.join pieces) item outer := by
  have shortEpisode : Text.byteLength ("EPISODE" : Text) ≤ Block.nameLimit := by decide
  have shortSeason : Text.byteLength ("SEASON" : Text) ≤ Block.nameLimit := by decide
  have carries : Carries (TemplatePiece.join pieces) (TemplatePiece.names pieces) :=
    ⟨pieces, tidy, rfl, rfl⟩
  rcases withLists_modes plain carries unambiguous with
    ⟨text, kept, same, keptCarries, preserved⟩
  rcases exists_of_nesting (preserved.nesting_eq.trans ordered) with
    ⟨before, early, inside, late, after, rfl, free⟩
  simp only [List.forall_mem_cons, nestingMarkers] at free
  rcases free with ⟨⟨seasonBefore, _⟩, ⟨_, episodeEarly, _, seasonEarly, _⟩,
    ⟨_, _, episodeInside, seasonInside, _⟩, ⟨_, episodeLate, _, seasonLate, _⟩,
    ⟨seasonAfter, _⟩, _⟩
  have closed : Block.closingName "SEASON" ∉ early ++ Block.openingName "EPISODE" ::
      (inside ++ Block.closingName "EPISODE" :: late) := by
    have otherOpening : Block.closingName "SEASON" ≠ Block.openingName "EPISODE" := by decide
    have otherClosing : Block.closingName "SEASON" ≠ Block.closingName "EPISODE" := by decide
    simp only [List.mem_append, List.mem_cons, not_or]
    exact ⟨seasonEarly, otherOpening, seasonInside, otherClosing, seasonLate⟩
  rcases Block.select_of_carries (by decide) keptCarries seasonBefore closed seasonAfter with
    ⟨outer, found, _, innerCarries, _, _⟩
  rcases Block.select_of_carries (by decide) innerCarries episodeEarly episodeInside episodeLate
    with ⟨row, nested, _⟩
  refine ⟨outer, text, by rw [fillLists_eq_ok, same], by rw [Block.find_eq_ok shortSeason, found],
    ?_⟩
  rw [Block.find_eq_ok shortEpisode, nested]
  exact fun none => Option.some_ne_none _ (Except.ok.inj none)

end Page
end MediaSite
