import MediaSite.Proofs.Export.Accounting
import MediaSite.Proofs.Site.EpisodeOrder

namespace MediaSite

/-!
# Pages of episodes

A run exports the pages of a show's episodes from one list, all episodes in order,
and the page of the show renders them season by season.  Both come to the same
sequence: `Exporter.episodes_in_one_order`.
-/

open scoped Text

variable {σ : Type}

/-! ## The episodes of a run -/

/-- The episode whose page a task writes, with its show. -/
def Task.episode? : Task → Option (TvShow × Episode)
  | .page _ (.episode item episode) => some (item, episode)
  | _ => none

/-- The episode that is told to be exported: its id and title. -/
def ExportEvent.episode? : ExportEvent → Option (UInt64 × Text)
  | .itemExported _ .episode id title _ => some (id, title)
  | _ => none

/-- All episodes of a library: show by show, and in each in order. -/
def Library.sortedEpisodes (library : Library) : List (TvShow × Episode) :=
  library.sortedTvShows.flatMap fun item => item.sortedEpisodes.map fun episode => (item, episode)

theorem Library.episodes_sectionTasks (library : Library) (part : Section) :
    (library.sectionTasks part).filterMap Task.episode? =
      if part = .tvShows then library.sortedEpisodes else [] := by
  have onlyEpisodes (item : TvShow) : (Entity.tvShow item :: (Entity.tvShow item).parts).filterMap
      (fun entity => (Task.page .tvShows entity).episode?) =
        item.sortedEpisodes.map fun episode => (item, episode) := by
    rw [List.filterMap_cons_none rfl, Entity.parts, List.filterMap_map]
    change item.sortedEpisodes.filterMap (fun episode => some (item, episode)) = _
    rw [List.filterMap_eq_map']
  rw [sectionTasks, List.filterMap_cons_none rfl, List.filterMap_map, pages]
  cases part with
  | tvShows =>
      rw [if_pos rfl, entities, List.flatMap_map, List.filterMap_flatMap, sortedEpisodes]
      exact List.flatMap_congr fun item _ => onlyEpisodes item
  | movies =>
      rw [if_neg (by decide), entities, List.flatMap_map, List.filterMap_flatMap]
      exact List.flatMap_eq_nil_iff.mpr fun record _ => rfl
  | concerts =>
      rw [if_neg (by decide), entities, List.flatMap_map, List.filterMap_flatMap]
      exact List.flatMap_eq_nil_iff.mpr fun record _ => rfl
  | movie => rfl
  | tvShow => rfl
  | episode => rfl
  | concert => rfl

/-- A run that exports shows writes the pages of all episodes in order, each once. -/
theorem Library.episodes_plan (library : Library) {sections : List Section}
    (requested : .tvShows ∈ sections) :
    (library.plan sections).filterMap Task.episode? = library.sortedEpisodes := by
  have lists : ((Exporter.requested sections).map Task.list).filterMap Task.episode? = [] := by
    rw [List.filterMap_map]
    exact List.filterMap_eq_nil_iff.mpr fun part _ => rfl
  have once : Exporter.requested sections = (if .movies ∈ sections then [.movies] else []) ++
      (.tvShows :: if .concerts ∈ sections then [.concerts] else []) := by
    simp only [Exporter.requested, Section.lists, List.filter_cons, List.contains_iff_mem,
      requested, if_true, List.filter_nil]
    split <;> rfl
  rw [plan, List.filterMap_append, lists, List.append_nil, pageTasks, List.filterMap_flatMap, once]
  simp only [episodes_sectionTasks]
  split <;> split <;> simp

/-- What is told about deeds tells the episodes among them. -/
theorem episodes_narrate (job : ExportJob σ) (count : Nat) (deeds : List Deed) :
    (narrate job count deeds).filterMap ExportEvent.episode? =
      ((deeds.map Deed.task).filterMap Task.episode?).map fun pair => (pair.2.id, pair.2.title) := by
  rw [List.filterMap_map, List.map_filterMap]
  refine filterMap_narrate (fun deed count => ?_) count deeds
  rcases deed with ⟨task, fault⟩
  cases task with
  | opening part => rfl
  | page part entity => cases entity <;> cases fault <;> rfl
  | list part => cases fault <;> rfl

/-! ## One order -/

/-- The page of a show and the pages of its episodes agree on the episodes: all of its
seasons one after the other are all episodes that are there, in order; wherever the page
of the show has a block of episodes to fill, it renders this sequence; and a completed
run writes the pages of the same sequence, show by show. -/
theorem Exporter.episodes_in_one_order :
    (∀ item : TvShow,
      item.seasons.flatMap item.episodesIn = item.sortedEpisodes ∧
      item.sortedEpisodes.Perm (item.episodes.filter fun episode => !episode.dummy) ∧
      item.sortedEpisodes.Pairwise (fun left right => Episode.le left right = true) ∧
      ∀ episode : Episode, item.sortedEpisodes.filter episode.sameOrder =
        (item.episodes.filter fun episode => !episode.dummy).filter episode.sameOrder) ∧
    (∀ [TableOrders] (τ : Type) (resolve : Resolver τ) mode depth template (item : TvShow) outer,
      Page.ShowsEpisodes mode template item outer →
        Page.RendersEpisodes resolve mode depth template item outer item.sortedEpisodes) ∧
    (∀ (item : TvShow) pieces mode, (Entity.tvShow item).PlainVerbatim →
      (∀ piece ∈ pieces, TemplatePiece.Tidy piece) →
      Page.Unambiguous (TemplatePiece.names pieces) →
      Page.nesting (TemplatePiece.names pieces) = Page.nestingMarkers →
        ∃ outer, Page.ShowsEpisodes mode (TemplatePiece.join pieces) item outer) ∧
    ∀ (τ : Type) (job : ExportJob τ) watch sections exporter workspace outcome,
      (run job watch sections exporter workspace).outcome = .ok outcome →
      outcome.state = .completed → .tvShows ∈ sections →
        ∃ done, (run job watch sections exporter workspace).events = narrate job 0 done ∧
          (done.map Deed.task).filterMap Task.episode? =
            (job.library.sortedTvShows.flatMap fun item =>
              item.sortedEpisodes.map fun episode => (item, episode)) ∧
          (run job watch sections exporter workspace).events.filterMap ExportEvent.episode? =
            (job.library.sortedTvShows.flatMap fun item =>
              item.sortedEpisodes.map fun episode => (episode.id, episode.title)) := by
  refine ⟨fun item => ⟨item.flatMap_episodesIn, item.perm_sortedEpisodes,
    item.pairwise_sortedEpisodes, item.filter_sameOrder⟩, ?_, ?_, ?_⟩
  · intro _ τ resolve mode depth template item outer shows_
    exact Page.rendersEpisodes_sorted resolve depth shows_
  · intro item pieces mode plain tidy unambiguous ordered
    exact Page.showsEpisodes_of_nesting plain tidy unambiguous ordered mode
  · intro τ job watch sections exporter workspace outcome ended completed requested
    rcases run_of_outcome ended with ⟨files, done, rest, _, split, whole, _, told⟩
    rw [whole completed, List.append_nil] at split
    subst split
    have planned := job.library.episodes_plan requested
    refine ⟨_, told, by rw [map_task_deeds, planned, Library.sortedEpisodes], ?_⟩
    rw [told, episodes_narrate, map_task_deeds, planned, Library.sortedEpisodes, List.map_flatMap]
    simp only [List.map_map]
    rfl

/-- The nested blocks of a show with tags, and the run of the small job. -/
theorem Exporter.episodes_in_one_order_nested :
    (∃ outer, Page.RendersEpisodes (fun _ count => ("poster.jpg", count + 1)) .last .root
      (TemplatePiece.join Page.nestedPieces) Page.taggedShow outer
      Page.taggedShow.sortedEpisodes) ∧
    (run ExportJob.small (fun _ _ => false) [.tvShows] {} Workspace.small).events.filterMap
      ExportEvent.episode? = [(0, [])] := by
  have plain : (Entity.tvShow Page.taggedShow).PlainVerbatim :=
    (by decide : Text.Plain Page.taggedShow.imdbId)
  rcases episodes_in_one_order with ⟨_, renders, shows_, exported⟩
  rcases shows_ Page.taggedShow Page.nestedPieces .last plain (by decide) (by decide) (by decide)
    with ⟨outer, found⟩
  rcases completed_of_quiet ExportJob.small (fun _ _ => rfl) [.tvShows] {} ExportJob.setUp_small
    with ⟨outcome, ended, completed⟩
  rcases exported Unit ExportJob.small _ _ _ _ outcome ended completed List.mem_cons_self with
    ⟨done, _, _, told⟩
  refine ⟨⟨outer, renders Nat _ .last .root _ _ outer found⟩, told.trans ?_⟩
  decide +kernel

/-- A show without tags. -/
def TvShow.untagged : TvShow :=
  { episodes := [{ id := 1, title := "Pilot" }] }

/-- The seasons of this template stand inside of the block of tags. -/
def Page.taggedSeasons : List TemplatePiece :=
  [.token "BEGIN_BLOCK_TAGS", .token "BEGIN_BLOCK_SEASON", .token "BEGIN_BLOCK_EPISODE",
    .token "EPISODE.TITLE", .token "END_BLOCK_EPISODE", .token "END_BLOCK_SEASON",
    .token "END_BLOCK_TAGS"]

/-- The block of seasons contains one of episodes, but it is gone with the block of tags
around it, and the page shows no episode, while the run writes the page of one. -/
theorem Page.render_untagged :
    (∃ outer, Block.find .first "SEASON" (TemplatePiece.join taggedSeasons) = .ok (some outer) ∧
      Block.find .first "EPISODE" outer.inner ≠ .ok none) ∧
    nesting (TemplatePiece.names taggedSeasons) = nestingMarkers ∧
    (Library.plan { tvShows := [TvShow.untagged] } [.tvShows]).filterMap Task.episode? =
      [(TvShow.untagged, { id := 1, title := "Pilot" })] ∧
    (render (fun _ state => ([], state)) .first .root (TemplatePiece.join taggedSeasons)
      (.tvShow TvShow.untagged)).run () = (.ok [], ()) := by
  refine ⟨?_, by decide, ?_, ?_⟩
  · refine ⟨_, by rfl, ?_⟩
    decide +kernel
  · rw [Library.episodes_plan _ List.mem_cons_self]
    simp [Library.sortedEpisodes, Library.sortedTvShows, sortByTitle, TvShow.sortedEpisodes,
      TvShow.presentEpisodes, TvShow.untagged]
  · have nothing : (draw (fun _ state => ([], state)) .first .root (TemplatePiece.join taggedSeasons)
        (.tvShow TvShow.untagged) ()).1 = [] := by decide +kernel
    rw [run_render, nothing]

end MediaSite
