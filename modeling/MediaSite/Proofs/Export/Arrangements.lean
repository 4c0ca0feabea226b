import MediaSite.Proofs.Export.Conduct
import MediaSite.Picture.Recording
import MediaSite.Proofs.Site.SameView

namespace MediaSite

/-!
# Exports of one library in several arrangements

Two arrangements of a library have plans that run in step: the same openings and
list pages, and pages of entities that are seen the same.  Performing a task and
telling of it look at no more than that, so the runs are equal in everything:
events, outcome, files, and the state of the resolver.
-/

open scoped Text

variable {σ : Type}

/-! ## Plans in step -/

/-- The same task, for entities that are seen the same. -/
inductive Task.SameView : Task → Task → Prop where
  | opening (part : Section) : SameView (.opening part) (.opening part)
  | page (part : Section) {first second : Entity} (same : first.SameView second) :
    SameView (.page part first) (.page part second)
  | list (part : Section) : SameView (.list part) (.list part)

theorem Entity.SameView.parts {first second : Entity} (same : first.SameView second) :
    List.Forall₂ Entity.SameView first.parts second.parts := by
  cases same with
  | tvShow same =>
      rw [Entity.parts, Entity.parts, same.sortedEpisodes, List.forall₂_map_left_iff,
        List.forall₂_map_right_iff, List.forall₂_same]
      exact fun record _ => .episode same record
  | movie record => exact .nil
  | season same number => exact .nil
  | episode same record => exact .nil
  | concert record => exact .nil

namespace Library.Alike

variable {first second : Library}

theorem entities (alike : first.Alike second) (ids : first.OwnIds) (part : Section) :
    List.Forall₂ Entity.SameView (first.entities part) (second.entities part) := by
  cases part with
  | movies =>
      rw [Library.entities, Library.entities, alike.sortedMovies ids, List.forall₂_map_left_iff,
        List.forall₂_map_right_iff, List.forall₂_same]
      exact fun record _ => .movie record
  | tvShows =>
      rw [Library.entities, Library.entities, List.forall₂_map_left_iff,
        List.forall₂_map_right_iff]
      exact (alike.sortedTvShows ids).imp fun _ _ related => .tvShow related.2
  | concerts =>
      rw [Library.entities, Library.entities, alike.sortedConcerts ids, List.forall₂_map_left_iff,
        List.forall₂_map_right_iff, List.forall₂_same]
      exact fun record _ => .concert record
  | movie => exact .nil
  | tvShow => exact .nil
  | episode => exact .nil
  | concert => exact .nil

theorem pages (alike : first.Alike second) (ids : first.OwnIds) (part : Section) :
    List.Forall₂ Entity.SameView (first.pages part) (second.pages part) :=
  List.rel_flatMap (alike.entities ids part) fun _ _ same => .cons same same.parts

/-- The plans of two arrangements run in step. -/
theorem plan (alike : first.Alike second) (ids : first.OwnIds) (sections : List Section) :
    List.Forall₂ Task.SameView (first.plan sections) (second.plan sections) := by
  have tasks (part : Section) :
      List.Forall₂ Task.SameView (first.sectionTasks part) (second.sectionTasks part) := by
    refine .cons (.opening part) ?_
    rw [List.forall₂_map_left_iff, List.forall₂_map_right_iff]
    exact (alike.pages ids part).imp fun _ _ same => .page part same
  refine List.rel_append (List.rel_flatMap (List.forall₂_same.mpr fun _ _ => rfl) ?_) ?_
  · rintro part _ rfl
    exact tasks part
  · rw [List.forall₂_map_left_iff, List.forall₂_map_right_iff, List.forall₂_same]
    exact fun part _ => .list part

end Library.Alike

/-! ## Runs in step -/

/-- Entities that are seen the same are drawn the same, with the same tables. -/
theorem ExportJob.draw_sameView {job : ExportJob σ} (superficial : job.resolve.Superficial)
    {first second : Entity} (same : first.SameView second) (depth : PageDepth) (template : Text) :
    job.draw depth template first = job.draw depth template second := by
  rw [draw, draw, same.kind, same.id]
  let := job.tables.orders depth second.kind second.id
  exact Page.draw_sameView superficial same job.mode depth template

namespace Task.SameView

variable {task other : Task} {job : ExportJob σ}

/-- Both tasks are performed alike, whatever library the job has. -/
theorem perform (same : task.SameView other) (superficial : job.resolve.Superficial)
    (library : Library) (desk : Desk σ) :
    task.perform job desk = other.perform { job with library } desk := by
  cases same with
  | opening part => rfl
  | list part => rfl
  | @page part first second same =>
      have template : job.pageTemplate part first = job.pageTemplate part second := by
        cases same <;> rfl
      have block : job.entryBlock part first = job.entryBlock part second := by
        cases same <;> rfl
      have entry (block : Option Block) : job.drawEntry block first =
          job.drawEntry block second := by
        cases block with
        | none => rfl
        | some block =>
            simp only [ExportJob.drawEntry, ExportJob.draw_sameView superficial same .root block.inner]
      have written (content : Text) : job.writePage first content = job.writePage second content := by
        funext workspace
        rw [ExportJob.writePage, ExportJob.writePage, same.kind, same.id]
      have drawn := ExportJob.draw_sameView superficial same .item (job.pageTemplate part second)
      change (Task.page part first).perform job desk = (Task.page part second).perform job desk
      simp only [Task.perform, template, block, entry, written, drawn]

/-- The same is told of both tasks if the libraries have the same number of items. -/
theorem told (same : task.SameView other) {library : Library}
    (counts : ∀ part, (job.library.entities part).length = (library.entities part).length)
    (count : Nat) (fault : Option FileError) :
    task.told job count fault = other.told { job with library } count fault := by
  cases same with
  | opening part => simp only [Task.told, counts]
  | list part =>
      have items : job.entryCount part = ({ job with library } : ExportJob σ).entryCount part := by
        simp only [ExportJob.entryCount, counts]
        rfl
      cases fault with
      | none => simp only [Task.told, items]
      | some error => rfl
  | @page part first second same =>
      simp only [Task.told, same.kind, same.id, same.title]

end Task.SameView

/-- Plans in step are conducted alike. -/
theorem conduct_sameView {job : ExportJob σ} (superficial : job.resolve.Superficial)
    {library : Library}
    (counts : ∀ part, (job.library.entities part).length = (library.entities part).length)
    (watch : Watcher) {tasks others : List Task} (inStep : List.Forall₂ Task.SameView tasks others)
    (desk : Desk σ) (events : List ExportEvent) :
    conduct job watch tasks desk events = conduct { job with library } watch others desk events := by
  induction inStep generalizing desk events with
  | nil => rfl
  | @cons task other tasks others same _ inductionHypothesis =>
      have page : task.isPage = other.isPage := by
        cases same <;> rfl
      rw [conduct, conduct, page, same.perform superficial library desk, same.told counts]
      split
      · rfl
      · exact inductionHypothesis _ _

/-- Arrangements of one library are exported by the same run. -/
theorem Exporter.run_eq_of_alike {job : ExportJob σ} (superficial : job.resolve.Superficial)
    {library : Library} (alike : job.library.Alike library) (ids : job.library.OwnIds)
    (watch : Watcher) (sections : List Section) (exporter : Exporter) (workspace : Workspace σ) :
    run job watch sections exporter workspace =
      run { job with library } watch sections exporter workspace := by
  have counts (part : Section) := (alike.entities ids part).length_eq
  have sameSetUp : setUp { job with library } workspace.files = setUp job workspace.files := rfl
  rcases ready : setUp job workspace.files with ⟨error | copied, files⟩
  · simp only [run, sameSetUp, ready]
  · rw [run_eq_conduct job watch sections exporter ready,
      run_eq_conduct { job with library } watch sections exporter (sameSetUp.trans ready),
      conduct_sameView superficial counts watch (alike.plan ids sections)]

/-- Two arrangements of a library have the same sorted lists, each of them in order, and the
same exports: neither the order of the records nor dummy episodes can be told from a site. -/
theorem Library.Alike.same_export {first second : Library} (alike : first.Alike second)
    (ids : first.OwnIds) :
    first.sortedMovies = second.sortedMovies ∧ first.sortedConcerts = second.sortedConcerts ∧
      List.Forall₂ (fun left right => left.Alike right ∧ left.SameView right)
        first.sortedTvShows second.sortedTvShows ∧
      first.Ordered ∧ second.Ordered ∧
      ∀ (σ : Type) (job : ExportJob σ), job.resolve.Superficial → job.library = first →
        ∀ watch sections exporter workspace,
          Exporter.run job watch sections exporter workspace =
            Exporter.run { job with library := second } watch sections exporter workspace := by
  refine ⟨alike.sortedMovies ids, alike.sortedConcerts ids, alike.sortedTvShows ids, ids.ordered,
    (alike.ownIds ids).ordered, ?_⟩
  rintro σ job superficial rfl watch sections exporter workspace
  exact Exporter.run_eq_of_alike superficial alike ids watch sections exporter workspace

/-- Two movies, and a show with two episodes. -/
def Library.arranged : Library where
  movies := [{ id := 1, title := "Beta" }, { id := 2, title := "alpha" }]
  tvShows := [{ episodes := [{ id := 1, number := 2 }, { id := 2, number := 1 }] }]

/-- The same the other way round, with a dummy episode. -/
def Library.rearranged : Library where
  movies := [{ id := 2, title := "alpha" }, { id := 1, title := "Beta" }]
  tvShows := [{ episodes := [{ id := 2, number := 1 }, { id := 3, dummy := true },
    { id := 1, number := 2 }] }]

/-- A job for them, with artwork over a backend without pixels. -/
def ExportJob.arranged : ExportJob (Artwork (List BackendCall)) where
  library := .arranged
  pack := { root := ⟨"pack"⟩, manifest := {}, templates := [] }
  resolve := Artwork.resolver ⟨RecordingTable.backend {}, ⟨"site"⟩, 90⟩
  root := ⟨"site"⟩
  mode := .first

theorem Library.same_export_arranged :
    Library.arranged.sortedMovies = Library.rearranged.sortedMovies ∧
      ∀ workspace, Exporter.run ExportJob.arranged (fun _ _ => false) [.movies, .tvShows] {}
          workspace =
        Exporter.run { ExportJob.arranged with library := .rearranged } (fun _ _ => false)
          [.movies, .tvShows] {} workspace := by
  have shows_ : TvShow.Alike
      { episodes := [{ id := 1, number := 2 }, { id := 2, number := 1 }] }
      { episodes := [{ id := 2, number := 1 }, { id := 3, dummy := true },
        { id := 1, number := 2 }] } := ⟨rfl, List.Perm.swap _ _ _⟩
  have alike : Library.arranged.Alike .rearranged :=
    ⟨List.Perm.swap _ _ _, ⟨_, List.Perm.refl _, .cons shows_ .nil⟩, List.Perm.refl _⟩
  have ids : Library.arranged.OwnIds :=
    ⟨by decide, by decide, by decide, List.forall_mem_singleton.mpr (by decide)⟩
  have same := alike.same_export ids
  exact ⟨same.1, same.2.2.2.2.2 _ ExportJob.arranged (Artwork.superficial_resolver _) rfl _ _ _⟩

end MediaSite
