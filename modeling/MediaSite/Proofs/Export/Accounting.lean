import Mathlib.Algebra.Module.Submodule.Lattice
import Mathlib.Computability.Primrec.List
import Mathlib.Data.List.Permutation
import MediaSite.Proofs.Export.Narration

namespace MediaSite

/-!
# The accounts of a run

A run that nobody asks to stop performs every task of its plan and tells of
each.  `Accounts` says what that means for its events and its outcome: every
page is told with the next number, no number is left out, and the numbers end
with that of the records behind the requested sections.

No event tells that an item could not be rendered, since rendering never fails.

The run at the end is evaluated with `cbv`, which takes the equations of `≤`, `List.lookup`
and `Prod.snd` from the modules of Mathlib imported here.
-/

open scoped Text

variable {σ : Type}

/-! ## Numbers -/

namespace ExportEvent

/-- The number that a page is told with. -/
def number? : ExportEvent → Option Nat
  | .itemExported count .. => some count
  | _ => none

/-- Tells that an item could not be rendered. -/
def isItemSkipped : ExportEvent → Bool
  | .itemSkipped .. => true
  | _ => false

end ExportEvent

/-- The number of pages that a list section stands for: one for each record,
and for a show one more for each episode that is there. -/
def Library.pageCount (library : Library) : Section → Nat
  | .movies => library.movies.length
  | .tvShows => (library.tvShows.map fun item => 1 + item.presentEpisodes.length).sum
  | .concerts => library.concerts.length
  | _ => 0

/-- Only seasons have no page of their own. -/
theorem itemPath_of_ne_season (root : Path) {kind : Kind} (other : kind ≠ .season) (id : UInt64) :
    ∃ path, itemPath root kind id = some path := by
  cases kind with
  | season => exact False.elim (other rfl)
  | movie => exact ⟨_, rfl⟩
  | tvShow => exact ⟨_, rfl⟩
  | episode => exact ⟨_, rfl⟩
  | concert => exact ⟨_, rfl⟩

/-- The kinds of the pages of a section are those that it makes directories for. -/
theorem Library.kind_mem_of_mem_pages {library : Library} {part : Section} {entity : Entity}
    (member : entity ∈ library.pages part) : entity.kind ∈ part.pageKinds := by
  rcases List.mem_flatMap.mp member with ⟨owner, inSection, inUnit⟩
  cases part <;> simp only [Library.entities, List.mem_map, List.not_mem_nil] at inSection
  all_goals
    rcases inSection with ⟨record, _, rfl⟩
    simp only [Entity.parts, List.mem_cons, List.mem_map, List.not_mem_nil, or_false] at inUnit
  · rw [inUnit]
    exact List.mem_cons_self
  · rcases inUnit with rfl | ⟨episode, _, rfl⟩
    · exact List.mem_cons_self
    · exact List.mem_cons_of_mem _ List.mem_cons_self
  · rw [inUnit]
    exact List.mem_cons_self

theorem Library.ne_season_of_mem_pages {library : Library} {part : Section} {entity : Entity}
    (member : entity ∈ library.pages part) : entity.kind ≠ .season := by
  have known := kind_mem_of_mem_pages member
  intro season
  rw [season] at known
  revert known
  cases part <;> decide

theorem Library.mem_pages_of_mem_plan {library : Library} {sections : List Section}
    {part : Section} {entity : Entity} (member : .page part entity ∈ library.plan sections) :
    entity ∈ library.pages part := by
  rcases List.mem_append.mp member with early | late
  · rcases List.mem_flatMap.mp early with ⟨owner, _, inSection⟩
    rcases List.mem_cons.mp inSection with opening | inPages
    · cases opening
    · rcases List.mem_map.mp inPages with ⟨_, bearing, same⟩
      rcases Task.page.inj same with ⟨rfl, rfl⟩
      exact bearing
  · rcases List.mem_map.mp late with ⟨_, _, same⟩
    cases same

/-- Sorting loses no records, so a section has as many pages as it stands for. -/
theorem Library.length_pages (library : Library) (part : Section) :
    (library.pages part).length = library.pageCount part := by
  have sorted {α : Type} (key : α → Text × UInt64) (items : List α) :
      (sortByTitle key items).Perm items := List.mergeSort_perm items _
  unfold pages
  rw [List.length_flatMap]
  cases part with
  | movies =>
      simp only [entities, List.map_map, pageCount]
      change (library.sortedMovies.map fun _ => 1).sum = library.movies.length
      rw [List.map_const', List.sum_replicate_nat, Nat.mul_one]
      exact (sorted _ library.movies).length_eq
  | tvShows =>
      have unit (item : TvShow) : 1 + item.presentEpisodes.length =
          (Entity.tvShow item :: (Entity.tvShow item).parts).length := by
        rw [List.length_cons, Entity.parts, List.length_map, TvShow.sortedEpisodes,
          List.length_mergeSort, Nat.add_comm]
      simp only [entities, List.map_map, pageCount, unit]
      exact ((sorted _ library.tvShows).map _).sum_nat
  | concerts =>
      simp only [entities, List.map_map, pageCount]
      change (library.sortedConcerts.map fun _ => 1).sum = library.concerts.length
      rw [List.map_const', List.sum_replicate_nat, Nat.mul_one]
      exact (sorted _ library.concerts).length_eq
  | movie => rfl
  | tvShow => rfl
  | episode => rfl
  | concert => rfl

/-- The pages in the plan of a run are those of the requested sections. -/
theorem Library.countP_isPage_plan (library : Library) (sections : List Section) :
    (library.plan sections).countP Task.isPage =
      ((Exporter.requested sections).map library.pageCount).sum := by
  have lists : ((Exporter.requested sections).map Task.list).countP Task.isPage = 0 := by
    apply List.countP_eq_zero.mpr
    intro task member
    rw [isPage_lists _ task member]
    exact Bool.false_ne_true
  have inSection (part : Section) :
      (library.sectionTasks part).countP Task.isPage = library.pageCount part := by
    rw [sectionTasks, List.countP_cons_of_neg Bool.false_ne_true, List.countP_map,
      ← library.length_pages part]
    exact List.countP_eq_length.mpr fun entity _ => rfl
  rw [plan, List.countP_append, lists, Nat.add_zero, pageTasks, List.countP_flatMap]
  congr 1
  exact List.map_congr_left fun part _ => inSection part

/-! ## Deeds in numbers -/

/-- Every page among these deeds has a path. -/
def Located (job : ExportJob σ) (deeds : List Deed) : Prop :=
  ∀ deed ∈ deeds, ∀ part entity, deed.task = .page part entity →
    ∃ path, itemPath job.root entity.kind entity.id = some path

/-- In the plan of a run, and in every beginning of it, all pages have paths. -/
theorem located_deeds {job : ExportJob σ} {sections : List Section} {done : List Task}
    (beginning : done <+: job.library.plan sections) (desk : Desk σ) :
    Located job (deeds job done desk) := by
  intro deed member part entity isPage
  have planned : Task.page part entity ∈ job.library.plan sections := by
    apply beginning.subset
    rw [← map_task_deeds job done desk, ← isPage]
    exact List.mem_map_of_mem member
  have bearing := Library.ne_season_of_mem_pages (Library.mem_pages_of_mem_plan planned)
  exact itemPath_of_ne_season job.root bearing entity.id

/-- A page is told with the next number, and nothing else is numbered. -/
theorem Deed.numbers_told (job : ExportJob σ) (count : Nat) {deed : Deed}
    (located : ∀ part entity, deed.task = .page part entity →
      ∃ path, itemPath job.root entity.kind entity.id = some path) :
    (deed.told job count).filterMap ExportEvent.number? =
      if deed.task.isPage then [count + 1] else [] := by
  rcases deed with ⟨task, fault⟩
  cases task with
  | opening part => rfl
  | page part entity =>
      rcases located part entity rfl with ⟨path, found⟩
      cases fault <;>
        · simp only [told, Task.told, found]
          rfl
  | list part => cases fault <;> rfl

theorem exportedCount_eq_length (events : List ExportEvent) :
    exportedCount events = (events.filterMap ExportEvent.number?).length := by
  induction events with
  | nil => rfl
  | cons event events inductionHypothesis =>
      rw [exportedCount, List.countP_cons, ← exportedCount, inductionHypothesis]
      cases event <;> rfl

/-- The pages among deeds are told with consecutive numbers. -/
theorem numbers_narrate {job : ExportJob σ} {deeds : List Deed} (located : Located job deeds)
    (count : Nat) :
    (narrate job count deeds).filterMap ExportEvent.number? =
      List.range' (count + 1) ((deeds.map Deed.task).countP Task.isPage) := by
  induction deeds generalizing count with
  | nil => rfl
  | cons deed deeds inductionHypothesis =>
      have own := deed.numbers_told job count (located deed List.mem_cons_self)
      have rest := inductionHypothesis (List.forall_mem_cons.mp located).2
      rw [narrate, List.filterMap_append, rest, exportedCount_eq_length, own, List.map_cons,
        List.countP_cons]
      cases deed.task.isPage with
      | false => rfl
      | true => rw [if_pos rfl, if_pos rfl, List.range'_succ]; rfl

theorem not_isItemSkipped_of_mem_narrate {job : ExportJob σ} {deeds : List Deed} {count : Nat}
    {event : ExportEvent} (member : event ∈ narrate job count deeds) :
    event.isItemSkipped = false := by
  rcases mem_narrate member with ⟨⟨task, fault⟩, _, before, told⟩
  cases task with
  | opening part =>
      rw [List.mem_singleton.mp told]
      rfl
  | page part entity =>
      cases found : itemPath job.root entity.kind entity.id with
      | none => simp [Deed.told, Task.told, found] at told
      | some path =>
          cases fault <;>
            simp only [Deed.told, Task.told, found, List.mem_cons, List.not_mem_nil,
              or_false] at told
          · rw [told]
            rfl
          · rcases told with rfl | rfl <;> rfl
  | list part =>
      cases fault <;>
        · rw [List.mem_singleton.mp told]
          rfl

/-! ## Accounts -/

/-- The accounts of a completed run: the deeds behind its events are all tasks
of its plan, and its numbers agree with them. -/
structure Accounts (job : ExportJob σ) (sections : List Section) (copied : Nat)
    (deeds : List Deed) (report : RunReport σ) : Prop where
  /-- Every task of the plan is done once, in order. -/
  complete : deeds.map Deed.task = job.library.plan sections
  events : report.events = narrate job 0 deeds
  /-- Every page has a path, so what is told of it ends with its number. -/
  located : Located job deeds
  numbers : report.events.filterMap ExportEvent.number? =
    List.range' 1 ((Exporter.requested sections).map job.library.pageCount).sum
  outcome : report.outcome = .ok ⟨.completed,
    ((Exporter.requested sections).map job.library.pageCount).sum, listCount report.events, copied⟩
  rendered : ∀ event ∈ report.events, event.isItemSkipped = false

/-- A run that nobody asks to stop accounts for all of its plan; and rendering,
in this run or any other, fails for no template and no entity. -/
theorem Exporter.run_accounts (job : ExportJob σ) {watch : Watcher}
    (quiet : ∀ number event, watch number event = false) (sections : List Section)
    (exporter : Exporter) {workspace : Workspace σ} {copied : Nat} {files : FileTree}
    (ready : setUp job workspace.files = (.ok copied, files)) :
    Accounts job sections copied
        (deeds job (job.library.plan sections) ⟨{ workspace with files }, fun _ => []⟩)
        (run job watch sections exporter workspace) ∧
      ∀ [TableOrders] (τ : Type) (resolve : Resolver τ) mode depth template entity (state : τ),
        ∃ page after, (Page.render resolve mode depth template entity).run state =
          (.ok page, after) := by
  have whole := run_eq_conduct job watch sections exporter ready
  rw [conduct_of_finished job (finished_of_quiet job quiet _ _ _)] at whole
  generalize performed :
    deeds job (job.library.plan sections) ⟨{ workspace with files }, fun _ => []⟩ = done at whole ⊢
  have complete : done.map Deed.task = job.library.plan sections := by
    rw [← performed]
    exact map_task_deeds job _ _
  have located : Located job done := by
    rw [← performed]
    exact located_deeds List.prefix_rfl _
  have numbers := numbers_narrate located 0
  rw [complete, job.library.countP_isPage_plan] at numbers
  have count : exportedCount (narrate job 0 done) =
      ((requested sections).map job.library.pageCount).sum := by
    rw [exportedCount_eq_length, numbers, List.length_range']
  refine ⟨?_, fun τ resolve mode depth template entity state => ⟨_, _, Page.run_render ..⟩⟩
  rw [whole]
  exact {
    complete
    events := rfl
    located
    numbers
    outcome := by rw [← count]; rfl
    rendered := fun event member => not_isItemSkipped_of_mem_narrate member }

/-- A library with one show that has one episode, a pack without templates, and
a resolver that knows no pictures. -/
def ExportJob.small : ExportJob Unit where
  library := { tvShows := [{ episodes := [{}] }] }
  pack := { root := ⟨"pack"⟩, manifest := {}, templates := [] }
  resolve := fun _ workspace => ([], workspace)
  root := ⟨"site"⟩
  mode := .first

/-- The directory of the small job's pack, and nothing else. -/
def Workspace.small : Workspace Unit where
  files := { entries := [(["pack"], .directory)] }
  side := ()

theorem ExportJob.setUp_small :
    Exporter.setUp small Workspace.small.files =
      (.ok 0, { entries := [(["pack"], .directory), (["site"], .directory)] }) := by
  cbv

/-- The page of the small job's show and that of its episode are numbered in order. -/
theorem Exporter.numbers_small :
    (run ExportJob.small (fun _ _ => false) [.tvShows] {} Workspace.small).events.filterMap
      ExportEvent.number? = [1, 2] :=
  (run_accounts ExportJob.small (fun _ _ => rfl) [.tvShows] {} ExportJob.setUp_small).1.numbers

end MediaSite
