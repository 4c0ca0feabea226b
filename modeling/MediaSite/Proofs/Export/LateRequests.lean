import MediaSite.Proofs.Export.Cancellation
import MediaSite.Proofs.Site.Inertness

namespace MediaSite

/-!
# Requests that are heard, and requests that are lost

A run looks only before a page whether it was asked to stop.  So it hears a
request if some page is still ahead of the event at which the request was made,
and then it stops before that page or an earlier one.  A request made while the
last page is in hand, or while a section without pages is announced behind it,
is lost: the run goes on to the list pages, and tells and leaves behind exactly
what it would have without the request.
-/

open scoped Text

variable {σ : Type}

/-- Asks to stop at an event that is told before some page of a plan. -/
def Watcher.AsksInTime (watch : Watcher) (job : ExportJob σ) (tasks : List Task)
    (desk : Desk σ) : Prop :=
  ∃ front part entity back, tasks = front ++ .page part entity :: back ∧
    watch.stops (narrate job 0 (deeds job front desk)) = true

/-- A plan is conducted to its end exactly if, in front of none of its pages,
the watcher has asked to stop. -/
theorem finished_iff (job : ExportJob σ) (watch : Watcher) (tasks : List Task) (desk : Desk σ)
    (events : List ExportEvent) :
    (conduct job watch tasks desk events).finished = true ↔
      ∀ front part entity back, tasks = front ++ .page part entity :: back →
        watch.stops (events ++ narrate job (exportedCount events) (deeds job front desk)) =
          false := by
  induction tasks generalizing desk events with
  | nil =>
      refine ⟨fun _ front part entity back impossible => ?_, fun _ => rfl⟩
      cases front <;> cases impossible
  | cons task tasks inductionHypothesis =>
      -- What is told in front of a later page begins with what is told of this task.
      have later (front : List Task) :
          events ++ narrate job (exportedCount events) (deeds job (task :: front) desk) =
            (events ++ task.told job (exportedCount events) (task.perform job desk).1) ++
              narrate job (exportedCount (events ++
                  task.told job (exportedCount events) (task.perform job desk).1))
                (deeds job front (task.perform job desk).2) := by
        rw [exportedCount_append, List.append_assoc]
        rfl
      rw [conduct]
      by_cases stop : (task.isPage && watch.stops events) = true
      · rw [if_pos stop]
        rcases Bool.and_eq_true_iff.mp stop with ⟨isPage, stopping⟩
        constructor
        · intro impossible
          cases impossible
        · intro never
          cases task with
          | opening part => cases isPage
          | list part => cases isPage
          | page part entity =>
              have asked := never [] part entity tasks rfl
              rw [deeds, narrate, List.append_nil, stopping] at asked
              cases asked
      · rw [if_neg stop, inductionHypothesis]
        constructor
        · intro never front part entity back split
          cases front with
          | nil =>
              cases split
              rw [deeds, narrate, List.append_nil]
              exact Bool.eq_false_iff.mpr stop
          | cons first front =>
              cases split
              rw [later]
              exact never front part entity back rfl
        · intro never front part entity back split
          rw [← later]
          exact never (task :: front) part entity back (by rw [split, List.cons_append])

theorem finished_eq_false_iff (job : ExportJob σ) (watch : Watcher) (tasks : List Task)
    (desk : Desk σ) :
    (conduct job watch tasks desk []).finished = false ↔ watch.AsksInTime job tasks desk := by
  rw [← Bool.not_eq_true, finished_iff, Watcher.AsksInTime]
  simp only [not_forall, exists_prop, Bool.not_eq_false, List.nil_append]
  rfl

/-- A request to stop is heard exactly if a page is still ahead of the event at
which it was made.  Then the run ends cancelled, without any list page.
Otherwise it completes, and nothing but the request tells it from a run that
nobody asks. -/
theorem Exporter.run_hears_requests_in_time (job : ExportJob σ) (watch : Watcher) {quiet : Watcher}
    (never : ∀ number event, quiet number event = false) (sections : List Section)
    (first second : Exporter) {workspace : Workspace σ} {copied : Nat} {files : FileTree}
    (ready : setUp job workspace.files = (.ok copied, files)) :
    let desk : Desk σ := ⟨{ workspace with files }, fun _ => []⟩
    let report := run job watch sections first workspace
    let whole := run job quiet sections second workspace
    (watch.AsksInTime job (job.library.plan sections) desk →
        Halted job sections copied desk report) ∧
      (¬ watch.AsksInTime job (job.library.plan sections) desk →
        report.outcome = .ok ⟨.completed, exportedCount whole.events, listCount whole.events,
          copied⟩ ∧ report.exporter.state = .completed ∧ report.events = whole.events ∧
            report.workspace = whole.workspace) := by
  have asked := run_eq_conduct job watch sections first ready
  have unasked := run_eq_conduct job quiet sections second ready
  rw [conduct_of_finished job (finished_of_quiet job never _ _ _)] at unasked
  simp only [← finished_eq_false_iff, Bool.not_eq_false]
  rw [asked, unasked]
  constructor
  · intro stopped
    rw [stopped]
    exact halted_of_stopped job sections copied stopped
  · intro finished
    rw [conduct_of_finished job finished]
    exact ⟨rfl, rfl, rfl, rfl⟩

/-! ## A request that is lost -/

/-- A library with one movie, a pack without templates, and a resolver that
knows no pictures. -/
def ExportJob.single : ExportJob Unit :=
  { small with library := { movies := [{}] } }

/-- The entries that a run of this job finds and makes, up to some number of them. -/
def Workspace.single (count : Nat) : Workspace Unit where
  files := { entries := List.take count [(["pack"], .directory), (["site"], .directory),
    (["site", "movies"], .directory), (["site", "movies", "0.html"], .file (.text [])),
    (["site", "movies.html"], .file (.text []))] }
  side := ()

theorem ExportJob.setUp_single :
    Exporter.setUp single (Workspace.single 1).files = (.ok 0, (Workspace.single 2).files) := by
  cbv

theorem ExportJob.plan_single :
    single.library.plan [.movies] =
      [.opening .movies, .page .movies (.movie {}), .list .movies] := by
  cbv

theorem ExportJob.entities_single : single.library.entities .movies = [.movie {}] := by
  cbv

/-- Before its only page the job tells one event. -/
theorem ExportJob.asksInTime_single (watch : Watcher) (desk : Desk Unit) :
    watch.AsksInTime single (single.library.plan [.movies]) desk ↔
      watch 1 (.sectionStarted .movies 1) = true := by
  rw [plan_single]
  have told : narrate single 0 (deeds single [.opening .movies] desk) =
      [.sectionStarted .movies 1] := by
    simp only [deeds, narrate, Deed.told, Task.told, entities_single]
    rfl
  constructor
  · rintro ⟨front, part, entity, back, split, asked⟩
    rcases front with _ | ⟨first, _ | ⟨second, _ | ⟨third, front⟩⟩⟩
    · cases split
    · cases split
      rwa [told, Watcher.stops, List.zipIdx_singleton, List.any_cons, List.any_nil,
        Bool.or_false] at asked
    · cases split
    · cases front <;> cases split
  · intro asked
    refine ⟨[.opening .movies], .movies, .movie {}, [.list .movies], rfl, ?_⟩
    rwa [told, Watcher.stops, List.zipIdx_singleton, List.any_cons, List.any_nil, Bool.or_false]

/-- Asked when it announces its movies the job stops, asked at the page of the movie it does
not. -/
theorem Exporter.run_hears_single :
    Halted ExportJob.single [.movies] 0 ⟨.single 2, fun _ => []⟩
        (run ExportJob.single (fun number _ => number == 1) [.movies] {} (.single 1)) ∧
      (run ExportJob.single (fun number _ => number == 2) [.movies] {} (.single 1)).exporter.state =
        .completed := by
  have hears (watch : Watcher) := run_hears_requests_in_time ExportJob.single watch
    (fun _ _ => rfl) [.movies] {} {} ExportJob.setUp_single
  refine ⟨(hears _).1 ?_, ((hears _).2 ?_).2.1⟩
  · rw [ExportJob.asksInTime_single]
    rfl
  · rw [ExportJob.asksInTime_single]
    exact Bool.false_ne_true

theorem ExportJob.perform_opening_single :
    (Task.opening .movies).perform single ⟨.single 2, fun _ => []⟩ =
      (none, ⟨.single 3, fun _ => []⟩) := by
  have made : single.makeDirectories Section.movies.pageKinds (Workspace.single 2).files =
      (Workspace.single 3).files := by cbv
  simp only [Task.perform, made, Function.update_eq_self]

/-- The page of the movie is empty, with any tables. -/
theorem ExportJob.draw_single (tables : PageTables) (workspace : Workspace Unit) :
    ({ single with tables } : ExportJob Unit).draw .item
      (single.pageTemplate .movies (.movie {})) (.movie {}) workspace = ([], workspace) := by
  have fields : renderFields (single.pageTemplate .movies (.movie {})) (.movie {}) = [] := by cbv
  have plain : Text.Plain (renderFields (single.pageTemplate .movies (.movie {})) (.movie {})) := by
    rw [fields]
    exact List.not_mem_nil
  let := tables.orders .item .movie 0
  have whole := Page.draw_of_plain plain single.resolve single.mode .item
  rw [fields] at whole
  exact congrFun whole workspace

theorem ExportJob.perform_page_single :
    (Task.page .movies (.movie {})).perform single ⟨.single 3, fun _ => []⟩ =
      (none, ⟨.single 4, fun _ => []⟩) := by
  have drawn (workspace : Workspace Unit) : single.draw .item
      (single.pageTemplate .movies (.movie {})) (.movie {}) workspace = ([], workspace) :=
    draw_single single.tables workspace
  have noBlock : single.entryBlock .movies (.movie {}) = none := by cbv
  have entry (workspace : Workspace Unit) : single.drawEntry none (.movie {}) workspace =
      ([], workspace) := rfl
  have path : itemPath single.root (Entity.movie {}).kind (Entity.movie {}).id =
      some ⟨"site/movies/0.html"⟩ := by rfl
  have written : FileTree.write ⟨"site/movies/0.html"⟩ (.text []) (Workspace.single 3).files =
      (.ok (), (Workspace.single 4).files) := by cbv
  simp only [Task.perform, drawn, noBlock, entry, writePage, path, Workspace.attempt, written,
    List.append_nil, Function.update_eq_self]

theorem ExportJob.perform_list_single :
    (Task.list .movies).perform single ⟨.single 4, fun _ => []⟩ =
      (none, ⟨.single 5, fun _ => []⟩) := by
  have noBlock : Run.listBlock single .movies = none := by cbv
  have template : single.pack.template .movies = [] := rfl
  have path : listPath single.root .movies = ⟨"site/movies.html"⟩ := by rfl
  have written : FileTree.write ⟨"site/movies.html"⟩ (.text []) (Workspace.single 4).files =
      (.ok (), (Workspace.single 5).files) := by cbv
  simp only [Task.perform, Run.listPage, pendingList, noBlock, template, path, Workspace.attempt,
    written]

/-- Asked to stop at the page of its only movie, which comes before the list page,
the run completes and writes the list page all the same. -/
theorem Exporter.request_at_last_page_lost :
    let report := run ExportJob.single (fun number _ => number == 2) [.movies] {} (.single 1)
    report.events = [.sectionStarted .movies 1,
        .itemExported 1 .movie 0 [] (some ⟨"site/movies/0.html"⟩),
        .listWritten .movies ⟨"site/movies.html"⟩ 0] ∧
      report.outcome = .ok ⟨.completed, 1, 1, 0⟩ ∧ report.exporter.state = .completed := by
  have finished : (conduct ExportJob.single (fun number _ => number == 2)
      (ExportJob.single.library.plan [.movies]) ⟨.single 2, fun _ => []⟩ []).finished = true := by
    rw [← Bool.not_eq_false, finished_eq_false_iff, ExportJob.asksInTime_single]
    exact Bool.false_ne_true
  have conducted := run_eq_conduct ExportJob.single (fun number _ => number == 2) [.movies] {}
    ExportJob.setUp_single
  have desk : (⟨{ Workspace.single 1 with files := (Workspace.single 2).files }, fun _ => []⟩ :
      Desk Unit) = ⟨.single 2, fun _ => []⟩ := rfl
  rw [desk, conduct_of_finished _ finished, ExportJob.plan_single] at conducted
  simp only [deeds, performAll, ExportJob.perform_opening_single, ExportJob.perform_page_single,
    ExportJob.perform_list_single] at conducted
  have told : narrate ExportJob.single 0 [⟨.opening .movies, none⟩,
      ⟨.page .movies (.movie {}), none⟩, ⟨.list .movies, none⟩] =
      [.sectionStarted .movies 1, .itemExported 1 .movie 0 [] (some ⟨"site/movies/0.html"⟩),
        .listWritten .movies ⟨"site/movies.html"⟩ 0] := by
    have items : ExportJob.single.entryCount .movies = 0 := by cbv
    simp only [narrate, Deed.told, Task.told, ExportJob.entities_single, items]
    rfl
  rw [if_pos trivial, List.nil_append, show exportedCount [] = 0 from rfl, told] at conducted
  rw [conducted]
  exact ⟨rfl, rfl, rfl⟩

end MediaSite
