import Mathlib.Data.List.Induction
import MediaSite.Proofs.Export.Accounting

namespace MediaSite

/-!
# Runs that are asked to stop

A run that is asked to stop and the run that nobody asks work through the same
plan, and they differ in nothing before the page at which the one stops.  So
its events are a beginning of the events of the other.  Between the event at
which it is asked and its end it tells the rest of the page in hand, if writing
that page failed, and announces the sections that have no page before the next
stop; it never reaches a list page.
-/

open scoped Text

variable {σ : Type}

/-! ## When a watcher asks -/

/-- Asks to stop at the event of some number, and not before. -/
structure Watcher.StopsAt (watch : Watcher) (number : Nat) : Prop where
  early : ∀ earlier < number, ∀ event, watch earlier event = false
  here : ∀ event, watch number event = true

/-- Such a watcher has asked as soon as there are so many events. -/
theorem Watcher.StopsAt.stops_iff {watch : Watcher} {number : Nat} (asks : watch.StopsAt number)
    (positive : 1 ≤ number) (events : List ExportEvent) :
    watch.stops events = true ↔ number ≤ events.length := by
  induction events using List.reverseRecOn with
  | nil =>
      rw [stops_nil, List.length_nil]
      constructor
      · intro impossible
        cases impossible
      · omega
  | append_singleton events event inductionHypothesis =>
      rw [stops_concat, Bool.or_eq_true, inductionHypothesis, List.length_append,
        List.length_singleton]
      rcases Nat.lt_trichotomy (events.length + 1) number with before | same | behind
      · rw [asks.early _ before]
        constructor
        · rintro (done | impossible)
          · omega
          · cases impossible
        · omega
      · rw [same, asks.here]
        exact ⟨fun _ => Nat.le_refl number, fun _ => .inr rfl⟩
      · constructor
        · intro _
          omega
        · intro _
          exact .inl (by omega)

/-! ## What is told afterwards -/

namespace ExportEvent

def isSectionStarted : ExportEvent → Bool
  | .sectionStarted .. => true
  | _ => false

/-- The path of a page that was written. -/
def writtenPath? : ExportEvent → Option Path
  | .itemExported _ _ _ _ path => path
  | _ => none

end ExportEvent

/-- Several events are told of a task only if it failed to write a page: the
failure, and the page without its path. -/
theorem Task.told_cases (job : ExportJob σ) (count : Nat) (fault : Option FileError) (task : Task) :
    (task.told job count fault).length ≤ 1 ∨ ∃ path error number kind id title,
      task.told job count fault =
        [.fileSkipped path error, .itemExported number kind id title none] := by
  cases task with
  | opening part => exact .inl (Nat.le_refl 1)
  | page part entity =>
      cases found : itemPath job.root entity.kind entity.id with
      | none =>
          simp only [told, found]
          exact .inl (Nat.zero_le 1)
      | some path =>
          cases fault with
          | none =>
              simp only [told, found]
              exact .inl (Nat.le_refl 1)
          | some error =>
              simp only [told, found]
              exact .inr ⟨_, _, _, _, _, _, rfl⟩
  | list part => cases fault <;> exact .inl (Nat.le_refl 1)

/-- What is told after the event of some number: the end of a page that could
not be written, and announcements. -/
def Aftermath (number : Nat) (events : List ExportEvent) : Prop :=
  ∃ closing openings, events.drop number = closing ++ openings ∧
    (closing = [] ∨ ∃ path error count kind id title,
      events[number - 1]? = some (.fileSkipped path error) ∧
        closing = [.itemExported count kind id title none]) ∧
    ∀ event ∈ openings, event.isSectionStarted = true

/-- A run that was asked to stop goes on with announcements only, until the next page. -/
theorem conduct_of_stops (job : ExportJob σ) {watch : Watcher} {tasks : List Task}
    (noList : ∀ task ∈ tasks, task.isList = false) (desk : Desk σ) {events : List ExportEvent}
    (stop : watch.stops events = true) :
    ∃ openings, (conduct job watch tasks desk events).events = events ++ openings ∧
      ∀ event ∈ openings, event.isSectionStarted = true := by
  induction tasks generalizing desk events with
  | nil => exact ⟨[], (List.append_nil events).symm, List.forall_mem_nil _⟩
  | cons task tasks inductionHypothesis =>
      have rest := (List.forall_mem_cons.mp noList).2
      cases task with
      | opening part =>
          rcases inductionHypothesis rest
            ((Task.opening part).perform job desk).2
            (Watcher.stops_of_append stop
              [.sectionStarted part (job.library.entities part).length]) with ⟨openings, told, only⟩
          refine ⟨.sectionStarted part (job.library.entities part).length :: openings, ?_, ?_⟩
          · rw [List.append_cons]
            exact told
          · exact List.forall_mem_cons.mpr ⟨rfl, only⟩
      | page part entity =>
          refine ⟨[], ?_, List.forall_mem_nil _⟩
          rw [conduct, Task.isPage, Bool.true_and, if_pos stop, List.append_nil]
      | list part => cases noList (.list part) List.mem_cons_self

/-- Where a task tells the event of some number, it has one more event to tell
at most. -/
theorem Task.told_drop (job : ExportJob σ) (count : Nat) (fault : Option FileError) (task : Task)
    {number : Nat} (positive : 1 ≤ number)
    (inside : number ≤ (task.told job count fault).length) :
    (task.told job count fault).drop number = [] ∨ ∃ path error count' kind id title,
      (task.told job count fault)[number - 1]? = some (.fileSkipped path error) ∧
        (task.told job count fault).drop number = [.itemExported count' kind id title none] := by
  rcases task.told_cases job count fault with few | ⟨path, error, count', kind, id, title, same⟩
  · exact .inl (List.drop_eq_nil_of_le (Nat.le_trans few positive))
  · rw [same] at inside ⊢
    rcases Nat.exists_eq_add_of_le positive with ⟨rest, rfl⟩
    cases rest with
    | zero => exact .inr ⟨path, error, count', kind, id, title, rfl, rfl⟩
    | succ rest =>
        left
        apply List.drop_eq_nil_of_le
        simp only [List.length_cons, List.length_nil]
        omega

theorem aftermath_of_told {events told openings : List ExportEvent} {offset : Nat}
    (positive : 1 ≤ offset) (inside : offset ≤ told.length)
    (closing : told.drop offset = [] ∨ ∃ path error count kind id title,
      told[offset - 1]? = some (.fileSkipped path error) ∧
        told.drop offset = [.itemExported count kind id title none])
    (only : ∀ event ∈ openings, event.isSectionStarted = true) :
    Aftermath (events.length + offset) (events ++ told ++ openings) := by
  refine ⟨told.drop offset, openings, ?_, ?_, only⟩
  · rw [List.append_assoc, List.drop_length_add_append, List.drop_append_of_le_length inside]
  · rcases closing with nothing | ⟨path, error, count, kind, id, title, skipped, rest⟩
    · exact .inl nothing
    · refine .inr ⟨path, error, count, kind, id, title, ?_, rest⟩
      have index : events.length + offset - 1 = events.length + (offset - 1) := by omega
      have present : offset - 1 < told.length := by omega
      rw [List.append_assoc, index, List.getElem?_append_right (Nat.le_add_right _ _),
        Nat.add_sub_cancel_left, List.getElem?_append_left present, skipped]

theorem aftermath_conduct (job : ExportJob σ) {watch : Watcher} {number : Nat}
    (asks : watch.StopsAt number) {tasks : List Task} (noList : ∀ task ∈ tasks, task.isList = false)
    (desk : Desk σ) {events : List ExportEvent} (before : events.length < number)
    (stopped : (conduct job watch tasks desk events).finished = false) :
    Aftermath number (conduct job watch tasks desk events).events := by
  induction tasks generalizing desk events with
  | nil => cases stopped
  | cons task tasks inductionHypothesis =>
      have positive : 1 ≤ number := by omega
      have rest := (List.forall_mem_cons.mp noList).2
      have goesOn : ¬ (task.isPage && watch.stops events) = true := by
        intro stop
        have asked := (asks.stops_iff positive events).mp (Bool.and_eq_true_iff.mp stop).2
        omega
      rw [conduct, if_neg goesOn] at stopped ⊢
      by_cases later :
          (events ++ task.told job (exportedCount events) (task.perform job desk).1).length < number
      · exact inductionHypothesis rest _ later stopped
      -- The event of this number is told of this task.
      · have asked := (asks.stops_iff positive _).mpr (Nat.not_lt.mp later)
        rcases conduct_of_stops job rest _ asked with ⟨openings, told, only⟩
        rcases Nat.exists_eq_add_of_le (Nat.le_of_lt before) with ⟨offset, rfl⟩
        have inside : offset ≤
            (task.told job (exportedCount events) (task.perform job desk).1).length := by
          rw [List.length_append] at later
          omega
        rw [told]
        exact aftermath_of_told (by omega) inside
          (task.told_drop job _ _ (by omega) inside) only

/-! ## Deeds without list pages -/

def Deed.writtenPath? (job : ExportJob σ) (deed : Deed) : Option Path :=
  match deed.task, deed.fault with
  | .page _ entity, none => itemPath job.root entity.kind entity.id
  | _, _ => none

/-- The pages that are told to be written are those that were. -/
theorem writtenPaths_narrate (job : ExportJob σ) (count : Nat) (deeds : List Deed) :
    (narrate job count deeds).filterMap ExportEvent.writtenPath? =
      deeds.filterMap (Deed.writtenPath? job) := by
  induction deeds generalizing count with
  | nil => rfl
  | cons deed deeds inductionHypothesis =>
      have own : (deed.told job count).filterMap ExportEvent.writtenPath? =
          (deed.writtenPath? job).toList := by
        rcases deed with ⟨task, fault⟩
        cases task with
        | opening part => rfl
        | page part entity =>
            cases found : itemPath job.root entity.kind entity.id with
            | none => cases fault <;> simp [Deed.told, Task.told, Deed.writtenPath?, found]
            | some path =>
                cases fault <;> simp only [Deed.told, Task.told, Deed.writtenPath?, found] <;> rfl
        | list part => cases fault <;> rfl
      rw [narrate, List.filterMap_append, own, inductionHypothesis, List.filterMap_cons]
      cases deed.writtenPath? job <;> rfl

theorem listCount_narrate (job : ExportJob σ) (count : Nat) {deeds : List Deed}
    (noList : ∀ deed ∈ deeds, deed.task.isList = false) :
    listCount (narrate job count deeds) = 0 := by
  induction deeds generalizing count with
  | nil => rfl
  | cons deed deeds inductionHypothesis =>
      have own : listCount (deed.told job count) = 0 := by
        have noListHere := noList deed List.mem_cons_self
        rcases deed with ⟨task, fault⟩
        cases task with
        | opening part => rfl
        | page part entity =>
            cases found : itemPath job.root entity.kind entity.id <;> cases fault <;>
              simp only [Deed.told, Task.told, found] <;> rfl
        | list part => cases noListHere
      rw [narrate, listCount_append, own, Nat.zero_add]
      exact inductionHypothesis _ (List.forall_mem_cons.mp noList).2

theorem Library.isList_pageTasks (library : Library) (parts : List Section) :
    ∀ task ∈ library.pageTasks parts, task.isList = false := by
  intro task member
  rcases List.mem_flatMap.mp member with ⟨part, _, inSection⟩
  rcases List.mem_cons.mp inSection with rfl | inPages
  · rfl
  · rcases List.mem_map.mp inPages with ⟨entity, _, rfl⟩
    rfl

/-- A run that does not finish stops before the first list page. -/
theorem conduct_plan_of_stopped (job : ExportJob σ) (watch : Watcher) (sections : List Section)
    (desk : Desk σ) (events : List ExportEvent)
    (stopped : (conduct job watch (job.library.plan sections) desk events).finished = false) :
    conduct job watch (job.library.plan sections) desk events =
      conduct job watch (job.library.pageTasks (Exporter.requested sections)) desk events := by
  rw [Library.plan, conduct_append] at stopped ⊢
  split
  · rename_i finished
    rw [if_pos finished, finished_of_no_page job watch (isPage_lists _)] at stopped
    cases stopped
  · rfl

/-! ## Runs that stop -/

/-- A run that stopped before a page of its plan. -/
structure Halted (job : ExportJob σ) (sections : List Section) (copied : Nat) (desk : Desk σ)
    (report : RunReport σ) : Prop where
  outcome : report.outcome = .ok ⟨.cancelled, exportedCount report.events, 0, copied⟩
  state : report.exporter.state = .cancelled
  noList : listCount report.events = 0
  /-- The work that was done is a beginning of the plan without any list page:
  it accounts for the workspace, for the events, and for the pages told. -/
  work : ∃ done, done <+: job.library.plan sections ∧
    (∀ task ∈ done, task.isList = false) ∧
    report.workspace = (performAll job done desk).workspace ∧
    report.events = narrate job 0 (deeds job done desk) ∧
    exportedCount report.events = done.countP Task.isPage ∧
    report.events.filterMap ExportEvent.writtenPath? =
      (deeds job done desk).filterMap (Deed.writtenPath? job)

theorem halted_of_stopped (job : ExportJob σ) {watch : Watcher} (sections : List Section)
    (copied : Nat) {desk : Desk σ}
    (stopped : (conduct job watch (job.library.plan sections) desk []).finished = false) :
    let leg := conduct job watch (job.library.plan sections) desk []
    Halted job sections copied desk
      (Exporter.finish .cancelled copied (Run.telling watch leg.desk.workspace leg.events)) := by
  have toPages := conduct_plan_of_stopped job watch sections desk [] stopped
  rw [toPages] at stopped ⊢
  have noList := job.library.isList_pageTasks (Exporter.requested sections)
  rcases conduct_split job watch
    (job.library.pageTasks (Exporter.requested sections)) desk [] with
    ⟨done, rest, split, desks, told, _⟩
  have events : (conduct job watch (job.library.pageTasks (Exporter.requested sections)) desk
      []).events = narrate job 0 (deeds job done desk) := told
  have beginning : done <+: job.library.plan sections := by
    rw [Library.plan, split, List.append_assoc]
    exact List.prefix_append done _
  have noListDone (task : Task) (member : task ∈ done) : task.isList = false :=
    noList task (by rw [split]; exact List.mem_append_left rest member)
  have tasks := map_task_deeds job done desk
  have noListDeeds : ∀ deed ∈ deeds job done desk, deed.task.isList = false := by
    intro deed member
    apply noListDone
    rw [← tasks]
    exact List.mem_map_of_mem member
  have units : exportedCount (narrate job 0 (deeds job done desk)) = done.countP Task.isPage := by
    rw [exportedCount_eq_length, numbers_narrate (located_deeds beginning desk),
      List.length_range', tasks]
  have lists : listCount (narrate job 0 (deeds job done desk)) = 0 :=
    listCount_narrate job 0 noListDeeds
  rw [← events] at units lists
  refine {
    outcome := ?_
    state := rfl
    noList := lists
    work := ⟨done, beginning, noListDone, congrArg Desk.workspace desks, events, units, ?_⟩ }
  · simp only [Exporter.finish, Run.telling, lists]
  · exact (congrArg (List.filterMap ExportEvent.writtenPath?) events).trans
      (writtenPaths_narrate job 0 (deeds job done desk))

/-! ## Two runs side by side -/

/-- A run that stopped before its end. -/
structure Cancelled (job : ExportJob σ) (sections : List Section) (number copied : Nat)
    (desk : Desk σ) (report : RunReport σ) : Prop where
  outcome : report.outcome = .ok ⟨.cancelled, exportedCount report.events, 0, copied⟩
  noList : listCount report.events = 0
  aftermath : Aftermath number report.events
  /-- The work that was done is a beginning of the plan without any list page:
  it accounts for the workspace, for the events, and for the pages told. -/
  work : ∃ done, done <+: job.library.plan sections ∧
    (∀ task ∈ done, task.isList = false) ∧
    report.workspace = (performAll job done desk).workspace ∧
    report.events = narrate job 0 (deeds job done desk) ∧
    exportedCount report.events = done.countP Task.isPage ∧
    report.events.filterMap ExportEvent.writtenPath? =
      (deeds job done desk).filterMap (Deed.writtenPath? job)

/-- What a run that is asked to stop at the event of some number has in common
with the run from the same start that nobody asks. -/
structure CutShort (job : ExportJob σ) (sections : List Section) (number copied : Nat)
    (desk : Desk σ) (cut whole : RunReport σ) : Prop where
  beginning : cut.events <+: whole.events
  covers : whole.events.take number <+: cut.events
  /-- The run completes and is the same in everything, or it stops before its end. -/
  ending : (cut.outcome = .ok ⟨.completed, exportedCount whole.events, listCount whole.events,
      copied⟩ ∧ cut.events = whole.events ∧ cut.workspace = whole.workspace) ∨
    Cancelled job sections number copied desk cut

/-- A run that stops before its end leaves the work of the first pages behind. -/
theorem cancelled_of_stopped (job : ExportJob σ) {watch : Watcher} {number : Nat}
    (positive : 1 ≤ number) (asks : watch.StopsAt number) (sections : List Section) (copied : Nat)
    {desk : Desk σ}
    (stopped : (conduct job watch (job.library.plan sections) desk []).finished = false) :
    let leg := conduct job watch (job.library.plan sections) desk []
    Cancelled job sections number copied desk
      (Exporter.finish .cancelled copied (Run.telling watch leg.desk.workspace leg.events)) := by
  have halted := halted_of_stopped job sections copied stopped
  have toPages := conduct_plan_of_stopped job watch sections desk [] stopped
  rw [toPages] at stopped halted ⊢
  have noList := job.library.isList_pageTasks (Exporter.requested sections)
  have start : ([] : List ExportEvent).length < number := positive
  exact {
    outcome := halted.outcome
    noList := halted.noList
    aftermath := aftermath_conduct job asks noList desk start stopped
    work := halted.work }

/-- A run that is asked to stop is a beginning of the run that is not. -/
theorem Exporter.run_cut_short (job : ExportJob σ) {watch quiet : Watcher} {number : Nat}
    (positive : 1 ≤ number) (asks : watch.StopsAt number)
    (never : ∀ number event, quiet number event = false) (sections : List Section)
    (first second : Exporter) {workspace : Workspace σ} {copied : Nat} {files : FileTree}
    (ready : setUp job workspace.files = (.ok copied, files)) :
    CutShort job sections number copied ⟨{ workspace with files }, fun _ => []⟩
      (run job watch sections first workspace) (run job quiet sections second workspace) := by
  have cut := run_eq_conduct job watch sections first ready
  have whole := run_eq_conduct job quiet sections second ready
  rw [conduct_of_finished job (finished_of_quiet job never _ _ _)] at whole
  generalize (⟨{ workspace with files }, fun _ => []⟩ : Desk σ) = desk at cut whole ⊢
  rw [cut, whole]
  cases finished : (conduct job watch (job.library.plan sections) desk []).finished with
  | true =>
      rw [conduct_of_finished job finished]
      exact ⟨List.prefix_rfl, List.take_prefix _ _, .inl ⟨rfl, rfl, rfl⟩⟩
  | false =>
      have stopped := cancelled_of_stopped job positive asks sections copied finished
      rcases conduct_split job watch
        (job.library.plan sections) desk [] with ⟨done, rest, split, _, told, ending⟩
      have long : number ≤
          (conduct job watch (job.library.plan sections) desk []).events.length := by
        rcases ending with ⟨impossible, _⟩ | ⟨_, _, asked⟩
        · rw [finished] at impossible
          cases impossible
        · exact (asks.stops_iff positive _).mp asked
      -- What the other run tells further is narrated behind the same events.
      have parts : narrate job 0 (deeds job (job.library.plan sections) desk) =
          (conduct job watch (job.library.plan sections) desk []).events ++
            narrate job (exportedCount (narrate job 0 (deeds job done desk)))
              (deeds job rest (performAll job done desk)) := by
        rw [told, split, deeds_append, narrate_append, Nat.zero_add]
        rfl
      refine ⟨?_, ?_, .inr stopped⟩
      · change _ <+: narrate job 0 (deeds job (job.library.plan sections) desk)
        rw [parts]
        exact List.prefix_append _ _
      · change (narrate job 0 (deeds job (job.library.plan sections) desk)).take number <+: _
        rw [parts, List.take_append_of_le_length long]
        exact List.take_prefix number _

/-- Asked to stop as soon as it announces the shows, the small job has told a
beginning of what it would have told. -/
theorem Exporter.beginning_small :
    (run ExportJob.small (fun number _ => number == 1) [.tvShows] {} Workspace.small).events <+:
      (run ExportJob.small (fun _ _ => false) [.tvShows] {} Workspace.small).events := by
  have asks : Watcher.StopsAt (fun number _ => number == 1) 1 := by
    refine ⟨?_, fun _ => rfl⟩
    intro earlier before _
    rw [Nat.lt_one_iff.mp before]
    rfl
  exact (run_cut_short ExportJob.small (Nat.le_refl 1) asks (fun _ _ => rfl) [.tvShows] {} {}
    ExportJob.setUp_small).beginning

end MediaSite
