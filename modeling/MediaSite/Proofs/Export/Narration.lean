import MediaSite.Proofs.Export.Conduct

namespace MediaSite

/-!
# What a run tells

A deed is a task that was performed, with what became of its page.  The deeds
of a plan do not depend on the watcher, and the events of a run are the
narration of the deeds that it came to: all of them if nobody asks it to stop,
and otherwise those of the first tasks, up to some page that was not begun.
-/

open scoped Text

variable {σ : Type}

/-! ## Deeds -/

/-- A task that was performed, and why its page could not be written. -/
structure Deed where
  task : Task
  fault : Option FileError

/-- The deeds that performing tasks one after the other amounts to. -/
def deeds (job : ExportJob σ) : List Task → Desk σ → List Deed
  | [], _ => []
  | task :: rest, desk =>
    ⟨task, (task.perform job desk).1⟩ :: deeds job rest (task.perform job desk).2

/-- The desk after performing tasks one after the other. -/
def performAll (job : ExportJob σ) : List Task → Desk σ → Desk σ
  | [], desk => desk
  | task :: rest, desk => performAll job rest (task.perform job desk).2

theorem performAll_append (job : ExportJob σ) (first second : List Task) (desk : Desk σ) :
    performAll job (first ++ second) desk = performAll job second (performAll job first desk) := by
  induction first generalizing desk with
  | nil => rfl
  | cons task first inductionHypothesis => exact inductionHypothesis _

def Deed.told (job : ExportJob σ) (count : Nat) (deed : Deed) : List ExportEvent :=
  deed.task.told job count deed.fault

/-- What is told about deeds, given the number of pages before them. -/
def narrate (job : ExportJob σ) : Nat → List Deed → List ExportEvent
  | _, [] => []
  | count, deed :: rest =>
    deed.told job count ++ narrate job (count + exportedCount (deed.told job count)) rest

theorem map_task_deeds (job : ExportJob σ) (tasks : List Task) (desk : Desk σ) :
    (deeds job tasks desk).map Deed.task = tasks := by
  induction tasks generalizing desk with
  | nil => rfl
  | cons task tasks inductionHypothesis =>
      rw [deeds, List.map_cons, inductionHypothesis]

theorem deeds_append (job : ExportJob σ) (first second : List Task) (desk : Desk σ) :
    deeds job (first ++ second) desk =
      deeds job first desk ++ deeds job second (performAll job first desk) := by
  induction first generalizing desk with
  | nil => rfl
  | cons task first inductionHypothesis =>
      rw [List.cons_append, deeds, deeds, performAll, inductionHypothesis, List.cons_append]

/-- A deed is done on the desk that the tasks before it leave. -/
theorem split_of_mem_deeds {job : ExportJob σ} {tasks : List Task} {desk : Desk σ} {deed : Deed}
    (member : deed ∈ deeds job tasks desk) :
    ∃ front back, tasks = front ++ deed.task :: back ∧
      deed.fault = (deed.task.perform job (performAll job front desk)).1 := by
  induction tasks generalizing desk with
  | nil => cases member
  | cons task tasks inductionHypothesis =>
      rcases List.mem_cons.mp member with rfl | later
      · exact ⟨[], tasks, rfl, rfl⟩
      · rcases inductionHypothesis later with ⟨front, back, split, fault⟩
        exact ⟨task :: front, back, by rw [split, List.cons_append], fault⟩

theorem exportedCount_append (first second : List ExportEvent) :
    exportedCount (first ++ second) = exportedCount first + exportedCount second :=
  List.countP_append

theorem listCount_append (first second : List ExportEvent) :
    listCount (first ++ second) = listCount first + listCount second :=
  List.countP_append

theorem narrate_append (job : ExportJob σ) (count : Nat) (first second : List Deed) :
    narrate job count (first ++ second) =
      narrate job count first ++
        narrate job (count + exportedCount (narrate job count first)) second := by
  induction first generalizing count with
  | nil => rfl
  | cons deed first inductionHypothesis =>
      rw [List.cons_append, narrate, narrate, inductionHypothesis, exportedCount_append,
        List.append_assoc, Nat.add_assoc]

theorem mem_narrate {job : ExportJob σ} {deeds : List Deed} {count : Nat} {event : ExportEvent}
    (member : event ∈ narrate job count deeds) :
    ∃ deed ∈ deeds, ∃ before, event ∈ deed.told job before := by
  induction deeds generalizing count with
  | nil => cases member
  | cons deed deeds inductionHypothesis =>
      rcases List.mem_append.mp member with own | later
      · exact ⟨deed, List.mem_cons_self, count, own⟩
      · rcases inductionHypothesis later with ⟨other, inRest, before, told⟩
        exact ⟨other, List.mem_cons_of_mem _ inRest, before, told⟩

/-- What is read off events, one by one, is read off the deeds if that goes for each deed. -/
theorem filterMap_narrate {α : Type} {job : ExportJob σ} {read : ExportEvent → Option α}
    {source : Deed → Option α}
    (each : ∀ deed count, (deed.told job count).filterMap read = (source deed).toList)
    (count : Nat) (deeds : List Deed) :
    (narrate job count deeds).filterMap read = deeds.filterMap source := by
  induction deeds generalizing count with
  | nil => rfl
  | cons deed deeds inductionHypothesis =>
      rw [narrate, List.filterMap_append, inductionHypothesis, each, List.filterMap_cons]
      cases source deed <;> rfl

/-! ## Stopping -/

theorem Watcher.stops_append (watch : Watcher) (first second : List ExportEvent) :
    watch.stops (first ++ second) =
      (watch.stops first || (second.zipIdx (first.length + 1)).any fun item =>
        watch item.2 item.1) := by
  rw [stops, stops, List.zipIdx_append, List.any_append, Nat.add_comm]

theorem Watcher.stops_of_append {watch : Watcher} {first : List ExportEvent}
    (stop : watch.stops first = true) (second : List ExportEvent) :
    watch.stops (first ++ second) = true := by
  rw [stops_append, stop, Bool.true_or]

/-- A plan is conducted up to its end, or up to a page before which the watcher
has asked to stop. -/
theorem conduct_split (job : ExportJob σ) (watch : Watcher) (tasks : List Task) (desk : Desk σ)
    (events : List ExportEvent) :
    let leg := conduct job watch tasks desk events
    ∃ done rest, tasks = done ++ rest ∧ leg.desk = performAll job done desk ∧
      leg.events = events ++ narrate job (exportedCount events) (deeds job done desk) ∧
      (leg.finished = true ∧ rest = [] ∨
        leg.finished = false ∧ (∃ part entity later, rest = .page part entity :: later) ∧
          watch.stops leg.events = true) := by
  induction tasks generalizing desk events with
  | nil => exact ⟨[], [], rfl, rfl, (List.append_nil events).symm, .inl ⟨rfl, rfl⟩⟩
  | cons task tasks inductionHypothesis =>
      rw [conduct]
      by_cases stop : (task.isPage && watch.stops events) = true
      · rcases Bool.and_eq_true_iff.mp stop with ⟨isPage, stopping⟩
        have page : ∃ part entity later, task :: tasks = .page part entity :: later := by
          cases task with
          | opening part => cases isPage
          | page part entity => exact ⟨part, entity, tasks, rfl⟩
          | list part => cases isPage
        simp only [if_pos stop]
        exact ⟨[], task :: tasks, rfl, rfl, (List.append_nil events).symm,
          .inr ⟨trivial, page, stopping⟩⟩
      · simp only [if_neg stop]
        rcases inductionHypothesis
          (task.perform job desk).2
          (events ++ task.told job (exportedCount events) (task.perform job desk).1) with
          ⟨done, rest, split, desks, told, ending⟩
        refine ⟨task :: done, rest, by rw [split, List.cons_append], desks, ?_, ending⟩
        rw [told, exportedCount_append, List.append_assoc]
        rfl

/-- A run that finishes has conducted all of its plan. -/
theorem conduct_of_finished (job : ExportJob σ) {watch : Watcher} {tasks : List Task}
    {desk : Desk σ} {events : List ExportEvent}
    (finished : (conduct job watch tasks desk events).finished = true) :
    conduct job watch tasks desk events = ⟨true, performAll job tasks desk,
      events ++ narrate job (exportedCount events) (deeds job tasks desk)⟩ := by
  rcases conduct_split job watch tasks desk events with ⟨done, rest, split, desks, told, ending⟩
  rcases ending with ⟨_, empty⟩ | ⟨unfinished, _⟩
  · rw [empty, List.append_nil] at split
    subst split
    cases leg : conduct job watch tasks desk events with
    | mk whole after events =>
        rw [leg] at desks told finished
        simp only at desks told finished
        rw [desks, told, finished]
  · rw [finished] at unfinished
    cases unfinished

/-- A run that comes to an outcome has performed a beginning of its plan, and all of it if
it is completed. -/
theorem Exporter.run_of_outcome {job : ExportJob σ} {watch : Watcher} {sections : List Section}
    {exporter : Exporter} {workspace : Workspace σ} {outcome : ExportOutcome}
    (ended : (run job watch sections exporter workspace).outcome = .ok outcome) :
    ∃ files done rest, setUp job workspace.files = (.ok outcome.assetsCopied, files) ∧
      job.library.plan sections = done ++ rest ∧ (outcome.state = .completed → rest = []) ∧
      (run job watch sections exporter workspace).workspace =
        (performAll job done ⟨{ workspace with files }, fun _ => []⟩).workspace ∧
      (run job watch sections exporter workspace).events =
        narrate job 0 (deeds job done ⟨{ workspace with files }, fun _ => []⟩) := by
  rcases ready : setUp job workspace.files with ⟨copied | copied, files⟩
  · simp only [run, ready] at ended
    cases ended
  · have conducted := run_eq_conduct job watch sections exporter ready
    rcases conduct_split job watch (job.library.plan sections)
      ⟨{ workspace with files }, fun _ => []⟩ [] with ⟨done, rest, split, desks, told, ending⟩
    rw [conducted] at ended ⊢
    rw [← Except.ok.inj ended]
    refine ⟨files, done, rest, rfl, split, ?_, congrArg Desk.workspace desks, told⟩
    rintro completed
    rcases ending with ⟨_, nothing⟩ | ⟨unfinished, _⟩
    · exact nothing
    · simp only [unfinished] at completed
      cases completed

theorem finished_of_quiet (job : ExportJob σ) {watch : Watcher}
    (quiet : ∀ number event, watch number event = false) (tasks : List Task) (desk : Desk σ)
    (events : List ExportEvent) : (conduct job watch tasks desk events).finished = true := by
  have never (events : List ExportEvent) : watch.stops events = false := by
    rw [Watcher.stops, List.any_eq_false]
    intro item _
    rw [quiet]
    exact Bool.false_ne_true
  induction tasks generalizing desk events with
  | nil => rfl
  | cons task tasks inductionHypothesis =>
      rw [conduct, never, Bool.and_false, if_neg Bool.false_ne_true]
      exact inductionHypothesis _ _

theorem performAll_eq_conduct (job : ExportJob σ) (tasks : List Task) (desk : Desk σ) :
    performAll job tasks desk = (conduct job (fun _ _ => false) tasks desk []).desk := by
  rw [conduct_of_finished job (finished_of_quiet job (fun _ _ => rfl) tasks desk [])]

theorem Exporter.completed_of_quiet (job : ExportJob σ) {watch : Watcher}
    (quiet : ∀ number event, watch number event = false) (sections : List Section)
    (exporter : Exporter) {workspace : Workspace σ} {copied : Nat} {files : FileTree}
    (ready : setUp job workspace.files = (.ok copied, files)) :
    ∃ outcome, (run job watch sections exporter workspace).outcome = .ok outcome ∧
      outcome.state = .completed := by
  rw [run_eq_conduct job watch sections exporter ready, finished_of_quiet job quiet]
  exact ⟨_, rfl, rfl⟩

end MediaSite
