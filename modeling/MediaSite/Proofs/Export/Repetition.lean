import MediaSite.Proofs.Export.Assets
import MediaSite.Proofs.Export.FileEffect

namespace MediaSite

/-!
# Working through a plan again

What a run tells, and what it does to the files, depends on the files that it finds and not
on what its resolver remembers, if that touches no files and answers as its requests say.
So a run is an operation on files (`Exporter.runOn`), and once its output directory is there
it can be repeated: each of its tasks can, since the directories for pages are made before
the pages are written.
-/

open scoped Text

variable {σ : Type}

/-! ## Desks with the same files -/

/-- Nothing but what the resolver remembers differs. -/
structure Desk.Alike (first second : Desk σ) : Prop where
  files : first.workspace.files = second.workspace.files
  entries : first.entries = second.entries

/-- The desk in another tree. -/
def Desk.withFiles (desk : Desk σ) (files : FileTree) : Desk σ :=
  { desk with workspace := { desk.workspace with files } }

/-- Why an operation failed, if it did. -/
def failure? : Except FileError Unit → Option FileError
  | .ok () => none
  | .error error => some error

theorem Workspace.attempt_eq (action : FileAction Unit) (workspace : Workspace σ) :
    (workspace.attempt action).1 = failure? (action workspace.files).1 ∧
      (workspace.attempt action).2.files = (action workspace.files).2 := by
  rw [attempt]
  rcases action workspace.files with ⟨error | ⟨⟩, files⟩ <;> exact ⟨rfl, rfl⟩

/-- A task as an operation on files: why it failed, if it did, and the tree that it leaves. -/
def Task.onFiles (job : ExportJob σ) (desk : Desk σ) (task : Task) (files : FileTree) :
    Option FileError × FileTree :=
  match task.place? with
  | some place =>
    let written := FileTree.write (job.root.joinNames place) (.text (task.text job desk)) files
    (failure? written.1, written.2)
  | none =>
    match task with
    | .opening part => (none, job.makeDirectories part.pageKinds files)
    | _ => (none, files)

/-- Two legs that have come equally far and told the same. -/
structure Leg.InStep (related : Desk σ → Desk σ → Prop) (first second : Leg σ) : Prop where
  finished : first.finished = second.finished
  events : first.events = second.events
  desk : related first.desk second.desk

/-- Tasks that two jobs perform alike are conducted alike. -/
theorem conduct_in_step {job other : ExportJob σ} {related : Desk σ → Desk σ → Prop}
    {tasks : List Task} (performed : ∀ task ∈ tasks, ∀ first second, related first second →
      (task.perform job first).1 = (task.perform other second).1 ∧
        related (task.perform job first).2 (task.perform other second).2)
    (told : ∀ count fault (task : Task), task.told job count fault = task.told other count fault)
    (watch : Watcher) {first second : Desk σ} (start : related first second)
    (events : List ExportEvent) :
    Leg.InStep related (conduct job watch tasks first events)
      (conduct other watch tasks second events) := by
  induction tasks generalizing first second events with
  | nil => exact ⟨rfl, rfl, start⟩
  | cons task tasks inductionHypothesis =>
      rcases performed task List.mem_cons_self first second start with ⟨fault, after⟩
      rw [conduct, conduct, fault, told]
      split
      · exact ⟨rfl, rfl, start⟩
      · exact inductionHypothesis (List.forall_mem_cons.mp performed).2 after _

section Steady

variable {job : ExportJob σ} (steady : job.resolve.Steady)

include steady

/-- What is entered with a page does not depend on the files. -/
theorem entries_perform_page (part : Section) (entity : Entity) (desk : Desk σ) :
    ((Task.page part entity).perform job desk).2.entries = Function.update desk.entries part
      (desk.entries part ++
        (job.drawEntry (job.entryBlock part entity) entity desk.workspace).1) := by
  rw [steady.constant.drawEntry _ _ desk.workspace (job.draw .item (job.pageTemplate part entity)
    entity desk.workspace).2]
  rfl

/-- What is entered for a list page depends on what was entered before, not on the files. -/
theorem entries_perform {first second : Desk σ} (same : first.entries = second.entries)
    (task : Task) :
    (task.perform job first).2.entries = (task.perform job second).2.entries := by
  cases task with
  | opening part => exact congrArg (Function.update · part []) same
  | list part => exact same
  | page part entity =>
      rw [entries_perform_page steady, entries_perform_page steady, same,
        steady.constant.drawEntry _ _ first.workspace second.workspace]

theorem text_of_entries {first second : Desk σ} (same : first.entries = second.entries)
    (task : Task) : task.text job first = task.text job second := by
  cases task with
  | opening part => rfl
  | page part entity => exact steady.constant.draw _ _ _ _ _
  | list part => rw [Task.text, Task.text, same]

theorem onFiles_of_entries {first second : Desk σ} (same : first.entries = second.entries)
    (task : Task) : task.onFiles job first = task.onFiles job second := by
  funext files
  unfold Task.onFiles
  rw [text_of_entries steady same]

theorem perform_onFiles (task : Task) (desk : Desk σ) :
    ((task.perform job desk).1, (task.perform job desk).2.workspace.files) =
      task.onFiles job desk desk.workspace.files := by
  cases placed : task.place? with
  | some place =>
      rcases perform_eq_attempt steady placed desk with ⟨workspace, files, fault, after⟩
      rcases workspace.attempt_eq
        (FileTree.write (job.root.joinNames place) (.text (task.text job desk))) with ⟨first, rest⟩
      unfold Task.onFiles
      rw [fault, after, first, rest, files, placed]
  | none =>
      cases task with
      | opening part => rfl
      | list part => cases placed
      | page part entity =>
          have nameless : itemPath job.root entity.kind entity.id = none := by
            rw [itemPath_eq, show entity.kind.place? entity.id = none from placed]
            rfl
          unfold Task.onFiles
          rw [placed]
          simp only [Task.perform, ExportJob.writePage, nameless]
          exact congrArg _ ((steady.files_drawEntry (job.entryBlock part entity) entity _).trans
            (steady.files_draw .item (job.pageTemplate part entity) entity desk.workspace))

/-- Desks with the same files are worked on alike. -/
theorem Desk.Alike.perform {first second : Desk σ} (alike : first.Alike second) (task : Task) :
    (task.perform job first).1 = (task.perform job second).1 ∧
      (task.perform job first).2.Alike (task.perform job second).2 := by
  have left := perform_onFiles steady task first
  have right := perform_onFiles steady task second
  rw [alike.files, onFiles_of_entries steady alike.entries, ← right] at left
  rcases Prod.mk.inj left with ⟨faults, files⟩
  exact ⟨faults, files, entries_perform steady alike.entries task⟩

theorem Desk.Alike.conduct {first second : Desk σ} (alike : first.Alike second) (watch : Watcher)
    (tasks : List Task) (events : List ExportEvent) :
    Leg.InStep Desk.Alike (MediaSite.conduct job watch tasks first events)
      (MediaSite.conduct job watch tasks second events) :=
  conduct_in_step (fun task _ _ _ related => related.perform steady task) (fun _ _ _ => rfl) watch
    alike events

end Steady

/-! ## Tasks that can be repeated -/

open FileTree

theorem Kind.downward_directory {kind : Kind} {directory : Text}
    (known : kind.pageDirectory? = some directory) : Downward [directory] := by
  have placed : kind.place? 0 = some ([directory] ++ [Text.ofNat 0 ++ ".html"]) := by
    rw [place?, known]
    rfl
  exact (Kind.downward_place placed).front (List.cons_ne_nil _ _)

section Tasks

variable {job : ExportJob σ} {base : Location} {tree : FileTree}

theorem repeatable_pageDirectories (filled : job.root.text ≠ []) (regular : tree.Regular)
    (grounded : tree.Grounded job.root base) (kinds : List Kind) :
    Repeatable base (fun files => ((none : Option FileError), job.makeDirectories kinds files))
      tree := by
  induction kinds generalizing tree with
  | nil => exact .of_idle regular none fun _ _ _ => rfl
  | cons kind kinds inductionHypothesis =>
      cases known : kind.pageDirectory? with
      | none =>
          have same (files : FileTree) : job.makeDirectories (kind :: kinds) files =
              job.makeDirectories kinds files := by
            rw [ExportJob.makeDirectories, List.foldl_cons, known]
            rfl
          simp only [same]
          exact inductionHypothesis regular grounded
      | some directory =>
          have same (files : FileTree) : job.makeDirectories (kind :: kinds) files =
              job.makeDirectories kinds
                (makeDirectories (job.root.joinNames [directory]) files).2 := by
            rw [ExportJob.makeDirectories, List.foldl_cons, known, Path.joinNames, Text.join,
              List.intercalate_singleton]
            rfl
          simp only [same]
          have downward := Kind.downward_directory known
          have made := repeatable_makeDirectories regular (grounded.below filled downward)
            downward.proper
          rcases made.ahead with ⟨writes, ahead⟩
          exact made.andThen (fun _ files => (none, job.makeDirectories kinds files))
            (inductionHypothesis made.regular (grounded.of_changes ahead.changes))

/-- Behind the opening of its section, nothing is missing on the way to a page. -/
theorem resolve_of_opening (filled : job.root.text ≠ []) (regular : tree.Regular)
    (grounded : tree.Grounded job.root base) {kinds : List Kind} {kind : Kind}
    (member : kind ∈ kinds) {id : UInt64} {place : Location} (placed : kind.place? id = some place) :
    (job.makeDirectories kinds tree).resolve true (job.root.joinNames place) ≠
      .error .notFound := by
  induction kinds generalizing tree with
  | nil => cases member
  | cons first kinds inductionHypothesis =>
      have own := job.changes_makeDirectories [first] tree
      have split : job.makeDirectories (first :: kinds) tree =
          job.makeDirectories kinds (job.makeDirectories [first] tree) := rfl
      have kept := (repeatable_pageDirectories filled regular grounded [first]).regular
      rw [split]
      rcases List.mem_cons.mp member with rfl | inRest
      · apply resolve_not_missing_of_changes (own.linkFree regular.free)
          (job.changes_makeDirectories kinds _)
        have downward := Kind.downward_place placed
        rcases Option.map_eq_some_iff.mp placed with ⟨directory, known, rfl⟩
        have made : job.makeDirectories [kind] tree =
            (makeDirectories (job.root.joinNames [directory]) tree).2 := by
          rw [ExportJob.makeDirectories, List.foldl_cons, known, Path.joinNames, Text.join,
            List.intercalate_singleton]
          rfl
        rw [made]
        exact grounded.resolve_behind regular filled downward (List.cons_ne_nil _ _)
      · exact inductionHypothesis kept (grounded.of_changes own) inRest

/-- A task can be repeated where nothing is missing on the way to its place. -/
theorem repeatable_onFiles (filled : job.root.text ≠ []) (regular : tree.Regular)
    (grounded : tree.Grounded job.root base) (desk : Desk σ) (task : Task)
    (ready : ∀ place, task.place? = some place →
      tree.resolve true (job.root.joinNames place) ≠ .error .notFound) :
    Repeatable base (task.onFiles job desk) tree := by
  unfold Task.onFiles
  cases placed : task.place? with
  | some place =>
      exact (repeatable_write regular grounded (Task.downward_place placed) _
        (ready place placed)).map failure?
  | none =>
      cases task with
      | opening part => exact repeatable_pageDirectories filled regular grounded part.pageKinds
      | page part entity => exact .pure regular none
      | list part => exact .pure regular none

end Tasks

/-! ## Plans that can be repeated -/

/-- Before each page comes the opening of its section, or else nothing is missing on the way
to the page. -/
def Prepared (job : ExportJob σ) (tasks : List Task) (files : FileTree) : Prop :=
  ∀ front part entity back place, tasks = front ++ .page part entity :: back →
    entity.kind.place? entity.id = some place →
      .opening part ∈ front ∧ entity.kind ∈ part.pageKinds ∨
        files.resolve true (job.root.joinNames place) ≠ .error .notFound

theorem Library.prepared_plan (job : ExportJob σ) (sections : List Section) (files : FileTree) :
    Prepared job (job.library.plan sections) files := by
  intro front part entity back place split placed
  have planned : .page part entity ∈ job.library.plan sections :=
    split ▸ List.mem_append_right front List.mem_cons_self
  exact .inl ⟨job.library.opened_plan sections front part entity back split,
    kind_mem_of_mem_pages (mem_pages_of_mem_plan planned)⟩

section Plans

variable {job : ExportJob σ} (steady : job.resolve.Steady) {base : Location} {tree : FileTree}
  {watch : Watcher}

/-- Conducting a plan as an operation on files: whether it came to its end, what was told,
and the tree that it leaves. -/
def conductOn (job : ExportJob σ) (watch : Watcher) (tasks : List Task) (desk : Desk σ)
    (events : List ExportEvent) (files : FileTree) : (Bool × List ExportEvent) × FileTree :=
  let leg := conduct job watch tasks (desk.withFiles files) events
  ((leg.finished, leg.events), leg.desk.workspace.files)

include steady

/-- On what a plan is conducted does not matter apart from the entries. -/
theorem conductOn_of_entries {first second : Desk σ} (same : first.entries = second.entries)
    (tasks : List Task) (events : List ExportEvent) :
    conductOn job watch tasks first events = conductOn job watch tasks second events := by
  funext files
  have alike : (first.withFiles files).Alike (second.withFiles files) := ⟨rfl, same⟩
  have leg := alike.conduct steady watch tasks events
  rw [conductOn, conductOn, leg.finished, leg.events, leg.desk.files]

theorem conductOn_cons {task : Task} {desk : Desk σ} {events : List ExportEvent}
    (goesOn : ¬ (task.isPage && watch.stops events) = true) (tasks : List Task) :
    conductOn job watch (task :: tasks) desk events = fun files =>
      conductOn job watch tasks (task.perform job desk).2
        (events ++ task.told job (exportedCount events) (task.onFiles job desk files).1)
        (task.onFiles job desk files).2 := by
  funext files
  have entries : (desk.withFiles files).entries = desk.entries := rfl
  have performed := perform_onFiles steady task (desk.withFiles files)
  rw [onFiles_of_entries steady entries] at performed
  have fault : (task.perform job (desk.withFiles files)).1 = (task.onFiles job desk files).1 :=
    congrArg Prod.fst performed
  have after : (task.perform job (desk.withFiles files)).2.workspace.files =
      (task.onFiles job desk files).2 := congrArg Prod.snd performed
  have alike : ((task.perform job (desk.withFiles files)).2).Alike
      ((task.perform job desk).2.withFiles (task.onFiles job desk files).2) :=
    ⟨after, entries_perform steady entries task⟩
  have leg := alike.conduct steady watch tasks
    (events ++ task.told job (exportedCount events) (task.onFiles job desk files).1)
  rw [conductOn, conductOn, conduct, if_neg goesOn, fault, leg.finished, leg.events,
    leg.desk.files]

/-- A plan can be repeated, whatever the watcher does. -/
theorem repeatable_conductOn (filled : job.root.text ≠ []) (tasks : List Task) (desk : Desk σ)
    (events : List ExportEvent) (regular : tree.Regular) (grounded : tree.Grounded job.root base)
    (prepared : Prepared job tasks tree) :
    Repeatable base (conductOn job watch tasks desk events) tree := by
  induction tasks generalizing desk events tree with
  | nil => exact .pure regular (true, events)
  | cons task tasks inductionHypothesis =>
      by_cases stop : (task.isPage && watch.stops events) = true
      · refine .of_idle regular (false, events) fun later writes ahead => ?_
        rw [conductOn, conduct, if_pos stop]
        rfl
      · have ready (place : Location) (placed : task.place? = some place) :
            tree.resolve true (job.root.joinNames place) ≠ .error .notFound := by
          cases task with
          | opening part => cases placed
          | page part entity =>
              rcases prepared [] part entity tasks place rfl placed with ⟨opened, _⟩ | found
              · cases opened
              · exact found
          | list part =>
              cases placed
              exact grounded.resolve_name filled part.downward_fileName
        have own := repeatable_onFiles filled regular grounded desk task ready
        rcases own.ahead with ⟨writes, ahead⟩
        rw [conductOn_cons steady stop]
        refine own.andThen (fun fault files => conductOn job watch tasks (task.perform job desk).2
          (events ++ task.told job (exportedCount events) fault) files) ?_
        refine inductionHypothesis _ _ own.regular (grounded.of_changes ahead.changes) ?_
        intro front part entity back place split placed
        rcases prepared (task :: front) part entity back place (by rw [split]; rfl) placed with
          ⟨opened, belongs⟩ | found
        · rcases List.mem_cons.mp opened with rfl | earlier
          · exact .inr (resolve_of_opening filled regular grounded belongs placed)
          · exact .inl ⟨earlier, belongs⟩
        · exact .inr (resolve_not_missing_of_changes regular.free ahead.changes found)

end Plans

/-! ## Runs that can be repeated -/

/-- A report without what the resolver remembers. -/
def RunReport.seen (report : RunReport σ) : RunReport Unit :=
  { report with workspace := ⟨report.workspace.files, ()⟩ }

namespace Exporter

/-- A run that has its output directory, as an operation on files: the number of assets that
were copied, whether the plan came to its end, what was told, and the tree that it leaves. -/
def runOn (job : ExportJob σ) (watch : Watcher) (sections : List Section) (desk : Desk σ) :
    FileAction (Nat × Bool × List ExportEvent) :=
  inTurn (job.pack.copyAssets job.root) fun copied files =>
    let conducted := conductOn job watch (job.library.plan sections) desk [] files
    (.ok (copied, conducted.1), conducted.2)

theorem run_of_unmade (job : ExportJob σ) {workspace : Workspace σ} {files : FileTree}
    {problem : FileError}
    (unmade : makeDirectories job.root workspace.files = (.error problem, files))
    (watch : Watcher) (sections : List Section) (exporter : Exporter) :
    (run job watch sections exporter workspace).seen =
      { outcome := .error (.file problem), exporter := {}, workspace := ⟨files, ()⟩,
        events := [] } := by
  have failed : setUp job workspace.files = (.error (.file problem), files) := by
    rw [setUp, unmade]
  rw [run, failed]
  rfl

/-- The report of a run that has its output directory. -/
def reportOn (watch : Watcher) :
    Except FileError (Nat × Bool × List ExportEvent) × FileTree → RunReport Unit
  | (.error error, files) => {
      outcome := .error (.pack (.file error))
      exporter := {}
      workspace := ⟨files, ()⟩
      events := [] }
  | (.ok (copied, finished, events), files) =>
      finish (if finished then .completed else .cancelled) copied
        (Run.telling watch ⟨files, ()⟩ events)

theorem run_of_made (job : ExportJob σ) {workspace : Workspace σ} {files : FileTree}
    (made : makeDirectories job.root workspace.files = (.ok (), files)) (watch : Watcher)
    (sections : List Section) (exporter : Exporter) :
    (run job watch sections exporter workspace).seen =
      reportOn watch (runOn job watch sections ⟨workspace, fun _ => []⟩ files) := by
  rcases assets : job.pack.copyAssets job.root files with ⟨error | copied, middle⟩
  · have failed : setUp job workspace.files = (.error (.pack (.file error)), middle) := by
      rw [setUp, made]
      simp only [assets]
    simp only [run, failed, runOn, inTurn, assets]
    rfl
  · have ready : setUp job workspace.files = (.ok copied, middle) := by
      rw [setUp, made]
      simp only [assets]
    rw [run_eq_conduct job watch sections exporter ready]
    simp only [runOn, inTurn, assets]
    rfl

section Again

variable {job : ExportJob σ} (steady : job.resolve.Steady) {base : Location} {tree : FileTree}

include steady

theorem runOn_of_entries (watch : Watcher) (sections : List Section) {first second : Desk σ}
    (same : first.entries = second.entries) :
    runOn job watch sections first = runOn job watch sections second := by
  funext files
  unfold runOn
  rw [conductOn_of_entries steady same]

/-- A run that has its output directory can be repeated, unless its pack stands in there. -/
theorem repeatable_runOn {packRoot : Location} (ready : Pack.Ready job.root packRoot base tree)
    (located : tree.canonical job.pack.root = .ok packRoot) (apart : ¬ base <+: packRoot)
    (watch : Watcher) (sections : List Section) (desk : Desk σ) :
    Repeatable base (runOn job watch sections desk) tree := by
  have assets := Pack.repeatable_copyAssets ready located apart
  refine assets.inTurn fun copied files writes done kept ahead => ?_
  have conducted : Repeatable base
      (conductOn job watch (job.library.plan sections) desk []) files :=
    repeatable_conductOn steady ready.filled _ desk [] kept
      (ready.grounded.of_changes ahead.changes) (Library.prepared_plan job sections files)
  exact conducted.map fun result => Except.ok (copied, result)

end Again

end Exporter

end MediaSite
